import Anytty.LineHist.Recovery

/-!
# Reopening a line file

`roundTrips_iff` characterises the append sequences that survive closing and reopening the file.
The writer puts a line of any size into a block of its own, while the parser rejects a block of
more than `compressedBlockMaxRawBytes`.  The assembler bounds only the text of a line, not its
styles and links, so it emits lines that make a file impossible to open again.
-/

namespace Anytty.LineHist

open Anytty.Wire List Log

namespace CompressedLineFile

variable {c : Codecs} {options : CompressedLineFileOptions}

/-! ### Closing and opening again -/

theorem currentFormat_encode (record : Record) (rest : Bytes) :
    currentFormat (record.encode c options ++ rest) = true := by
  obtain ⟨tail, starts⟩ : ∃ tail, record.encode c options ++ rest =
      putLE 4 compressedBlockMagic ++ (putLE 2 compressedBlockVersion ++ tail) := by
    unfold Record.encode makeCompressedBlockHeader
    exact ⟨_, by simp only [List.append_assoc]; rfl⟩
  have long : 6 ≤ (putLE 4 compressedBlockMagic ++ (putLE 2 compressedBlockVersion ++ tail)).length := by
    simp only [length_append, putLE_length]
    omega
  unfold currentFormat
  rw [starts, field_putLE]
  rfl

variable (c options) in
theorem openedContents_encode (log : Log) (rest : Bytes) (some_record : log ≠ []) :
    openedContents (.opened (encode c options log ++ rest)) =
      encode c options log ++ rest := by
  obtain ⟨record, log, rfl⟩ := exists_cons_of_ne_nil some_record
  rw [encode_cons, List.append_assoc, openedContents, if_pos (currentFormat_encode record _)]

variable (unlimited : options.maxBytes = 0 ∧ options.maxAge = 0)
include unlimited

variable (c) in
theorem open_nil (w : World) : ∃ f₀, openCompressedLineFile w options .nil = .ok f₀ ∧
    f₀.options = options ∧ Shows c f₀ [] [] := by
  refine ⟨{ (⟨[], 0, [], 0⟩ : Recovered).file options [] with readings := 1 }, ?_, rfl, [], ?_, rfl,
    fun _ => Iff.rfl⟩
  · rw [openCompressedLineFile_eq .nil unlimited]
    simp only [openedContents, recoverLoop_nil]
  · exact ⟨rfl, rfl, rfl, rfl, trivial, rfl, .inl (Nat.zero_le 1)⟩

variable {gaps : List Nat} {log : Log} {count : Nat}

/-- Every run of calls on a file succeeds, and so does the close; what is on the disk then is a log
of the lines that were there and the appended ones. -/
theorem closed_log {f₀ : CompressedLineFile} {known : List Line}
    (kept : f₀.options = options) (shows : Shows c f₀ known gaps) (w : World) (ops : List Op) :
    ∃ f f' log, run c w ops f₀ = (f, none) ∧
      f.close c w = ((f', none), .opened (encode c options log)) ∧ Log.Follows 0 [] log ∧
      Log.lines log = known ++ appended ops ∧ f.gapOffsets = Log.gaps log ∧
      ∀ gap, gap ∈ Log.gaps log ↔ gap ∈ gaps ++ gapCalls known.length ops := by
  obtain ⟨ok, same, shows⟩ := run_adds (w := w) (by rwa [Unlimited, kept]) shows ops
  generalize ran : run c w ops f₀ = outcome at ok same shows
  obtain ⟨f, error⟩ := outcome
  cases ok
  obtain ⟨log, holds, lines, positions⟩ := shows
  have options_f : f.options = options := same.trans kept
  obtain ⟨f', more, flushed, holds', -, options_f', moved, no_gap⟩ :=
    flushPending_holds (w := w) holds (by rwa [Unlimited, options_f])
  refine ⟨f, { f' with file := .nil }, log ++ more, rfl, ?_, holds'.follows, ?_, ?_, ?_⟩
  · unfold close
    rw [if_neg (by rw [holds.file]; exact nofun), flushed]
    dsimp only
    rw [holds'.file, options_f', options_f]
  · rw [lines_append, moved, lines]
  · rw [gaps_append, no_gap, append_nil, holds.gapOffsets]
  · rw [gaps_append, no_gap, append_nil]
    exact positions

section

variable (w : World) (follows : Log.Follows 0 [] log)

include follows

/-- A log of small blocks opens and all of it is read back, whatever else is behind it that ends the
walk; the file holds the log again if no gap is cut. -/
theorem open_torn {torn : Bytes}
    (small : ∀ record ∈ log, Small record) (ends : ∀ r, recoverLoop torn r = .ok r) :
    ∃ g, openCompressedLineFile w options (.opened (encode c options log ++ torn)) = .ok g ∧
      g.options = options ∧ g.file = .opened (encode c options log) ∧
      g.lines c 0 g.lineCount = .ok ((Log.lines log).map Line.stored) ∧
      ((∀ gap ∈ Log.gaps log, gap < 2 ^ 32) → Holds c g log ∧ g.pending = []) := by
  have start : Walked c ([] ++ encode c options log) [] [] ⟨[], 0, [], 0⟩ :=
    ⟨rfl, .nil, rfl⟩
  have follows' : Log.Follows ([] : List Line).length [] log := follows
  obtain ⟨r, recovered, walked, found⟩ := recoverLoop_encode small follows' start
  rw [nil_append] at walked
  -- A file without a whole record may be too short for its format to be seen; it is then removed.
  obtain ⟨rest, contents, ends⟩ : ∃ rest, openedContents
      (.opened (encode c options log ++ torn)) = encode c options log ++ rest ∧
        ∀ r, recoverLoop rest r = .ok r := by
    rcases eq_or_ne log [] with rfl | some_record
    · rw [encode_nil, openedContents]
      split
      · exact ⟨torn, rfl, ends⟩
      · exact ⟨[], rfl, recoverLoop_nil⟩
    · exact ⟨torn, openedContents_encode c options log torn some_record, ends⟩
  have whole : (encode c options log ++ rest).take r.offset = encode c options log := by
    rw [walked.offset, take_left' rfl]
  refine ⟨{ r.file options (encode c options log ++ rest) with readings := 1 }, ?_, rfl,
    congrArg Handle.opened whole, ?_, fun uncut => ⟨?_, rfl⟩⟩
  · rw [openCompressedLineFile_eq _ unlimited, contents, recovered, ends]
  · generalize opened : ({ r.file options (encode c options log ++ rest) with readings := 1 } :
      CompressedLineFile) = g
    have file : g.file = .opened (encode c options log) := by
      rw [← opened]
      exact congrArg Handle.opened whole
    have blocks : g.blocks = r.blocks := opened ▸ rfl
    have pending : g.pending = [] := opened ▸ rfl
    have count : g.persistedLines = ((Log.lines log).map Line.stored).length :=
      opened ▸ walked.persistedLines
    have reads : Reads c g.file 0 g.blocks ((Log.lines log).map Line.stored) := by
      rw [file, blocks]
      exact walked.reads
    rw [reads.lines_eq (by rw [file]; exact nofun) count, pending, append_nil,
      slice_all (Nat.zero_le _)]
    rw [lineCount, count]
    simp
  · exact {
      file := congrArg Handle.opened whole
      writeOffset := walked.offset
      persistedLines := walked.persistedLines.trans (length_map _)
      gapOffsets := found rfl uncut
      follows := follows
      pendingBytes := rfl
      shaped := .inl (Nat.zero_le 1) }

/-- A log of small blocks opens, and all of it is read back. -/
theorem open_log
    (small : ∀ record ∈ log, Small record) :
    ∃ g, openCompressedLineFile w options (.opened (encode c options log)) = .ok g ∧
      g.lines c 0 g.lineCount = .ok ((Log.lines log).map Line.stored) ∧
      ((∀ gap ∈ Log.gaps log, gap < 2 ^ 32) → g.gapOffsets = Log.gaps log) := by
  obtain ⟨g, opened, -, -, read, holds⟩ :=
    open_torn (c := c) unlimited w follows small recoverLoop_nil
  rw [append_nil] at opened
  exact ⟨g, opened, read, fun uncut => (holds uncut).1.gapOffsets⟩

/-- A log with a block over the limit does not open. -/
theorem open_log_oversize
    (fields : ∀ batch createdAt, .lines batch createdAt ∈ log →
      compactLinesEncodedSize batch < 2 ^ 32)
    (large : ∃ record ∈ log, ¬Small record) :
    openCompressedLineFile w options (.opened (encode c options log)) =
      .error "compressed history block exceeds size limit" := by
  have some_record : log ≠ [] := by
    rintro rfl
    obtain ⟨record, mem, -⟩ := large
    cases mem
  have contents := openedContents_encode c options log [] some_record
  rw [append_nil] at contents
  rw [openCompressedLineFile_eq _ unlimited, contents,
    recoverLoop_encode_oversize follows rfl fields large]

end

omit unlimited

/-- Lines of moderate size make blocks whose lengths fit their fields. -/
theorem block_size_lt (follows : Log.Follows count gaps log)
    (moderate : ∀ line ∈ Log.lines log, compactLineEncodedSize line < 2 ^ 31)
    (batch : List Line) (createdAt : Int) (mem : .lines batch createdAt ∈ log) :
    compactLinesEncodedSize batch < 2 ^ 32 := by
  induction log generalizing count gaps with
  | nil => exact absurd mem not_mem_nil
  | cons record log ih =>
    rcases mem_cons.mp mem with rfl | mem
    · refine Nat.lt_succ_of_le (shaped_size follows.1.2 (2 ^ 32 - 1) (by decide) ?_)
      intro line mem
      have := moderate line (mem_append_left _ mem)
      omega
    · exact ih follows.2 (fun line mem => moderate line (mem_append_right _ mem)) mem

/-- A line over the limit stands in a block over the limit. -/
theorem exists_not_small {line : Line} (mem : line ∈ Log.lines log)
    (large : compressedBlockMaxRawBytes < 1 + compactLineEncodedSize line) :
    ∃ record ∈ log, ¬Small record := by
  obtain ⟨record, mem, inside⟩ := mem_flatMap.mp mem
  refine ⟨record, mem, ?_⟩
  cases record with
  | lines batch createdAt => exact fun small => absurd large (line_size_le inside small).not_gt
  | boundary | gap => cases inside

/-- Lines within the limit stand in blocks within the limit. -/
theorem small_of_lines (follows : Log.Follows count gaps log)
    (within : ∀ line ∈ Log.lines log, 1 + compactLineEncodedSize line ≤ compressedBlockMaxRawBytes) :
    ∀ record ∈ log, Small record := by
  induction log generalizing count gaps with
  | nil => exact fun _ mem => absurd mem not_mem_nil
  | cons record log ih =>
    intro other mem
    rcases mem_cons.mp mem with rfl | mem
    · cases other with
      | lines batch createdAt =>
        exact shaped_size follows.1.2 _ (Nat.le_refl _) fun line mem =>
          within line (mem_append_left _ mem)
      | boundary | gap => trivial
    · exact ih follows.2 (fun line mem => within line (mem_append_right _ mem)) other mem

end CompressedLineFile

/-! ### The round trip -/

/-- Two lines with the same runs and the same end, and timestamps of the same `UnixNano`. -/
structure Line.Same (line other : Line) : Prop where
  runs : line.runs = other.runs
  hardEnd : line.hardEnd = other.hardEnd
  unixNano : line.updatedAt.unixNano = other.updatedAt.unixNano

/-- A timestamp survives unless it is a set one whose `UnixNano` is zero. -/
theorem unixNano_storedTime (time : Time) :
    time.unixNano = (storedTime time).unixNano ↔ time.isZero ∨ time.unixNano ≠ 0 := by
  have zero_nano : Time.zero.unixNano ≠ 0 := by decide
  unfold storedTime decodedTime unixNanoOrZero
  split
  · next unset =>
    have is_zero : time.nanos = 0 := of_decide_eq_true unset
    refine ⟨fun _ => .inl unset, fun _ => ?_⟩
    rw [Time.unixNano, is_zero]
    rfl
  · next set =>
    split
    · next nonzero =>
      refine ⟨fun _ => .inr nonzero, fun _ => ?_⟩
      have back : (Time.unix time.unixNano).nanos - unixEpoch = time.unixNano := by
        simp only [Time.unix]
        omega
      show _ = Int.bmod _ _
      rw [back, Time.unixNano, Int.bmod_bmod]
    · next zero =>
      rw [Decidable.not_not.mp zero]
      refine ⟨fun same => absurd same.symm zero_nano, ?_⟩
      rintro (unset | nonzero)
      · exact absurd unset set
      · exact absurd rfl nonzero

theorem Line.same_stored (line : Line) : line.Same line.stored ↔
    line.updatedAt.isZero ∨ line.updatedAt.unixNano ≠ 0 := by
  rw [← unixNano_storedTime]
  exact ⟨fun same => same.unixNano, fun same => ⟨rfl, rfl, same⟩⟩

/-- Only the timestamp can make the encodings of two such lines differ, by at most nine bytes. -/
theorem Line.Same.size_le {line other : Line} (same : line.Same other) :
    compactLineEncodedSize line ≤ compactLineEncodedSize other + 9 := by
  obtain ⟨low, high⟩ := unixNanoOrZero_range line.updatedAt
  have bound : zigzag (unixNanoOrZero line.updatedAt) < 2 ^ 64 := by
    unfold zigzag
    split <;> omega
  have size : uvarintSize (zigzag (unixNanoOrZero line.updatedAt)) ≤ 10 :=
    uvarintSize_le_of_lt (by decide) (bound.trans (by decide))
  have pos := uvarintSize_pos (zigzag (unixNanoOrZero other.updatedAt))
  unfold compactLineEncodedSize varintSize
  rw [same.runs]
  omega

/-- A new file takes these calls and is closed; when it is opened again, its lines are the appended
ones and its gaps are those it had. -/
def RoundTrips (c : Codecs) (w w' : World) (options : CompressedLineFileOptions)
    (ops : List CompressedLineFile.Op) : Prop :=
  ∃ f₀ f f' disk g lines, CompressedLineFile.openCompressedLineFile w options .nil = .ok f₀ ∧
    CompressedLineFile.run c w ops f₀ = (f, none) ∧ f.close c w = ((f', none), disk) ∧
    CompressedLineFile.openCompressedLineFile w' options disk = .ok g ∧
    g.lines c 0 g.lineCount = .ok lines ∧
    List.Forall₂ Line.Same (CompressedLineFile.appended ops) lines ∧ g.gapOffsets = f.gapOffsets

/-- A line that survives: its block passes the size limit of the parser, and its timestamp is not
mistaken for a missing one. -/
def Line.Survives (line : Line) : Prop :=
  1 + compactLineEncodedSize line ≤ compressedBlockMaxRawBytes ∧
    (line.updatedAt.isZero ∨ line.updatedAt.unixNano ≠ 0)

theorem forall₂_same_stored (lines : List Line) :
    List.Forall₂ Line.Same lines (lines.map Line.stored) ↔
      ∀ line ∈ lines, line.updatedAt.isZero ∨ line.updatedAt.unixNano ≠ 0 := by
  rw [forall₂_map_right_iff, forall₂_same]
  exact forall₂_congr fun line _ => line.same_stored

/-- Every appended line stands in the file that is read, so if they are the same lines, they are
not much longer than the limit. -/
theorem moderate_of_same {lines read : List Line} (same : List.Forall₂ Line.Same lines read)
    (small : ∀ line ∈ read, 1 + compactLineEncodedSize line ≤ compressedBlockMaxRawBytes) :
    ∀ line ∈ lines, compactLineEncodedSize line < 2 ^ 31 := by
  induction same with
  | nil => exact fun _ mem => absurd mem not_mem_nil
  | cons head _ ih =>
    intro line mem
    rcases mem_cons.mp mem with rfl | mem
    · have size := head.size_le
      have bound := small _ mem_cons_self
      simp only [compressedBlockMaxRawBytes] at bound
      omega
    · exact ih (fun line mem => small line (mem_cons_of_mem _ mem)) line mem

/-- The calls on a file and its close succeed; when it is opened again, it has these lines and the
gaps it had. -/
def Reopens (c : Codecs) (w w' : World) (options : CompressedLineFileOptions)
    (f₀ : CompressedLineFile) (ops : List CompressedLineFile.Op) (lines : List Line) : Prop :=
  ∃ f f' disk g read, CompressedLineFile.run c w ops f₀ = (f, none) ∧
    f.close c w = ((f', none), disk) ∧
    CompressedLineFile.openCompressedLineFile w' options disk = .ok g ∧
    g.lines c 0 g.lineCount = .ok read ∧ List.Forall₂ Line.Same lines read ∧
    g.gapOffsets = f.gapOffsets

open CompressedLineFile in
/-- Appends to a file without retention survive closing and reopening exactly if each of its lines
survives and each gap stands at a line number below `2 ^ 32`. -/
theorem reopens_iff {c : Codecs} {options : CompressedLineFileOptions}
    (unlimited : options.maxBytes = 0 ∧ options.maxAge = 0) {f₀ : CompressedLineFile}
    {known : List Line} {gaps : List Nat} (kept : f₀.options = options)
    (shows : Shows c f₀ known gaps) (w w' : World) (ops : List Op) :
    Reopens c w w' options f₀ ops (known ++ appended ops) ↔
      (∀ line ∈ known ++ appended ops, line.Survives) ∧
        ∀ gap ∈ gaps ++ gapCalls known.length ops, gap < 2 ^ 32 := by
  obtain ⟨f, f', log, ran, closed, follows, lines_log, gaps_f, positions⟩ :=
    closed_log unlimited kept shows w ops
  constructor
  · rintro ⟨f₁, f₁', disk, g, lines, ran', closed', reopened, read, same, gaps_g⟩
    rw [ran] at ran'
    cases ran'
    rw [closed] at closed'
    cases closed'
    -- The limits of the parser bound what was appended, so no length was cut.
    obtain ⟨blocks, gaps, written⟩ := open_limited unlimited reopened
    have moderate := moderate_of_same same (lines_small blocks written read)
    rw [← lines_log] at moderate
    have fields := block_size_lt follows moderate
    have within : ∀ line ∈ Log.lines log,
        1 + compactLineEncodedSize line ≤ compressedBlockMaxRawBytes := by
      intro line mem
      refine Nat.not_lt.mp fun large => ?_
      rw [open_log_oversize unlimited w' follows fields (exists_not_small mem large)] at reopened
      cases reopened
    obtain ⟨g', reopened', read', -⟩ :=
      open_log (c := c) unlimited w' follows (small_of_lines follows within)
    rw [reopened] at reopened'
    cases reopened'
    rw [read] at read'
    cases read'
    rw [← lines_log, forall₂_same_stored] at same
    rw [← lines_log]
    refine ⟨fun line mem => ⟨within line mem, same line mem⟩, fun gap mem => gaps gap ?_⟩
    rw [gaps_g, gaps_f]
    exact (positions gap).mpr mem
  · rintro ⟨survive, fields⟩
    have small : ∀ record ∈ log, Small record := by
      refine small_of_lines follows fun line mem => ?_
      rw [lines_log] at mem
      exact (survive line mem).1
    obtain ⟨g, reopened, read, gaps_g⟩ := open_log (c := c) unlimited w' follows small
    refine ⟨f, f', _, g, _, ran, closed, reopened, read, ?_, ?_⟩
    · rw [← lines_log, forall₂_same_stored]
      intro line mem
      rw [lines_log] at mem
      exact (survive line mem).2
    · rw [gaps_f]
      exact gaps_g fun gap mem => fields gap ((positions gap).mp mem)

open CompressedLineFile in
/-- A sequence of appends without retention survives closing and reopening exactly if each line
survives and each gap stands at a line number below `2 ^ 32`. -/
theorem roundTrips_iff (c : Codecs) (w w' : World) (compression : Compression)
    (level : CompressionLevel) (ops : List Op) :
    RoundTrips c w w' ⟨0, 0, compression, level⟩ ops ↔
      (∀ line ∈ appended ops, line.Survives) ∧ ∀ gap ∈ gapCalls 0 ops, gap < 2 ^ 32 := by
  have unlimited : (⟨0, 0, compression, level⟩ : CompressedLineFileOptions).maxBytes = 0 ∧
    (⟨0, 0, compression, level⟩ : CompressedLineFileOptions).maxAge = 0 := ⟨rfl, rfl⟩
  obtain ⟨f₀, created, kept, shows⟩ := open_nil c unlimited w
  refine Iff.trans ?_ (reopens_iff unlimited kept shows w w' ops)
  constructor
  · rintro ⟨f₀', f, f', disk, g, lines, created', rest⟩
    rw [created] at created'
    cases created'
    exact ⟨f, f', disk, g, lines, rest⟩
  · rintro ⟨f, f', disk, g, lines, rest⟩
    exact ⟨f₀, f, f', disk, g, lines, created, rest⟩

/-! ### A line the assembler emits and the file cannot reopen -/

/-- A character with a foreground and a background colour of its own. -/
def colouredRun (fg bg : UInt8) : TermRun where
  text := [0x78]
  style := { style := { fg := 0x23 :: List.replicate 6 fg, bg := 0x23 :: List.replicate 6 bg } }

/-- A soft wrapped row of two characters in different colours. -/
def colouredRow : ScrollOut where
  runs := [colouredRun 0x61 0x62, colouredRun 0x63 0x64]
  wrapped := true
  wrappedSet := true

/-- The runs of such rows, joined. -/
def colouredRuns (rows : Nat) : List Run :=
  (List.replicate rows [(colouredRun 0x61 0x62).toRun, (colouredRun 0x63 0x64).toRun]).flatten

def colouredLine (rows : Nat) : Line := ⟨colouredRuns rows, true, .zero⟩

theorem colouredRuns_succ (rows : Nat) : colouredRuns (rows + 1) =
    colouredRuns rows ++ [(colouredRun 0x61 0x62).toRun, (colouredRun 0x63 0x64).toRun] := by
  rw [colouredRuns, replicate_succ', flatten_append]
  rfl

theorem appendMergedRun_colouredRuns (rows : Nat) :
    (runsFromScrollOut colouredRow).foldl appendMergedRun (colouredRuns rows) =
      colouredRuns (rows + 1) := by
  have runs : runsFromScrollOut colouredRow =
      [(colouredRun 0x61 0x62).toRun, (colouredRun 0x63 0x64).toRun] := by decide
  have text : ((colouredRun 0x61 0x62).toRun).text ≠ [] := by decide
  have text' : ((colouredRun 0x63 0x64).toRun).text ≠ [] := by decide
  have differ : (colouredRun 0x61 0x62).toRun.sameLook (colouredRun 0x63 0x64).toRun = false := by
    decide
  have differ' : (colouredRun 0x63 0x64).toRun.sameLook (colouredRun 0x61 0x62).toRun = false := by
    decide
  have first : appendMergedRun (colouredRuns rows) (colouredRun 0x61 0x62).toRun =
      colouredRuns rows ++ [(colouredRun 0x61 0x62).toRun] := by
    unfold appendMergedRun
    rw [if_neg text]
    cases rows with
    | zero => rfl
    | succ rows => simp [colouredRuns_succ, differ']
  rw [runs, foldl_cons, foldl_cons, first, colouredRuns_succ, appendMergedRun, if_neg text']
  simp [differ]

theorem emits_colouredRuns {rows : Nat} (few : 2 * rows < defaultMaxOpenLineBytes) :
    Assembler.Emits { openRuns := colouredRuns rows, openBytes := 2 * rows } [] := by
  induction rows with
  | zero => exact .start
  | succ rows ih =>
    have step := Assembler.Emits.row colouredRow (ih (by omega))
    have bytes : (runsFromScrollOut colouredRow).foldl (fun bytes run => bytes + run.text.length)
        (2 * rows) = 2 * (rows + 1) := by
      have runs : runsFromScrollOut colouredRow =
        [(colouredRun 0x61 0x62).toRun, (colouredRun 0x63 0x64).toRun] := by decide
      rfl
    have absorbed : Assembler.absorb { openRuns := colouredRuns rows, openBytes := 2 * rows }
        colouredRow = { openRuns := colouredRuns (rows + 1), openBytes := 2 * (rows + 1) } := by
      unfold Assembler.absorb
      rw [appendMergedRun_colouredRuns]
      rfl
    have taken : Assembler.appendEvictedRow
        { openRuns := colouredRuns rows, openBytes := 2 * rows } colouredRow =
          ({ openRuns := colouredRuns (rows + 1), openBytes := 2 * (rows + 1) }, []) := by
      unfold Assembler.appendEvictedRow
      have wrapped : (colouredRow.wrappedSet && colouredRow.wrapped) = true := rfl
      rw [absorbed]
      rw [if_pos wrapped, if_pos few]
    rw [taken] at step
    exact step

theorem emittable_colouredLine {rows : Nat} (few : 2 * (rows + 1) < defaultMaxOpenLineBytes) :
    Emittable (colouredLine (rows + 1)) := by
  have sealed := Assembler.Emits.sealOpen (emits_colouredRuns few)
  have kept : trimTrailingPaddingRuns (colouredRuns (rows + 1)) = colouredRuns (rows + 1) := by
    have style : (colouredRun 0x63 0x64).toRun.style ≠ {} := by decide
    unfold trimTrailingPaddingRuns
    rw [colouredRuns_succ, reverse_append]
    show (trimPadding ((colouredRun 0x63 0x64).toRun :: _)).reverse = _
    rw [trimPadding, if_pos (.inl style)]
    simp
  have open_line : colouredRuns (rows + 1) ≠ [] := by simp [colouredRuns_succ]
  refine ⟨_, _, sealed, ?_⟩
  rw [Assembler.sealOpen]
  rw [kept]
  exact mem_singleton_self _

/-- The encoding takes 21 bytes for each of these characters. -/
theorem compactLineEncodedSize_colouredLine (rows : Nat) :
    compactLineEncodedSize (colouredLine rows) = 2 + uvarintSize (2 * rows) + 42 * rows := by
  have runs : (colouredRuns rows).length = 2 * rows ∧
      ((colouredRuns rows).map compactRunEncodedSize).sum = 42 * rows := by
    induction rows with
    | zero => exact ⟨rfl, rfl⟩
    | succ rows ih =>
      have sizes : compactRunEncodedSize (colouredRun 0x61 0x62).toRun = 21 ∧
          compactRunEncodedSize (colouredRun 0x63 0x64).toRun = 21 := by
        constructor <;> simp [compactRunEncodedSize, compactStringSize, uvarintSize,
          colouredRun, TermRun.toRun]
      rw [colouredRuns_succ]
      simp only [length_append, map_append, sum_append, ih, length_cons,
        length_nil, map_cons, map_nil, sum_cons, sum_nil, sizes]
      omega
  have unset : varintSize (unixNanoOrZero (colouredLine rows).updatedAt) = 1 := by
    show uvarintSize (zigzag 0) = 1
    simp [uvarintSize, zigzag]
  rw [compactLineEncodedSize, unset]
  show 1 + 1 + uvarintSize (colouredRuns rows).length + _ = _
  rw [runs.1]
  exact congrArg _ runs.2

/-- Compressors that store the bytes as they are. -/
def plainCodecs : Codecs where
  zstdEncode _ raw := raw
  zstdDecode := some
  s2Encode _ raw := 0 :: raw
  s2Decode stored := some stored.tail
  s2DecodedLen | [] => none | _ :: raw => some raw.length
  crc32 _ := 0
  zstd_inverts _ _ := rfl
  s2_inverts _ _ := rfl
  s2_len _ _ := rfl
  zstd_empty := rfl
  s2_empty := rfl

/-- A world in which nothing fails. -/
def quietWorld : World := ⟨fun _ => 0, fun _ => none, fun _ => 0, fun _ _ => 0⟩

open CompressedLineFile in
/-- The assembler emits the 100000 coloured characters as one line, the appends and the close
succeed, and the file cannot be opened again. -/
theorem coloured_line_not_reopened :
    Emittable (colouredLine 50000) ∧ ∃ f₀ f f' disk,
      openCompressedLineFile quietWorld ⟨0, 0, .zstd, .fast⟩ .nil = .ok f₀ ∧
      run plainCodecs quietWorld [.appendLines [colouredLine 50000]] f₀ = (f, none) ∧
      f.close plainCodecs quietWorld = ((f', none), disk) ∧
      openCompressedLineFile quietWorld ⟨0, 0, .zstd, .fast⟩ disk =
        .error "compressed history block exceeds size limit" := by
  have size := compactLineEncodedSize_colouredLine 50000
  have count : uvarintSize (2 * 50000) ≤ 3 := uvarintSize_le_of_lt (by decide) (by decide)
  refine ⟨emittable_colouredLine (by decide), ?_⟩
  have unlimited : (⟨0, 0, .zstd, .fast⟩ : CompressedLineFileOptions).maxBytes = 0 ∧
    (⟨0, 0, .zstd, .fast⟩ : CompressedLineFileOptions).maxAge = 0 := ⟨rfl, rfl⟩
  obtain ⟨f₀, created, kept, shows⟩ := open_nil plainCodecs unlimited quietWorld
  obtain ⟨f, f', log, ran, closed, follows, lines_log, -⟩ :=
    closed_log unlimited kept shows quietWorld [.appendLines [colouredLine 50000]]
  have lines_log : Log.lines log = [colouredLine 50000] := lines_log
  refine ⟨f₀, f, f', _, created, ran, closed, open_log_oversize unlimited quietWorld follows ?_ ?_⟩
  · refine block_size_lt follows fun line mem => ?_
    rw [lines_log] at mem
    rw [mem_singleton.mp mem, size]
    omega
  · have mem : colouredLine 50000 ∈ Log.lines log := by
      rw [lines_log]
      exact mem_singleton_self _
    refine exists_not_small mem ?_
    rw [size]
    simp only [compressedBlockMaxRawBytes]
    omega

end Anytty.LineHist
