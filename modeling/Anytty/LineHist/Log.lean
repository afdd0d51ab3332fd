import Anytty.LineHist.BlockFile

/-!
# The file as a log of records

What a line file means: a list of records, each a block of lines, a boundary or an output gap.
`Holds` says that a file's bytes, its counters and its gaps are those of a log, and every append is
shown to add records to the log.  The index is left out: a file that was opened again has no search
filters in it.  `Follows` is the shape of the logs that appends
produce: blocks are never empty and hold either a single line or at most
`compressedBlockTargetBytes` of encoded lines, and a gap stands at the number of lines before it.
-/

namespace Anytty.LineHist

open Anytty.Wire List

inductive Record where
  | lines (batch : List Line) (createdAt : Int)
  | boundary (createdAt : Int)
  | gap (offset : Nat) (createdAt : Int)
  deriving DecidableEq, Repr

namespace Record

section

variable (c : Codecs) (options : CompressedLineFileOptions)

def header : Record → BlockHeader
  | .lines batch createdAt => CompressedLineFile.linesHeader c options batch createdAt
  | .boundary createdAt => CompressedLineFile.boundaryHeader createdAt
  | .gap offset createdAt => CompressedLineFile.gapHeader offset createdAt

def payload : Record → Bytes
  | .lines batch _ => (CompressedLineFile.compressBlock c options (encodeCompactLines batch)).2
  | _ => []

def encode (record : Record) : Bytes :=
  makeCompressedBlockHeader (record.header c options) ++ record.payload c options

end

def stored : Record → List Line
  | .lines batch _ => batch
  | _ => []

def gapOffset : Record → Option Nat
  | .gap offset _ => some offset
  | _ => none

end Record

abbrev Log := List Record

namespace Log

def lines (log : Log) : List Line := log.flatMap Record.stored

def gaps (log : Log) : List Nat := log.filterMap Record.gapOffset

def encode (c : Codecs) (options : CompressedLineFileOptions) (log : Log) : Bytes :=
  log.flatMap (Record.encode c options)

/-- The bytes of encoded lines a block holds beside its count. -/
def lineBytes (lines : List Line) : Nat := (lines.map compactLineEncodedSize).sum

/-- The lines of a block: one line of any size, or several that stay within the target. -/
def Shaped (lines : List Line) : Prop :=
  lines.length = 1 ∨ lineBytes lines ≤ compressedBlockTargetBytes

/-- A record that an append can add to a log with `count` lines and these gaps. -/
def Fits (count : Nat) (gaps : List Nat) : Record → Prop
  | .lines lines _ => lines ≠ [] ∧ Shaped lines
  | .boundary _ => True
  | .gap offset _ => offset = count ∧ gaps.getLast? ≠ some count

/-- A log that appends can produce after `count` lines and these gaps. -/
def Follows : Nat → List Nat → Log → Prop
  | _, _, [] => True
  | count, gaps, record :: log =>
    Fits count gaps record ∧
      Follows (count + record.stored.length) (gaps ++ record.gapOffset.toList) log

@[simp] theorem lines_nil : lines [] = [] := rfl

@[simp] theorem lines_cons (record : Record) (log : Log) :
    lines (record :: log) = record.stored ++ lines log := rfl

@[simp] theorem lines_append (log more : Log) : lines (log ++ more) = lines log ++ lines more :=
  flatMap_append

@[simp] theorem gaps_nil : gaps [] = [] := rfl

@[simp] theorem gaps_cons (record : Record) (log : Log) :
    gaps (record :: log) = record.gapOffset.toList ++ gaps log := by
  cases record <;> rfl

@[simp] theorem gaps_append (log more : Log) : gaps (log ++ more) = gaps log ++ gaps more :=
  filterMap_append

section Encode

variable (c : Codecs) (options : CompressedLineFileOptions)

@[simp] theorem encode_nil : encode c options [] = [] := rfl

@[simp] theorem encode_cons (record : Record) (log : Log) :
    encode c options (record :: log) = record.encode c options ++ encode c options log := rfl

@[simp] theorem encode_append (log more : Log) :
    encode c options (log ++ more) = encode c options log ++ encode c options more :=
  flatMap_append

end Encode

theorem follows_append (count : Nat) (known : List Nat) (log more : Log) :
    Follows count known (log ++ more) ↔ Follows count known log ∧
      Follows (count + (lines log).length) (known ++ gaps log) more := by
  induction log generalizing count known with
  | nil => simp [Follows]
  | cons record log ih =>
    simp [Follows, ih, lines_cons, gaps_cons, List.append_assoc, Nat.add_assoc, and_assoc]

variable {lines : List Line}

/-- Within the target, the count of a block adds at most three bytes. -/
theorem shaped_size (shaped : Shaped lines) (limit : Nat)
    (large : compressedBlockMaxRawBytes ≤ limit)
    (small : ∀ line ∈ lines, 1 + compactLineEncodedSize line ≤ limit) :
    compactLinesEncodedSize lines ≤ limit := by
  rcases shaped with single | within
  · obtain ⟨line, rfl⟩ := length_eq_one_iff.mp single
    have one : uvarintSize 1 = 1 := by rw [uvarintSize, if_pos (by decide)]
    have := small line mem_cons_self
    simpa [compactLinesEncodedSize, one] using this
  · have count : lines.length ≤ lineBytes lines := by
      have := length_le_flatMap encodeLine_ne_nil lines
      rwa [flatMap_length encodeLine_length] at this
    have size : uvarintSize lines.length ≤ 3 := by
      apply uvarintSize_le_of_lt (by decide)
      simp only [compressedBlockTargetBytes] at within
      omega
    simp only [compressedBlockTargetBytes, compressedBlockMaxRawBytes, compactLinesEncodedSize] at *
    unfold lineBytes at within
    omega

theorem line_size_le {line : Line} (mem : line ∈ lines)
    (bound : compactLinesEncodedSize lines ≤ compressedBlockMaxRawBytes) :
    1 + compactLineEncodedSize line ≤ compressedBlockMaxRawBytes := by
  have part := le_sum_of_mem (mem_map_of_mem (f := compactLineEncodedSize) mem)
  have pos := uvarintSize_pos lines.length
  unfold compactLinesEncodedSize at bound
  omega

theorem shaped_length (shaped : Shaped lines) : lines.length < 2 ^ 32 := by
  rcases shaped with single | within
  · omega
  have count : lines.length ≤ lineBytes lines := by
    have := length_le_flatMap encodeLine_ne_nil lines
    rwa [flatMap_length encodeLine_length] at this
  simp only [compressedBlockTargetBytes] at within
  omega

end Log

/-! ### Files that hold a log -/

/-- The file is open and its bytes and counters are those of the log. -/
structure Holds (c : Codecs) (f : CompressedLineFile) (log : Log) : Prop where
  file : f.file = .opened (Log.encode c f.options log)
  writeOffset : f.writeOffset = (Log.encode c f.options log).length
  persistedLines : f.persistedLines = (Log.lines log).length
  gapOffsets : f.gapOffsets = Log.gaps log
  follows : Log.Follows 0 [] log
  pendingBytes : f.pendingBytes = Log.lineBytes f.pending
  shaped : f.pending.length ≤ 1 ∨ f.pendingBytes ≤ compressedBlockTargetBytes

namespace CompressedLineFile

variable {c : Codecs} {w : World} {f : CompressedLineFile} {log : Log}

/-- Retention is switched off. -/
def Unlimited (f : CompressedLineFile) : Prop := f.options.maxBytes = 0 ∧ f.options.maxAge = 0

theorem enforceLimit_of_unlimited (unlimited : f.Unlimited) :
    enforceLimit w f = ({ f with readings := f.readings + 1 }, none) := by
  have age : ageStart w f = 0 := if_neg (by rw [unlimited.2]; decide)
  have size : overSize w f = false := by simp [overSize, unlimited.1]
  unfold enforceLimit
  simp [age, size]

theorem write_of_holds (holds : Holds c f log) (payload : Bytes) :
    f.write payload = some { f with
      file := .opened (Log.encode c f.options log ++ payload)
      writeOffset := f.writeOffset + payload.length } := by
  rw [write, holds.file]

/-- Add one record to the log of a file whose lines are all written. -/
theorem holds_concat (holds : Holds c f log) (record : Record)
    (fits : Log.Fits (Log.lines log).length (Log.gaps log) record) {f' : CompressedLineFile}
    (options : f'.options = f.options)
    (file : f'.file = .opened (Log.encode c f.options log ++ record.encode c f.options))
    (writeOffset : f'.writeOffset = f.writeOffset + (record.encode c f.options).length)
    (persistedLines : f'.persistedLines = f.persistedLines + record.stored.length)
    (gapOffsets : f'.gapOffsets = f.gapOffsets ++ record.gapOffset.toList)
    (pending : f'.pending = []) (pendingBytes : f'.pendingBytes = 0) :
    Holds c f' (log ++ [record]) where
  file := by rw [file, options]; simp
  writeOffset := by rw [writeOffset, holds.writeOffset, options]; simp
  persistedLines := by rw [persistedLines, holds.persistedLines]; simp
  gapOffsets := by rw [gapOffsets, holds.gapOffsets]; simp
  follows := by
    rw [Log.follows_append]
    exact ⟨holds.follows, by simpa [Log.Follows] using fits⟩
  pendingBytes := by rw [pendingBytes, pending]; rfl
  shaped := by rw [pending]; exact .inl (Nat.zero_le 1)

/-- The pending lines have the shape of a block. -/
theorem shaped_pending (some_line : f.pending ≠ [])
    (pendingBytes : f.pendingBytes = Log.lineBytes f.pending)
    (shaped : f.pending.length ≤ 1 ∨ f.pendingBytes ≤ compressedBlockTargetBytes) :
    Log.Shaped f.pending := by
  have pos := length_pos_iff.mpr some_line
  rcases shaped with single | within
  · exact .inl (by omega)
  · exact .inr (pendingBytes ▸ within)

theorem flushPending_holds (holds : Holds c f log) (unlimited : f.Unlimited) :
    ∃ f' more, flushPending c w f = (f', none) ∧ Holds c f' (log ++ more) ∧ f'.pending = [] ∧
      f'.options = f.options ∧ Log.lines more = f.pending ∧ Log.gaps more = [] := by
  unfold flushPending
  split
  · next empty => exact ⟨f, [], rfl, by simpa using holds, empty, rfl, empty.symm, rfl⟩
  next some_line =>
  have fits : Log.Fits (Log.lines log).length (Log.gaps log)
      (.lines f.pending (nowUnix w f)) :=
    ⟨some_line, shaped_pending some_line holds.pendingBytes holds.shaped⟩
  dsimp only
  rw [write_of_holds holds]
  refine ⟨_, [.lines f.pending (nowUnix w f)], enforceLimit_of_unlimited unlimited,
    holds_concat holds _ fits rfl rfl rfl rfl ?_ rfl rfl, rfl, rfl, ?_, rfl⟩
  · exact (append_nil _).symm
  · simp [Record.stored]

/-- A header without payload after all lines are written. -/
theorem appendMark_holds (holds : Holds c f log) (unlimited : f.Unlimited)
    (written : f.pending = []) (record : Record)
    (fits : Log.Fits (Log.lines log).length (Log.gaps log) record)
    (bare : record.payload c f.options = []) (empty : record.stored = []) :
    ∃ f', appendMark w f (record.header c f.options) (f.gapOffsets ++ record.gapOffset.toList) =
        (f', none) ∧ Holds c f' (log ++ [record]) ∧ f'.pending = [] ∧ f'.options = f.options := by
  have encoded : record.encode c f.options = makeCompressedBlockHeader (record.header c f.options) := by
    rw [Record.encode, bare, append_nil]
  unfold appendMark
  rw [write_of_holds holds]
  refine ⟨_, enforceLimit_of_unlimited unlimited, holds_concat holds record fits rfl ?_ ?_ ?_ rfl
    written ?_, written, rfl⟩
  · rw [encoded]
  · rw [encoded]
  · rw [empty]; rfl
  · rw [holds.pendingBytes, written]; rfl

/-! ### Runs of appends -/

/-- A call on an open file. -/
inductive Op where
  | appendLines (lines : List Line)
  | appendBoundary
  | appendGap
  | sync
  deriving DecidableEq, Repr

def Op.apply (c : Codecs) (w : World) (f : CompressedLineFile) : Op → Outcome
  | .appendLines lines => f.appendLines c w lines
  | .appendBoundary => f.appendBoundary c w
  | .appendGap => f.appendGap c w
  | .sync => f.sync c w

/-- The lines a call appends. -/
def Op.appended : Op → List Line
  | .appendLines lines => lines
  | _ => []

/-- The calls one after the other, up to the first error. -/
def run (c : Codecs) (w : World) : List Op → CompressedLineFile → Outcome
  | [], f => (f, none)
  | op :: ops, f => Outcome.andThen (op.apply c w f) (run c w ops)

def appended (ops : List Op) : List Line := ops.flatMap Op.appended

/-- The number of lines appended before each gap call, after `count` lines. -/
def gapCalls : Nat → List Op → List Nat
  | _, [] => []
  | count, .appendGap :: ops => count :: gapCalls count ops
  | count, op :: ops => gapCalls (count + op.appended.length) ops

/-! ### What calls keep -/

/-- A call that ends without an error leads to a file with these lines and gaps; `sure` is a
condition under which there is no error. -/
def Leads (P : CompressedLineFile → List Line → List Nat → Prop) (sure : Prop) (outcome : Outcome)
    (lines : List Line) (gaps : List Nat) : Prop :=
  (sure → outcome.2 = none) ∧ (outcome.2 = none → P outcome.1 lines gaps)

/-- The parts of the calls keep a relation between a file and the lines and gaps given to it. -/
structure Kept (c : Codecs) (w : World) (good : Line → Prop)
    (P : CompressedLineFile → List Line → List Nat → Prop) (sure : Prop) : Prop where
  opened : ∀ {f known gaps}, P f known gaps → ∃ contents, f.file = .opened contents
  flush : ∀ {f known gaps}, P f known gaps → Leads P sure (flushPending c w f) known gaps
  pend : ∀ {f known gaps line}, P f known gaps → good line →
    (f.pending = [] ∨
      f.pendingBytes + compactLineEncodedSize line ≤ compressedBlockTargetBytes) →
    P (f.pend line) (known ++ [line]) gaps
  boundary : ∀ {f known gaps}, P f known gaps → f.pending = [] →
    Leads P sure (appendMark w f (boundaryHeader (nowUnix w f)) f.gapOffsets) known gaps
  gap : ∀ {f known gaps}, P f known gaps → f.pending = [] →
    f.gapOffsets.getLast? ≠ some f.lineCount →
    Leads P sure (appendMark w f (gapHeader f.lineCount (nowUnix w f))
      (f.gapOffsets ++ [f.lineCount])) known (gaps ++ [known.length])
  sameGap : ∀ {f known gaps}, P f known gaps → f.pending = [] →
    f.gapOffsets.getLast? = some f.lineCount → P f known (gaps ++ [known.length])

variable {P : CompressedLineFile → List Line → List Nat → Prop} {sure : Prop} {good : Line → Prop}
  {known : List Line} {gaps : List Nat}

theorem Leads.done (holds : P f known gaps) : Leads P sure (f, none) known gaps :=
  ⟨fun _ => rfl, fun _ => holds⟩

theorem Leads.andThen {outcome : Outcome} {next : CompressedLineFile → Outcome} {lines : List Line}
    {more : List Nat} (first : Leads P sure outcome known gaps)
    (second : outcome.2 = none → P outcome.1 known gaps → Leads P sure (next outcome.1) lines more) :
    Leads P sure (outcome.andThen next) lines more := by
  obtain ⟨f', error⟩ := outcome
  cases error with
  | none => exact second rfl (first.2 rfl)
  | some error => exact ⟨first.1, nofun⟩

theorem rewriteBlocks_pending (w : World) (f : CompressedLineFile) (start : Nat) :
    (f.rewriteBlocks w start).1.pending = f.pending := by
  unfold rewriteBlocks
  dsimp only
  split
  · rfl
  · rfl
  split
  · rfl
  split <;> first | rfl | (split <;> rfl)

theorem enforceLimit_pending (w : World) (f : CompressedLineFile) :
    (enforceLimit w f).1.pending = f.pending := by
  unfold enforceLimit
  split
  · rfl
  split
  · exact rewriteBlocks_pending w _ _
  · rfl

theorem flushPending_pending (ok : (flushPending c w f).2 = none) :
    (flushPending c w f).1.pending = [] := by
  rcases em (f.pending = []) with empty | some_line
  · rw [flushPending, if_pos empty]
    exact empty
  rw [flushPending, if_neg some_line] at ok ⊢
  dsimp only at ok ⊢
  cases written : f.write (linesRecord c f.options f.pending (nowUnix w f)) with
  | none =>
    rw [written] at ok
    cases ok
  | some written => exact enforceLimit_pending w _

section Calls

variable (kept : Kept c w good P sure)
include kept

theorem Kept.appendLine (holds : P f known gaps) {line : Line} (fine : good line) :
    Leads P sure (appendLine c w f line) (known ++ [line]) gaps := by
  -- After the first flush, if any, the line fits the block it joins.
  have joins : ∀ f' : CompressedLineFile, P f' known gaps → (f'.pending = [] ∨
        f'.pendingBytes + compactLineEncodedSize line ≤ compressedBlockTargetBytes) →
      Leads P sure (if (f'.pend line).pendingBytes ≥ compressedBlockTargetBytes
        then flushPending c w (f'.pend line) else (f'.pend line, none)) (known ++ [line]) gaps := by
    intro f' holds' room
    have pended := kept.pend holds' fine room
    split
    · exact kept.flush pended
    · exact .done pended
  unfold CompressedLineFile.appendLine
  split
  · exact (kept.flush holds).andThen fun ok holds' =>
      joins _ holds' (.inl (flushPending_pending ok))
  · next fits =>
    refine joins f holds ?_
    rcases em (f.pending = []) with empty | some_line
    · exact .inl empty
    · exact .inr (Nat.not_lt.mp fun large => fits ⟨some_line, large⟩)

theorem Kept.appendLoop {lines : List Line} (fine : ∀ line ∈ lines, good line)
    (holds : P f known gaps) : Leads P sure (appendLoop c w lines f) (known ++ lines) gaps := by
  induction lines generalizing f known with
  | nil => exact .done (by rwa [append_nil])
  | cons line lines ih =>
    refine (kept.appendLine holds (fine line mem_cons_self)).andThen fun _ holds' => ?_
    have rest := ih (fun line mem => fine line (mem_cons_of_mem _ mem)) holds'
    rwa [List.append_assoc, singleton_append] at rest

theorem Kept.not_nil (holds : P f known gaps) : f.file ≠ .nil := by
  obtain ⟨contents, file⟩ := kept.opened holds
  rw [file]
  exact nofun

theorem Kept.appendLines (lines : List Line) (fine : ∀ line ∈ lines, good line)
    (holds : P f known gaps) : Leads P sure (f.appendLines c w lines) (known ++ lines) gaps := by
  unfold CompressedLineFile.appendLines
  split
  · next empty => exact .done (by rwa [empty, append_nil])
  · rw [if_neg (kept.not_nil holds)]
    exact kept.appendLoop fine holds

theorem Kept.appendGap (holds : P f known gaps) :
    Leads P sure (f.appendGap c w) known (gaps ++ [known.length]) := by
  refine (kept.flush holds).andThen fun ok holds' => ?_
  have written := flushPending_pending ok
  split
  · next here => exact .done (kept.sameGap holds' written here)
  · next new => exact kept.gap holds' written new

theorem Kept.sync (holds : P f known gaps) : Leads P sure (f.sync c w) known gaps := by
  unfold CompressedLineFile.sync
  rw [if_neg (kept.not_nil holds)]
  refine (kept.flush holds).andThen fun _ holds' => ?_
  obtain ⟨contents, file⟩ := kept.opened holds'
  rw [if_neg (by rw [file]; exact nofun)]
  exact .done holds'

theorem Kept.apply (op : Op) (fine : ∀ line ∈ op.appended, good line) (holds : P f known gaps) :
    Leads P sure (op.apply c w f) (known ++ op.appended) (gaps ++ gapCalls known.length [op]) := by
  cases op with
  | appendLines lines =>
    simp only [gapCalls, append_nil]
    exact kept.appendLines lines fine holds
  | appendBoundary =>
    simp only [gapCalls, Op.appended, append_nil]
    exact (kept.flush holds).andThen fun ok holds' =>
      kept.boundary holds' (flushPending_pending ok)
  | appendGap =>
    simp only [gapCalls, Op.appended, append_nil]
    exact kept.appendGap holds
  | sync =>
    simp only [gapCalls, Op.appended, append_nil]
    exact kept.sync holds

end Calls

theorem gapCalls_cons (count : Nat) (op : Op) (ops : List Op) :
    gapCalls count (op :: ops) = gapCalls count [op] ++ gapCalls (count + op.appended.length) ops := by
  cases op <;> rfl

/-- A run of calls keeps what its parts keep. -/
theorem Kept.run (kept : Kept c w good P sure) (ops : List Op)
    (fine : ∀ line ∈ appended ops, good line) (holds : P f known gaps) :
    Leads P sure (run c w ops f) (known ++ appended ops)
      (gaps ++ gapCalls known.length ops) := by
  induction ops generalizing f known gaps with
  | nil => exact .done (by simpa [appended, gapCalls] using holds)
  | cons op ops ih =>
    refine (kept.apply op (fun line mem => fine line (mem_append_left _ mem))
      holds).andThen fun _ holds' => ?_
    have rest := ih (fun line mem => fine line (mem_append_right _ mem)) holds'
    rw [length_append, List.append_assoc, List.append_assoc, ← gapCalls_cons] at rest
    exact rest

/-! ### Without retention -/

/-- The file holds these lines and has gaps at these positions. -/
def Shows (c : Codecs) (f : CompressedLineFile) (lines : List Line) (gaps : List Nat) : Prop :=
  ∃ log, Holds c f log ∧ Log.lines log ++ f.pending = lines ∧
    ∀ gap, gap ∈ Log.gaps log ↔ gap ∈ gaps

/-- A call that succeeds and adds lines and gaps. -/
def Adds (c : Codecs) (f : CompressedLineFile) (outcome : Outcome) (lines : List Line)
    (gaps : List Nat) : Prop :=
  outcome.2 = none ∧ outcome.1.options = f.options ∧ Shows c outcome.1 lines gaps

theorem Shows.lineCount (shows : Shows c f known gaps) : f.lineCount = known.length := by
  obtain ⟨log, holds, lines, -⟩ := shows
  rw [CompressedLineFile.lineCount, holds.persistedLines, ← lines, length_append]

/-- A line that is taken into `pending` keeps to the shape of a block. -/
theorem pend_shaped (pendingBytes : f.pendingBytes = Log.lineBytes f.pending) {line : Line}
    (room : f.pending = [] ∨
      f.pendingBytes + compactLineEncodedSize line ≤ compressedBlockTargetBytes) :
    (f.pend line).pendingBytes = Log.lineBytes (f.pend line).pending ∧
      ((f.pend line).pending.length ≤ 1 ∨
        (f.pend line).pendingBytes ≤ compressedBlockTargetBytes) := by
  refine ⟨by simp [pend, pendingBytes, Log.lineBytes], ?_⟩
  rcases room with empty | within
  · exact .inl (by simp [pend, empty])
  · exact .inr within

theorem appendMark_shows (shows : Shows c f known gaps) (unlimited : f.Unlimited)
    (written : f.pending = []) (record : Record) (more : List Nat)
    (fits : Log.Fits known.length f.gapOffsets record)
    (bare : record.payload c f.options = []) (empty : record.stored = [])
    (gap : record.gapOffset.toList = more) :
    Leads (fun f' lines gaps => f'.options = f.options ∧ Shows c f' lines gaps) True
      (appendMark w f (record.header c f.options) (f.gapOffsets ++ more)) known (gaps ++ more) := by
  obtain ⟨log, holds, lines, positions⟩ := shows
  rw [written, append_nil] at lines
  rw [← lines, holds.gapOffsets] at fits
  obtain ⟨f', marked, holds', written', options⟩ :=
    appendMark_holds (w := w) holds unlimited written record fits bare empty
  rw [← gap, marked]
  refine .done ⟨options, _, holds', ?_, fun gap => ?_⟩
  · simp [written', lines, empty]
  · simp [positions gap]

/-- Without retention every call succeeds, and the file holds all that was given to it. -/
theorem kept_shows (w : World) {options : CompressedLineFileOptions}
    (unlimited : options.maxBytes = 0 ∧ options.maxAge = 0) :
    Kept c w (fun _ => True) (fun f known gaps => f.options = options ∧ Shows c f known gaps)
      True where
  opened := fun ⟨_, _, holds, _⟩ => ⟨_, holds.file⟩
  flush := by
    rintro f known gaps ⟨rfl, log, holds, lines, positions⟩
    obtain ⟨f', more, flushed, holds', written, options, moved, no_gap⟩ :=
      flushPending_holds (w := w) holds unlimited
    rw [flushed]
    refine .done ⟨options, log ++ more, holds', ?_, ?_⟩
    · rw [written, Log.lines_append, moved, append_nil, lines]
    · simpa [no_gap] using positions
  pend := by
    rintro f known gaps line ⟨options, log, holds, lines, positions⟩ - room
    obtain ⟨pendingBytes, shaped⟩ := pend_shaped holds.pendingBytes room
    refine ⟨options, log, { holds with pendingBytes, shaped }, ?_, positions⟩
    rw [pend, ← List.append_assoc, lines]
  boundary := by
    rintro f known gaps ⟨rfl, shows⟩ written
    have marked := appendMark_shows (w := w) shows unlimited written
      (.boundary (nowUnix w f)) [] trivial rfl rfl rfl
    rwa [append_nil, append_nil] at marked
  gap := by
    rintro f known gaps ⟨rfl, shows⟩ written new
    have count := shows.lineCount
    rw [← count]
    refine appendMark_shows shows unlimited written (.gap f.lineCount (nowUnix w f)) [f.lineCount]
      ⟨count, ?_⟩ rfl rfl rfl
    rwa [← count]
  sameGap := by
    rintro f known gaps ⟨options, shows⟩ written here
    have count := shows.lineCount
    obtain ⟨log, holds, lines, positions⟩ := shows
    rw [count, holds.gapOffsets] at here
    refine ⟨options, log, holds, lines, fun gap => ?_⟩
    rw [mem_append, mem_singleton, ← positions gap]
    constructor
    · exact .inl
    · rintro (there | rfl)
      · exact there
      · exact mem_of_getLast? here

/-- Every run of calls on a file without retention succeeds; the file then holds the appended
lines, and its gaps are at the gap calls. -/
theorem run_adds (unlimited : f.Unlimited) (shows : Shows c f known gaps) (ops : List Op) :
    Adds c f (run c w ops f) (known ++ appended ops) (gaps ++ gapCalls known.length ops) := by
  obtain ⟨sure, leads⟩ := (kept_shows w unlimited).run ops (fun _ _ => trivial) ⟨rfl, shows⟩
  exact ⟨sure trivial, leads (sure trivial)⟩

end CompressedLineFile

end Anytty.LineHist
