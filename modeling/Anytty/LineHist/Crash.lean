import Anytty.LineHist.Reopen

/-!
# Opening a line file after a crash

A crash leaves any prefix of what was written.  The walk over the headers ends before the first
incomplete record, so the file that is opened holds the records within the prefix, and the rest is
truncated (`open_prefix`).  `recovers_iff` says when this file shows the lines and gaps of these
records and takes further appends.
-/

namespace Anytty.LineHist

open CompressedLineFile List

/-- The records within the first `size` bytes of a log. -/
def Log.within (c : Codecs) (options : CompressedLineFileOptions) : Nat → Log → Log
  | _, [] => []
  | size, record :: log =>
    if (record.encode c options).length ≤ size then
      record :: within c options (size - (record.encode c options).length) log
    else []

variable (c : Codecs) (options : CompressedLineFileOptions)

theorem Log.within_prefix (size : Nat) (log : Log) : within c options size log <+: log := by
  induction log generalizing size with
  | nil => exact nil_prefix
  | cons record log ih =>
    unfold within
    split
    · exact prefix_cons_inj record |>.mpr (ih _)
    · exact nil_prefix

/-- A prefix of the bytes is the records within it and a part of the next record. -/
theorem Log.take_encode (size : Nat) (log : Log) :
    ∃ torn, (encode c options log).take size =
        encode c options (within c options size log) ++ torn ∧
      (torn = [] ∨ ∃ record ∈ log, torn <+: record.encode c options ∧
        torn.length < (record.encode c options).length) := by
  induction log generalizing size with
  | nil => exact ⟨[], by simp [within], .inl rfl⟩
  | cons record log ih =>
    rw [encode_cons, take_append, within]
    split
    · next whole =>
      obtain ⟨torn, taken, part⟩ := ih (size - (record.encode c options).length)
      refine ⟨torn, ?_, part.imp_right fun ⟨next, mem, part⟩ =>
        ⟨next, mem_cons_of_mem _ mem, part⟩⟩
      rw [take_of_length_le whole, taken, encode_cons, List.append_assoc]
    · next cut =>
      have short : size < (record.encode c options).length := Nat.not_le.mp cut
      refine ⟨(record.encode c options).take size, ?_, .inr ⟨record, mem_cons_self,
        take_prefix _ _, ?_⟩⟩
      · rw [Nat.sub_eq_zero_of_le short.le, take_zero, append_nil]
        rfl
      · rw [length_take]
        omega

variable {c options}

/-- The prefix of a log opens, reads as the records within it and is truncated to them. -/
theorem open_prefix (unlimited : options.maxBytes = 0 ∧ options.maxAge = 0) (w : World) {log : Log}
    (follows : Log.Follows 0 [] log) (small : ∀ record ∈ log, Small record) (size : Nat) :
    ∃ g, openCompressedLineFile w options (.opened ((Log.encode c options log).take size)) = .ok g ∧
      g.options = options ∧ g.file = .opened (Log.encode c options (log.within c options size)) ∧
      g.lines c 0 g.lineCount = .ok ((Log.lines (log.within c options size)).map Line.stored) ∧
      ((∀ gap ∈ Log.gaps (log.within c options size), gap < 2 ^ 32) →
        Holds c g (log.within c options size) ∧ g.pending = []) := by
  obtain ⟨torn, taken, part⟩ := Log.take_encode c options size log
  obtain ⟨rest, whole⟩ := Log.within_prefix c options size log
  have ends : ∀ r, recoverLoop torn r = .ok r := by
    intro r
    rcases part with rfl | ⟨record, mem, part, short⟩
    · exact recoverLoop_nil _
    · exact recoverLoop_torn (small record mem) part short r
  rw [taken]
  refine open_torn unlimited w ?_ (fun record mem => small record ?_) ends
  · rw [← whole, Log.follows_append] at follows
    exact follows.1
  · rw [← whole]
    exact mem_append_left _ mem

/-- The first `size` bytes of a log open; the file has the lines and the gaps of the records within
them, is truncated to these records, and after further appends it reopens with these lines and the
new ones. -/
def Recovers (c : Codecs) (w w' : World) (options : CompressedLineFileOptions) (log : Log)
    (size : Nat) (more : List Op) : Prop :=
  let kept := log.within c options size
  ∃ g read,
    openCompressedLineFile w options (.opened ((Log.encode c options log).take size)) = .ok g ∧
    g.lines c 0 g.lineCount = .ok read ∧ List.Forall₂ Line.Same (Log.lines kept) read ∧
    g.gapOffsets = Log.gaps kept ∧ g.file = .opened (Log.encode c options kept) ∧
    Reopens c w w' options g more (Log.lines kept ++ appended more)

/-- A file that was written without retention, in small blocks, recovers from a crash that leaves
any prefix of it exactly if each line in the prefix and each line appended later survives and each
gap stands at a line number below `2 ^ 32`. -/
theorem recovers_iff (c : Codecs) (w w' w'' : World) (compression : Compression)
    (level : CompressionLevel) (ops : List Op) :
    let options : CompressedLineFileOptions := ⟨0, 0, compression, level⟩
    ∃ f₀ f log, openCompressedLineFile w options .nil = .ok f₀ ∧ run c w ops f₀ = (f, none) ∧
      f.file = .opened (Log.encode c options log) ∧ Log.Follows 0 [] log ∧
      Log.lines log ++ f.pending = appended ops ∧
      ((∀ record ∈ log, Small record) → ∀ size more, Recovers c w' w'' options log size more ↔
        (∀ line ∈ Log.lines (log.within c options size) ++ appended more, line.Survives) ∧
        ∀ gap ∈ Log.gaps (log.within c options size) ++
          gapCalls (Log.lines (log.within c options size)).length more, gap < 2 ^ 32) := by
  intro options
  have unlimited : options.maxBytes = 0 ∧ options.maxAge = 0 := ⟨rfl, rfl⟩
  obtain ⟨f₀, created, kept, shows⟩ := open_nil c unlimited w
  obtain ⟨ok, same, log, holds, lines, -⟩ :=
    run_adds (w := w) (by rwa [Unlimited, kept]) shows ops
  have options_f := same.trans kept
  refine ⟨f₀, (run c w ops f₀).1, log, created, Prod.ext rfl ok, options_f ▸ holds.file,
    holds.follows, lines, fun small size more => ?_⟩
  obtain ⟨g, opened, kept_g, file, read, holds_g⟩ :=
    open_prefix (c := c) unlimited w' holds.follows small size
  constructor
  · rintro ⟨g', read', opened', -, -, gaps, -, reopens⟩
    rw [opened] at opened'
    cases opened'
    -- The parser gives no gap of more than 32 bits, so none was cut.
    obtain ⟨-, limited, -⟩ := open_limited unlimited opened
    obtain ⟨holds', pending⟩ := holds_g fun gap mem => limited gap (gaps ▸ mem)
    exact (reopens_iff unlimited kept_g
      ⟨_, holds', by rw [pending, append_nil], fun _ => Iff.rfl⟩ w' w'' more).mp reopens
  · rintro ⟨survive, uncut⟩
    obtain ⟨holds', pending⟩ := holds_g fun gap mem => uncut gap (mem_append_left _ mem)
    refine ⟨g, _, opened, read, ?_, holds'.gapOffsets, file, (reopens_iff unlimited kept_g
      ⟨_, holds', by rw [pending, append_nil], fun _ => Iff.rfl⟩ w' w'' more).mpr
        ⟨survive, uncut⟩⟩
    rw [forall₂_same_stored]
    exact fun line mem => (survive line (mem_append_left _ mem)).2

/-- An empty line of the first instant of 1970. -/
def epochLine : Line := ⟨[], true, .unix 0⟩

theorem epochLine_size : 1 + compactLineEncodedSize epochLine ≤ compressedBlockMaxRawBytes := by
  have time : unixNanoOrZero epochLine.updatedAt = 0 := by decide
  rw [compactLineEncodedSize, time]
  simp [epochLine, Wire.varintSize, Wire.zigzag, Wire.uvarintSize, compressedBlockMaxRawBytes]

/-- The line is appended and closed, and the whole file is there when it is opened again; the time
of the line is taken for a missing one. -/
theorem epoch_line_not_recovered :
    let options : CompressedLineFileOptions := ⟨0, 0, .zstd, .fast⟩
    ∃ f₀ f f' log g, openCompressedLineFile quietWorld options .nil = .ok f₀ ∧
      run plainCodecs quietWorld [.appendLines [epochLine]] f₀ = (f, none) ∧
      f.close plainCodecs quietWorld = ((f', none), .opened (Log.encode plainCodecs options log)) ∧
      (∀ record ∈ log, Small record) ∧
      openCompressedLineFile quietWorld options (.opened (Log.encode plainCodecs options log)) =
        .ok g ∧
      g.lines plainCodecs 0 g.lineCount = .ok [⟨[], true, .zero⟩] ∧
      ¬epochLine.Same ⟨[], true, .zero⟩ := by
  intro options
  have unlimited : options.maxBytes = 0 ∧ options.maxAge = 0 := ⟨rfl, rfl⟩
  obtain ⟨f₀, created, kept, shows⟩ := open_nil plainCodecs unlimited quietWorld
  obtain ⟨f, f', log, ran, closed, follows, lines_log, -⟩ :=
    closed_log unlimited kept shows quietWorld [.appendLines [epochLine]]
  have lines_log : Log.lines log = [epochLine] := lines_log
  have small : ∀ record ∈ log, Small record := by
    refine small_of_lines follows fun line mem => ?_
    rw [lines_log] at mem
    exact mem_singleton.mp mem ▸ epochLine_size
  obtain ⟨g, opened, read, -⟩ := open_log (c := plainCodecs) unlimited quietWorld follows small
  rw [lines_log] at read
  exact ⟨f₀, f, f', log, g, created, ran, closed, small, opened, read, fun same =>
    absurd same.unixNano (by decide)⟩

end Anytty.LineHist
