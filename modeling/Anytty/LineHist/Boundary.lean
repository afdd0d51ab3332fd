import Anytty.LineHist.Reopen

/-!
# Boundaries between logical lines

The engine feeds the rows that leave the screen to the assembler and appends the lines it completes
to a storage.  A stored line that does not end hard goes on in the next one, so a logical line is a
run of stored lines up to the first hard end.  At a cleared scrollback, at an output gap and at the
end of a process the engine seals the open line, and what is stored later should start a new
logical line.

`separated_iff` says when it does.  `SealOpen` has nothing to close when the open line is empty,
and it is empty too right after a chunk: the last stored line then does not end hard, and no
boundary repairs that.

The storage is any implementation of the contract the engine asks for.  In the results it is a list
that loses its oldest lines to retention and fails where the surroundings want it to (`Shelf`);
`run_alike` connects it with the compressed file: without retention that file holds, after the same
calls, what the shelf holds.
-/

namespace Anytty.LineHist

open List

open CompressedLineFile (Op)

/-! ### The engine -/

/-- `LineStorage` with the gaps of `gapStorage`: the state after a call, and its error. -/
abbrev LineStorage (σ : Type) := σ → Op → σ × Option FileError

/-- Calls one after the other, up to the first error. -/
def LineStorage.calls {σ : Type} (storage : LineStorage σ) : List Op → σ → σ × Option FileError
  | [], file => (file, none)
  | op :: ops, file =>
    match (storage file op).2 with
    | none => storage.calls ops (storage file op).1
    | some _ => storage file op

structure Engine (σ : Type) where
  asm : Assembler := {}
  file : σ

/-- An evicted row, and whether its owner is `HistoryPersistedOwnership`. -/
structure EvictedRow where
  row : ScrollOut
  persisted : Bool := false
  deriving DecidableEq, Repr

namespace Engine

variable {σ : Type}

def newEngine (file : σ) : Engine σ := { file }

/-- The loop over the rows: those already persisted are skipped. -/
def assemble : List EvictedRow → Assembler → Assembler × List Line
  | [], asm => (asm, [])
  | row :: rows, asm =>
    if row.persisted then assemble rows asm
    else
      let (asm, lines) := asm.appendEvictedRow row.row
      let (asm, batch) := assemble rows asm
      (asm, lines ++ batch)

section

variable (storage : LineStorage σ)

def applyEvictedRows (e : Engine σ) (rows : List EvictedRow) : Engine σ × Option FileError :=
  if rows = [] then (e, none)
  else
    let (asm, batch) := assemble rows e.asm
    let (file, error) := storage e.file (.appendLines batch)
    (⟨asm, file⟩, error)

/-- Close the open line, store it, and go on with further calls if that did not fail. -/
def sealThen (marks : List Op) (e : Engine σ) : Engine σ × Option FileError :=
  let (asm, line) := e.asm.sealOpen
  let (file, error) :=
    storage.calls ((line.toList.map fun line => Op.appendLines [line]) ++ marks) e.file
  (⟨asm, file⟩, error)

def applyClearScrollbackBoundary : Engine σ → Engine σ × Option FileError :=
  sealThen storage [.appendBoundary]

def appendGapBoundary : Engine σ → Engine σ × Option FileError :=
  sealThen storage [.appendGap]

def sealOpenTail : Engine σ → Engine σ × Option FileError :=
  sealThen storage []

end

/-- The three boundaries. -/
inductive Boundary where
  | clearScrollback
  | gap
  | tail
  deriving DecidableEq, Repr

def Boundary.apply (storage : LineStorage σ) : Boundary → Engine σ → Engine σ × Option FileError
  | .clearScrollback => applyClearScrollbackBoundary storage
  | .gap => appendGapBoundary storage
  | .tail => sealOpenTail storage

inductive Event where
  | rows (rows : List EvictedRow)
  | boundary (boundary : Boundary)
  deriving DecidableEq, Repr

def perform (storage : LineStorage σ) (e : Engine σ) : Event → Engine σ × Option FileError
  | .rows rows => e.applyEvictedRows storage rows
  | .boundary boundary => boundary.apply storage e

/-- Calls on the engine; a failed one does not keep its callers from making more. -/
def run (storage : LineStorage σ) : List Event → Engine σ → Engine σ
  | [], e => e
  | event :: events, e => run storage events (e.perform storage event).1

end Engine

/-! ### A storage that forgets and fails -/

/-- What the surroundings make of a call: whether it fails and after how many lines, and how many
of the oldest lines retention then drops. -/
structure Answer where
  error : Option FileError := none
  stored : Nat := 0
  dropped : Nat := 0
  deriving DecidableEq, Repr

structure Shelf where
  lines : List Line
  /-- The number of calls so far. -/
  calls : Nat := 0
  deriving DecidableEq, Repr

/-- The storage for given answers. -/
def Shelf.storage (answers : Nat → Answer) : LineStorage Shelf := fun shelf op =>
  let answer := answers shelf.calls
  let added := if answer.error = none then op.appended else op.appended.take answer.stored
  (⟨(shelf.lines ++ added).drop answer.dropped, shelf.calls + 1⟩, answer.error)

/-! ### Logical lines -/

/-- The last line, if there is one, ends hard. -/
def EndsHard (lines : List Line) : Prop := ∀ line ∈ lines.getLast?, line.hardEnd = true

/-- Stored lines joined up to the hard ends. -/
def logicalLines : List Line → List (List Line)
  | [] => []
  | line :: lines =>
    if line.hardEnd then [line] :: logicalLines lines
    else
      match logicalLines lines with
      | [] => [[line]]
      | first :: rest => (line :: first) :: rest

theorem endsHard_nil : EndsHard [] := nofun

theorem endsHard_concat (lines : List Line) (line : Line) :
    EndsHard (lines ++ [line]) ↔ line.hardEnd = true := by
  simp [EndsHard]

/-- Dropping the oldest lines does not change how the others end. -/
theorem endsHard_drop (lines : List Line) (count : Nat) :
    EndsHard (lines.drop count) ↔ EndsHard lines ∨ lines.length ≤ count := by
  rcases Nat.lt_or_ge count lines.length with some_left | none_left
  · have last : (lines.drop count).getLast? = lines.getLast? := by
      rw [List.getLast?_drop, if_neg (Nat.not_le.mpr some_left)]
    unfold EndsHard
    rw [last]
    exact ⟨.inl, fun ends => ends.resolve_right (Nat.not_le.mpr some_left)⟩
  · rw [drop_eq_nil_of_le none_left]
    exact ⟨fun _ => .inr none_left, fun _ => endsHard_nil⟩

variable {lines before : List Line}

theorem EndsHard.of_cons {line : Line} (ends : EndsHard (line :: lines))
    (some_line : lines ≠ []) : EndsHard lines := by
  obtain ⟨next, rest, rfl⟩ := exists_cons_of_ne_nil some_line
  intro last mem
  exact ends last (by rwa [List.getLast?_cons_cons])

theorem logicalLines_ne_nil (some_line : lines ≠ []) : logicalLines lines ≠ [] := by
  cases lines with
  | nil => exact absurd rfl some_line
  | cons line lines =>
    unfold logicalLines
    split
    · exact cons_ne_nil _ _
    · split <;> exact cons_ne_nil _ _

/-- Behind a hard end the logical lines are those of the rest. -/
theorem EndsHard.logicalLines_append (ends : EndsHard before) (after : List Line) :
    logicalLines (before ++ after) = logicalLines before ++ logicalLines after := by
  induction before with
  | nil => rfl
  | cons line before ih =>
    rw [cons_append, logicalLines, logicalLines]
    rcases eq_or_ne before [] with rfl | some_line
    · have hard : line.hardEnd = true := ends line rfl
      rw [if_pos hard, if_pos hard]
      rfl
    · rw [ih (ends.of_cons some_line)]
      obtain ⟨first, rest, joined⟩ := exists_cons_of_ne_nil (logicalLines_ne_nil some_line)
      rw [joined]
      split <;> rfl

/-- Without a hard end the next line joins the last logical line. -/
theorem logicalLines_concat_length (soft : ¬EndsHard before) (line : Line) :
    (logicalLines (before ++ [line])).length = (logicalLines before).length := by
  induction before with
  | nil => exact absurd endsHard_nil soft
  | cons head before ih =>
    rw [cons_append, logicalLines, logicalLines]
    rcases eq_or_ne before [] with rfl | some_line
    · have open_end : ¬head.hardEnd = true := fun hard => soft ((endsHard_concat [] head).mpr hard)
      rw [if_neg open_end]
      cases hard : line.hardEnd <;> simp [logicalLines, hard]
    · have soft' : ¬EndsHard before := fun ends => soft fun last mem => by
        obtain ⟨next, rest, rfl⟩ := exists_cons_of_ne_nil some_line
        exact ends last (by rwa [List.getLast?_cons_cons] at mem)
      have same := ih soft'
      obtain ⟨first, rest, joined⟩ := exists_cons_of_ne_nil (logicalLines_ne_nil some_line)
      obtain ⟨first', rest', joined'⟩ := exists_cons_of_ne_nil
        (logicalLines_ne_nil (append_ne_nil_of_left_ne_nil some_line [line]))
      rw [joined, joined'] at same ⊢
      split
      · exact congrArg Nat.succ same
      · exact same

/-- Nothing stored later joins these lines exactly if they end hard. -/
theorem logicalLines_append_iff (before : List Line) :
    (∀ after, logicalLines (before ++ after) = logicalLines before ++ logicalLines after) ↔
      EndsHard before := by
  refine ⟨fun separate => ?_, fun ends after => ends.logicalLines_append after⟩
  by_contra soft
  have more := congrArg List.length (separate [⟨[], true, .zero⟩])
  rw [logicalLines_concat_length soft] at more
  simp [logicalLines] at more

/-! ### Boundaries -/

namespace Engine

/-- After a boundary: nothing is open, the last stored line ends hard, and no logical line joins
stored lines with lines that are stored later. -/
structure Separated (e : Engine Shelf) : Prop where
  closed : e.asm.openRuns = []
  endsHard : EndsHard e.file.lines
  apart : ∀ after, logicalLines (e.file.lines ++ after) =
    logicalLines e.file.lines ++ logicalLines after

theorem separated_iff_endsHard {e : Engine Shelf} (closed : e.asm.openRuns = []) :
    e.Separated ↔ EndsHard e.file.lines :=
  ⟨Separated.endsHard, fun ends => ⟨closed, ends, (logicalLines_append_iff _).mpr ends⟩⟩

/-- The record a boundary leaves in the storage. -/
def Boundary.marks : Boundary → List Op
  | .clearScrollback => [.appendBoundary]
  | .gap => [.appendGap]
  | .tail => []

theorem Boundary.apply_eq {σ : Type} (storage : LineStorage σ) (boundary : Boundary)
    (e : Engine σ) : boundary.apply storage e = sealThen storage boundary.marks e := by
  cases boundary <;> rfl

theorem sealOpen_closed (asm : Assembler) : asm.sealOpen.1.openRuns = [] := by
  unfold Assembler.sealOpen
  split
  · next empty => exact empty
  · rfl

theorem sealOpen_line {asm : Assembler} (some_run : asm.openRuns ≠ []) :
    ∃ line, asm.sealOpen.2 = some line ∧ line.hardEnd = true := by
  rw [Assembler.sealOpen, if_neg some_run]
  exact ⟨_, rfl, rfl⟩

variable {answers : Nat → Answer} {shelf : Shelf}

/-- A storage call that succeeds appends its lines and drops some of the oldest. -/
theorem calls_cons {op : Op} {ops : List Op}
    (ok : ((Shelf.storage answers).calls (op :: ops) shelf).2 = none) :
    (Shelf.storage answers).calls (op :: ops) shelf = (Shelf.storage answers).calls ops
      ⟨(shelf.lines ++ op.appended).drop (answers shelf.calls).dropped, shelf.calls + 1⟩ := by
  rw [LineStorage.calls] at ok ⊢
  cases failed : (answers shelf.calls).error with
  | none => simp [Shelf.storage, failed]
  | some error =>
    have answer : (Shelf.storage answers shelf op).2 = some error := failed
    simp [answer] at ok

variable {boundary : Boundary}

/-- The marks of a boundary store no line; all they can do is drop. -/
theorem calls_marks (ok : ((Shelf.storage answers).calls boundary.marks shelf).2 = none) :
    ((Shelf.storage answers).calls boundary.marks shelf).1.lines =
      shelf.lines.drop (if boundary = .tail then 0 else (answers shelf.calls).dropped) := by
  cases boundary with
  | clearScrollback | gap =>
    rw [Boundary.marks, calls_cons ok]
    simp [LineStorage.calls, Op.appended]
  | tail => rfl

/-- Storing the sealed line first makes the stored lines end hard, whatever is dropped. -/
theorem endsHard_sealed {line : Line} (hard : line.hardEnd = true)
    (ok : ((Shelf.storage answers).calls (.appendLines [line] :: boundary.marks) shelf).2 = none) :
    EndsHard
      ((Shelf.storage answers).calls (.appendLines [line] :: boundary.marks) shelf).1.lines := by
  have stored := calls_cons ok
  rw [stored] at ok ⊢
  rw [calls_marks ok, endsHard_drop, endsHard_drop]
  exact .inl (.inl ((endsHard_concat _ _).mpr hard))

/-- Over a storage with any answers and in any state, a boundary that succeeds separates what is
stored before and after it exactly if before it a line was open, or the last stored line ended hard,
or retention drops all stored lines during the call. -/
theorem separated_iff (answers : Nat → Answer) (e : Engine Shelf) (boundary : Boundary)
    (ok : (boundary.apply (Shelf.storage answers) e).2 = none) :
    (boundary.apply (Shelf.storage answers) e).1.Separated ↔
      e.asm.openRuns ≠ [] ∨ EndsHard e.file.lines ∨
        boundary ≠ .tail ∧ e.file.lines.length ≤ (answers e.file.calls).dropped := by
  rw [Boundary.apply_eq] at ok ⊢
  rw [separated_iff_endsHard (sealOpen_closed e.asm)]
  unfold sealThen at ok ⊢
  dsimp only at ok ⊢
  rcases eq_or_ne e.asm.openRuns [] with empty | some_run
  · -- Nothing is sealed: only the marks are written.
    have nothing : e.asm.sealOpen.2 = none := by rw [Assembler.sealOpen, if_pos empty]
    rw [nothing, Option.toList_none, map_nil, nil_append] at ok ⊢
    rw [calls_marks ok]
    cases boundary with
    | tail => simp [empty]
    | clearScrollback | gap => simp [empty, endsHard_drop]
  · obtain ⟨line, sealed, hard⟩ := sealOpen_line some_run
    rw [sealed] at ok ⊢
    exact ⟨fun _ => .inl some_run, fun _ => endsHard_sealed hard ok⟩

/-- With an open line, the boundary of a cleared scrollback separates. -/
theorem separated_of_open :
    let e : Engine Shelf := ⟨{ openRuns := [⟨[0x79], {}, [], []⟩] }, ⟨[], 0⟩⟩
    (applyClearScrollbackBoundary (Shelf.storage fun _ => {}) e).2 = none ∧
      (applyClearScrollbackBoundary (Shelf.storage fun _ => {}) e).1.Separated :=
  ⟨rfl, (separated_iff (fun _ => {}) _ .clearScrollback rfl).mpr (.inl (cons_ne_nil _ _))⟩

/-! ### The compressed file -/

/-- A storage without failures and retention. -/
abbrev keeping : LineStorage Shelf := Shelf.storage fun _ => {}

/-- The compressed file as a storage. -/
abbrev compressed (c : Codecs) (w : World) : LineStorage CompressedLineFile :=
  fun f op => op.apply c w f

section Compressed

variable {c : Codecs} {w : World}

/-- The file, without retention, holds the lines of the shelf. -/
def Alike (c : Codecs) (f : CompressedLineFile) (shelf : Shelf) : Prop :=
  f.Unlimited ∧ ∃ gaps, f.Shows c shelf.lines gaps

theorem calls_compressed (ops : List Op) (f : CompressedLineFile) :
    (compressed c w).calls ops f = CompressedLineFile.run c w ops f := by
  induction ops generalizing f with
  | nil => rfl
  | cons op ops ih =>
    rw [CompressedLineFile.run, Outcome.andThen]
    show (match (op.apply c w f).2 with | none => _ | some _ => _) = _
    cases (op.apply c w f).2 with
    | none => exact ih _
    | some => rfl

theorem calls_keeping (ops : List Op) (shelf : Shelf) : ∃ count,
    keeping.calls ops shelf =
      (⟨shelf.lines ++ CompressedLineFile.appended ops, count⟩, none) := by
  induction ops generalizing shelf with
  | nil => exact ⟨shelf.calls, by simp [LineStorage.calls, CompressedLineFile.appended]⟩
  | cons op ops ih =>
    obtain ⟨count, rest⟩ := ih ⟨shelf.lines ++ op.appended, shelf.calls + 1⟩
    rw [List.append_assoc] at rest
    exact ⟨count, rest⟩

variable {f : CompressedLineFile}

/-- The calls on both succeed, and the file still holds the lines of the shelf. -/
theorem Alike.calls (alike : Alike c f shelf) (ops : List Op) :
    ((compressed c w).calls ops f).2 = none ∧
      Alike c ((compressed c w).calls ops f).1 (keeping.calls ops shelf).1 := by
  obtain ⟨unlimited, gaps, shows⟩ := alike
  obtain ⟨ok, options, shows'⟩ := CompressedLineFile.run_adds (w := w) unlimited shows ops
  obtain ⟨count, kept⟩ := calls_keeping ops shelf
  rw [calls_compressed, kept]
  exact ⟨ok, by rwa [CompressedLineFile.Unlimited, options], _, shows'⟩

/-- One call on the engine. -/
theorem Alike.perform (asm : Assembler) (alike : Alike c f shelf) (event : Event) :
    let next := perform (compressed c w) ⟨asm, f⟩ event
    let next' := perform keeping ⟨asm, shelf⟩ event
    next.2 = none ∧ next.1.asm = next'.1.asm ∧ Alike c next.1.file next'.1.file := by
  cases event with
  | boundary boundary =>
    dsimp only [Engine.perform]
    rw [Boundary.apply_eq, Boundary.apply_eq]
    obtain ⟨ok, alike'⟩ := alike.calls (w := w)
      ((asm.sealOpen.2.toList.map fun line => Op.appendLines [line]) ++ boundary.marks)
    exact ⟨ok, rfl, alike'⟩
  | rows rows =>
    dsimp only [Engine.perform, applyEvictedRows]
    split
    · exact ⟨rfl, rfl, alike⟩
    -- A single call is a sequence of one call.
    have single := alike.calls (w := w) [.appendLines (assemble rows asm).2]
    simp only [LineStorage.calls] at single
    split at single
    · next ok => exact ⟨ok, rfl, single.2⟩
    · next failed => rw [failed] at single; cases single.1

/-- In every run the engine over the compressed file without retention never fails, assembles the
same lines and stores what the shelf stores. -/
theorem run_alike {asm : Assembler} (alike : Alike c f shelf) (events : List Event) :
    let e := run (compressed c w) events ⟨asm, f⟩
    let e' := run keeping events ⟨asm, shelf⟩
    e.asm = e'.asm ∧ Alike c e.file e'.file := by
  induction events generalizing asm f shelf with
  | nil => exact ⟨rfl, alike⟩
  | cons event events ih =>
    obtain ⟨-, same, alike'⟩ := alike.perform (w := w) asm event
    dsimp only [run] at same alike' ⊢
    generalize perform (compressed c w) ⟨asm, f⟩ event = next at same alike' ⊢
    obtain ⟨⟨asm', f'⟩, error⟩ := next
    cases same
    exact ih alike'

end Compressed

/-! ### A chunk right before a boundary -/

/-- A soft wrapped row of `count` characters. -/
def wideRow (count : Nat) : EvictedRow where
  row := { runs := [⟨List.replicate count 0x78, {}⟩], wrapped := true, wrappedSet := true }

/-- The chunk of such a row. -/
def wideChunk (count : Nat) : Line := ⟨[⟨List.replicate count 0x78, {}, [], []⟩], false, .zero⟩

/-- A row of a single character that ends hard. -/
def plainRow : EvictedRow where
  row := { runs := [⟨[0x79], {}⟩] }

def plainLine : Line := ⟨[⟨[0x79], {}, [], []⟩], true, .zero⟩

/-- A wrapped row at the limit leaves the assembler as it was at the start. -/
theorem assemble_wideRow {count : Nat} (long : defaultMaxOpenLineBytes ≤ count) :
    assemble [wideRow count] {} = ({}, [wideChunk count]) := by
  have some_text : List.replicate count (0x78 : UInt8) ≠ [] := by
    rw [ne_eq, replicate_eq_nil_iff]
    rintro rfl
    exact absurd long (by decide)
  have runs : runsFromScrollOut (wideRow count).row = (wideChunk count).runs := by
    simp [runsFromScrollOut, wideRow, wideChunk, TermRun.toRun, appendMergedRun, some_text]
  have absorbed : Assembler.absorb {} (wideRow count).row =
      { openRuns := (wideChunk count).runs, openBytes := count } := by
    unfold Assembler.absorb
    rw [runs]
    simp only [wideChunk, wideRow, foldl_cons, foldl_nil, appendMergedRun,
      if_neg some_text, List.getLast?_nil, length_replicate, Nat.zero_add, ite_self]
    rfl
  have emitted : Assembler.appendEvictedRow {} (wideRow count).row = ({}, [wideChunk count]) := by
    unfold Assembler.appendEvictedRow
    rw [absorbed]
    exact if_neg (Nat.not_lt.mpr long)
  unfold assemble
  rw [emitted]
  rfl

theorem applyEvictedRows_wideRow {count : Nat} (long : defaultMaxOpenLineBytes ≤ count) :
    (newEngine ⟨[], 0⟩).applyEvictedRows keeping [wideRow count] =
      (⟨{}, ⟨[wideChunk count], 1⟩⟩, none) := by
  have emitted : assemble [wideRow count] (newEngine (σ := Shelf) ⟨[], 0⟩).asm =
      ({}, [wideChunk count]) := assemble_wideRow long
  unfold applyEvictedRows
  rw [emitted]
  rfl

/-- Behind a chunk every boundary succeeds and leaves the last line as it is, so the next row goes
on with it. -/
theorem not_separated_of_soft {chunk : Line} (soft : chunk.hardEnd = false) (boundary : Boundary) :
    let applied := boundary.apply keeping ⟨{}, ⟨[chunk], 1⟩⟩
    applied.2 = none ∧ ¬applied.1.Separated ∧
      logicalLines (applied.1.applyEvictedRows keeping [plainRow]).1.file.lines =
        [[chunk, plainLine]] := by
  have line : assemble [plainRow] {} = ({}, [plainLine]) := by decide
  have joined : logicalLines [chunk, plainLine] = [[chunk, plainLine]] := by
    simp [logicalLines, soft, plainLine]
  have applied : ∃ calls, boundary.apply keeping ⟨{}, ⟨[chunk], 1⟩⟩ =
      (⟨{}, ⟨[chunk], calls⟩⟩, none) := by
    cases boundary with
    | clearScrollback | gap => exact ⟨2, rfl⟩
    | tail => exact ⟨1, rfl⟩
  obtain ⟨calls, applied⟩ := applied
  rw [applied]
  refine ⟨rfl, fun separated => ?_, ?_⟩
  · have hard := separated.endsHard chunk rfl
    rw [soft] at hard
    cases hard
  · rw [← joined]
    rfl

/-- A row of 262144 characters is stored as a chunk; every kind of boundary then succeeds and
changes nothing, and the next row continues the logical line from before the boundary. -/
theorem chunk_not_separated :
    let chunked := (newEngine ⟨[], 0⟩).applyEvictedRows keeping [wideRow 262144]
    chunked.2 = none ∧ ∀ boundary : Boundary,
      let applied := boundary.apply keeping chunked.1
      applied.2 = none ∧ ¬applied.1.Separated ∧
        logicalLines (applied.1.applyEvictedRows keeping [plainRow]).1.file.lines =
          [[wideChunk 262144, plainLine]] := by
  rw [applyEvictedRows_wideRow (by decide)]
  exact ⟨rfl, not_separated_of_soft rfl⟩

/-- A row that leaves the screen is in a file that was new. -/
theorem run_alike_row : ∃ f gaps,
    (run (compressed plainCodecs quietWorld) [.rows [plainRow]] ⟨{}, f⟩).file.Shows plainCodecs
      [plainLine] gaps := by
  obtain ⟨f, -, options, shows⟩ := @CompressedLineFile.open_nil plainCodecs ⟨0, 0, .zstd, .fast⟩
    ⟨rfl, rfl⟩ quietWorld
  have alike : Alike plainCodecs f ⟨[], 0⟩ := by
    refine ⟨?_, [], shows⟩
    rw [CompressedLineFile.Unlimited, options]
    exact ⟨rfl, rfl⟩
  exact ⟨f, (run_alike alike [.rows [plainRow]]).2.2⟩

end Engine

end Anytty.LineHist
