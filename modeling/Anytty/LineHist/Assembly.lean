import Anytty.LineHist.Line

/-!
# The assembler keeps the text

Every byte is compared together with its style and its link (`styledText`).  The rows fed to an
assembler fall into groups, one for each emitted line, and the rows that are still open.  A chunk
has the text of its rows, and a line that ends hard has it without the unstyled blanks at its end.
-/

namespace Anytty.LineHist

open Anytty.Wire List

/-- How a byte is shown. -/
structure Look where
  style : CellStyle := {}
  linkURL : Bytes := []
  linkParams : Bytes := []
  deriving DecidableEq, Repr

def Run.look (run : Run) : Look := ⟨run.style, run.linkURL, run.linkParams⟩

/-- The bytes of a run, each with its look. -/
def Run.styled (run : Run) : List (UInt8 × Look) := run.text.map fun byte => (byte, run.look)

def styledText (runs : List Run) : List (UInt8 × Look) := runs.flatMap Run.styled

/-- The text of a row as the terminal gives it. -/
def ScrollOut.styledText (row : ScrollOut) : List (UInt8 × Look) :=
  LineHist.styledText (if row.runs ≠ [] then row.runs.map TermRun.toRun
    else row.cells.filterMap TermCell.toRun)

/-- The row is not wrapped. -/
def ScrollOut.hardEnd (row : ScrollOut) : Bool := !(row.wrappedSet && row.wrapped)

/-- An unstyled blank. -/
def padding : UInt8 × Look := (space, {})

/-- No run is empty, and neighbours differ in style or link. -/
structure Merged (runs : List Run) : Prop where
  apart : (runs.map Run.look).IsChain (· ≠ ·)
  nonempty : ∀ run ∈ runs, run.text ≠ []

@[simp] theorem styledText_append (runs more : List Run) :
    styledText (runs ++ more) = styledText runs ++ styledText more := flatMap_append

@[simp] theorem styledText_singleton (run : Run) : styledText [run] = run.styled :=
  flatMap_singleton ..

theorem Run.sameLook_iff (run next : Run) : run.sameLook next = true ↔ run.look = next.look := by
  simp [sameLook, look, and_assoc]

theorem appendMergedRun_cases (runs : List Run) (next : Run) :
    (next.text = [] ∧ appendMergedRun runs next = runs) ∨
    (next.text ≠ [] ∧ ∃ before last, runs = before ++ [last] ∧ last.look = next.look ∧
      appendMergedRun runs next = before ++ [{ last with text := last.text ++ next.text }]) ∨
    (next.text ≠ [] ∧ (∀ last ∈ runs.getLast?, last.look ≠ next.look) ∧
      appendMergedRun runs next = runs ++ [next]) := by
  unfold appendMergedRun
  split
  · next blank => exact .inl ⟨blank, rfl⟩
  next text =>
  rcases eq_nil_or_concat runs with rfl | ⟨before, last, rfl⟩
  · exact .inr (.inr ⟨text, nofun, rfl⟩)
  simp only [concat_eq_append, List.getLast?_concat, dropLast_concat]
  split
  · next same =>
    exact .inr (.inl ⟨text, before, last, rfl, (last.sameLook_iff next).1 same, rfl⟩)
  · next differ =>
    refine .inr (.inr ⟨text, fun _ known => ?_, rfl⟩)
    cases known
    exact fun same => differ ((last.sameLook_iff next).2 same)

theorem styledText_appendMergedRun (runs : List Run) (next : Run) :
    styledText (appendMergedRun runs next) = styledText runs ++ next.styled := by
  rcases appendMergedRun_cases runs next with
    ⟨blank, eq⟩ | ⟨_, before, last, rfl, same, eq⟩ | ⟨_, _, eq⟩
  · rw [eq, Run.styled, blank, map_nil, append_nil]
  · have grown : Run.styled { last with text := last.text ++ next.text } =
        last.styled ++ next.styled := by
      simp only [Run.styled, map_append, ← same]
      rfl
    rw [eq, styledText_append, styledText_append, styledText_singleton, styledText_singleton, grown,
      List.append_assoc]
  · rw [eq, styledText_append, styledText_singleton]

theorem Merged.appendMergedRun {runs : List Run} (h : Merged runs) (next : Run) :
    Merged (appendMergedRun runs next) := by
  rcases appendMergedRun_cases runs next with
    ⟨_, eq⟩ | ⟨text, before, last, rfl, same, eq⟩ | ⟨text, differ, eq⟩
  · rw [eq]
    exact h
  · rw [eq]
    refine ⟨?_, forall_mem_append.2 ⟨(forall_mem_append.1 h.nonempty).1,
      forall_mem_singleton.2 (append_ne_nil_of_right_ne_nil _ text)⟩⟩
    have apart := h.apart
    rw [map_append] at apart ⊢
    exact apart
  · rw [eq]
    refine ⟨?_, forall_mem_append.2 ⟨h.nonempty, forall_mem_singleton.2 text⟩⟩
    rw [map_append]
    refine isChain_append.2 ⟨h.apart, isChain_singleton _, fun look known _ own => ?_⟩
    rw [List.getLast?_map, Option.mem_map] at known
    obtain ⟨last, known, rfl⟩ := known
    cases own
    exact differ last known

/-- Runs are merged one by one, without a change of the text. -/
theorem foldl_appendMergedRun (runs added : List Run) :
    styledText (added.foldl appendMergedRun runs) = styledText runs ++ styledText added ∧
      (Merged runs → Merged (added.foldl appendMergedRun runs)) := by
  induction added generalizing runs with
  | nil => exact ⟨(append_nil _).symm, id⟩
  | cons next added ih =>
    obtain ⟨text, merged⟩ := ih (appendMergedRun runs next)
    refine ⟨?_, fun h => merged (h.appendMergedRun next)⟩
    rw [foldl_cons, text, styledText_appendMergedRun, List.append_assoc]
    rfl

theorem styledText_runsFromScrollOut (row : ScrollOut) :
    styledText (runsFromScrollOut row) = row.styledText := by
  unfold runsFromScrollOut ScrollOut.styledText
  split
  · exact (foldl_appendMergedRun [] _).1
  · exact (foldl_appendMergedRun [] _).1

/-! ### Padding -/

/-- A plain run loses its blanks. -/
theorem dropWhile_styled {run : Run}
    (plain : ¬ (run.style ≠ {} ∨ run.linkURL ≠ [] ∨ run.linkParams ≠ [])) :
    run.styled.reverse.dropWhile (· = padding) =
      (Run.styled { run with text := trimRight run.text }).reverse := by
  have look : run.look = {} := by simpa [Run.look, not_or] using plain
  have same : Run.look { run with text := trimRight run.text } = {} := look
  rw [Run.styled, Run.styled, look, same, trimRight, map_reverse, reverse_reverse,
    ← map_reverse, dropWhile_map]
  congr 2
  funext byte
  simp [padding]

/-- The unstyled blanks at the end go, and nothing else. -/
theorem trimPadding_spec (runs : List Run) (nonempty : ∀ run ∈ runs, run.text ≠ []) :
    styledText (trimPadding runs).reverse =
      (styledText runs.reverse).rdropWhile (· = padding) := by
  fun_induction trimPadding runs with
  | case1 => rfl
  | case2 last runs styled =>
    -- The last byte is shown with a style or a link.
    obtain ⟨bytes, byte, text⟩ :=
      (eq_nil_or_concat last.text).resolve_left (nonempty last mem_cons_self)
    have shown : last.look ≠ {} := by
      simpa [Run.look, or_iff_not_imp_left] using styled
    rw [reverse_cons, styledText_append, styledText_singleton, Run.styled, text,
      concat_eq_append, map_append, map_singleton, ← List.append_assoc,
      rdropWhile_concat_neg]
    simp [padding, shown]
  | case3 last runs unstyled text =>
    rw [reverse_cons, reverse_cons, styledText_append, styledText_append,
      styledText_singleton, styledText_singleton, List.rdropWhile, reverse_append,
      dropWhile_append, dropWhile_styled unstyled, if_neg]
    · simp
    · simpa [Run.styled] using text
  | case4 last runs unstyled text ih =>
    rw [ih fun run mem => nonempty run (mem_cons_of_mem _ mem), reverse_cons,
      styledText_append, styledText_singleton, List.rdropWhile, List.rdropWhile,
      reverse_append, dropWhile_append, dropWhile_styled unstyled, if_pos]
    simpa [Run.styled] using text

theorem trimPadding_look (runs : List Run) :
    (trimPadding runs).map Run.look <:+ runs.map Run.look := by
  fun_induction trimPadding runs with
  | case1 | case2 | case3 => exact suffix_rfl
  | case4 last runs _ _ ih => exact ih.trans (suffix_cons ..)

/-! ### Rows and lines -/

/-- The line that a group of rows gives.  The last row of the group ends it: a chunk has the text of
its rows, and a line that ends hard has it without the padding at the end. -/
structure Closes (rows : List ScrollOut) (line : Line) : Prop where
  ended : ∃ before last, rows = before ++ [last] ∧ last.hardEnd = line.hardEnd ∧
    ∀ row ∈ before, row.hardEnd = false
  text : styledText line.runs = if line.hardEnd
    then (rows.flatMap ScrollOut.styledText).rdropWhile (· = padding)
    else rows.flatMap ScrollOut.styledText
  apart : (line.runs.map Run.look).IsChain (· ≠ ·)

namespace Assembler

/-- The assembler after the rows, with the lines emitted on the way. -/
def assemble (asm : Assembler) (rows : List ScrollOut) : Assembler × List Line :=
  rows.foldl (fun state row =>
    let (asm, lines) := state.1.appendEvictedRow row
    (asm, state.2 ++ lines)) (asm, [])

/-- The rows behind the open line. -/
structure Open (asm : Assembler) (rows : List ScrollOut) : Prop where
  merged : Merged asm.openRuns
  text : styledText asm.openRuns = rows.flatMap ScrollOut.styledText
  wrapped : ∀ row ∈ rows, row.hardEnd = false

theorem Open.cleared (asm : Assembler) : Open asm.cleared [] :=
  ⟨⟨isChain_nil, forall_mem_nil _⟩, rfl, forall_mem_nil _⟩

/-- A row stays open, or the line of its group is emitted. -/
theorem Open.appendEvictedRow {asm : Assembler} {rows : List ScrollOut} (h : Open asm rows)
    (row : ScrollOut) :
    (Open (asm.appendEvictedRow row).1 (rows ++ [row]) ∧ (asm.appendEvictedRow row).2 = []) ∨
    (Open (asm.appendEvictedRow row).1 [] ∧ ∃ line, (asm.appendEvictedRow row).2 = [line] ∧
      Closes (rows ++ [row]) line) := by
  obtain ⟨text, merges⟩ := foldl_appendMergedRun asm.openRuns (runsFromScrollOut row)
  have merged : Merged (asm.absorb row).openRuns := merges h.merged
  have joined : (rows ++ [row]).flatMap ScrollOut.styledText =
      styledText (asm.absorb row).openRuns := by
    rw [flatMap_append, flatMap_singleton, ← h.text, ← styledText_runsFromScrollOut]
    exact text.symm
  unfold Assembler.appendEvictedRow
  dsimp only
  split
  · next wraps =>
    have soft : row.hardEnd = false := by rw [ScrollOut.hardEnd, wraps]; rfl
    split
    · exact .inl ⟨⟨merged, joined.symm,
        forall_mem_append.2 ⟨h.wrapped, forall_mem_singleton.2 soft⟩⟩, rfl⟩
    · exact .inr ⟨.cleared _, _, rfl, ⟨rows, row, rfl, soft, h.wrapped⟩,
        joined.symm, merged.apart⟩
  · next ends =>
    have hard : row.hardEnd = true := by
      rw [ScrollOut.hardEnd, Bool.eq_false_of_not_eq_true ends]
      rfl
    have trimmed := trimPadding_spec (asm.absorb row).openRuns.reverse
      fun run mem => merged.nonempty run (mem_reverse.1 mem)
    rw [reverse_reverse, ← joined] at trimmed
    refine .inr ⟨.cleared _, _, rfl, ⟨rows, row, rfl, hard, h.wrapped⟩, trimmed, ?_⟩
    have looks := reverse_prefix.2 (trimPadding_look (asm.absorb row).openRuns.reverse)
    rw [← map_reverse, ← map_reverse, reverse_reverse] at looks
    exact merged.apart.prefix looks

end Assembler

end Anytty.LineHist
