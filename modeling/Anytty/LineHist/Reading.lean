import Anytty.LineHist.BlockFile

/-!
# What a read of the line file visits

`Reads` says what the blocks of an index hold: which lines, under which consecutive indices.
`Reads.visitLines` is the fact about `VisitLines` that its callers need.  Over an index that reads
as a list of lines, the visitor sees the lines of the requested range, in order or in reverse order,
the pending lines after the written ones, up to the line at which it stops.
-/

namespace Anytty.LineHist

open List

namespace CompressedLineFile

variable {c : Codecs} {handle : Handle}

/-- The blocks of an index, from a line index on, hold these lines. -/
inductive Reads (c : Codecs) (handle : Handle) : Nat → List CompressedBlock → List Line → Prop where
  | nil {first : Nat} : Reads c handle first [] []
  | cons {first : Nat} {block : CompressedBlock} {blocks : List CompressedBlock}
      {batch rest : List Line} (firstLine : block.firstLine = first)
      (lineCount : block.lineCount = batch.length) (read : readBlock c handle block = .ok batch)
      (more : Reads c handle (first + batch.length) blocks rest) :
      Reads c handle first (block :: blocks) (batch ++ rest)

/-! ### Slices -/

section Slice

variable {start stop first : Nat}

theorem slice_append (start stop first : Nat) (lines more : List Line) :
    slice start stop first (lines ++ more) =
      slice start stop first lines ++ slice start stop (first + lines.length) more := by
  simp [slice, zipIdx_append]

/-- Two ranges that agree on the indices of the lines give the same slice. -/
theorem slice_congr {start' stop' : Nat} {lines : List Line}
    (agree : ∀ index, first ≤ index → index < first + lines.length →
      (start ≤ index ∧ index < stop ↔ start' ≤ index ∧ index < stop')) :
    slice start stop first lines = slice start' stop' first lines := by
  unfold slice
  congr 1
  refine filter_congr fun line mem => ?_
  obtain ⟨low, high, -⟩ := mem_zipIdx mem
  exact decide_eq_decide.mpr (agree line.2 low high)

theorem slice_eq_nil {lines : List Line}
    (outside : ∀ index, first ≤ index → index < first + lines.length →
      ¬(start ≤ index ∧ index < stop)) : slice start stop first lines = [] := by
  unfold slice
  rw [map_eq_nil_iff, filter_eq_nil_iff]
  intro line mem
  obtain ⟨low, high, -⟩ := mem_zipIdx mem
  simpa using outside line.2 low high

/-- Consecutive lines with their indices. -/
def indexed (first : Nat) (lines : List Line) : List (Nat × Line) :=
  (lines.zipIdx first).map fun line => (line.2, line.1)

theorem indexed_map_snd (first : Nat) (lines : List Line) :
    (indexed first lines).map (·.2) = lines := by
  unfold indexed
  rw [map_map]
  exact zipIdx_map_fst first lines

/-- A range that covers the lines gives all of them. -/
theorem slice_eq_indexed {lines : List Line} (low : start ≤ first)
    (high : first + lines.length ≤ stop) : slice start stop first lines = indexed first lines := by
  have all : (lines.zipIdx first).filter (fun line => start ≤ line.2 ∧ line.2 < stop) =
      lines.zipIdx first := by
    rw [filter_eq_self]
    intro line mem
    obtain ⟨above, below, -⟩ := mem_zipIdx mem
    simp only [decide_eq_true_eq]
    omega
  unfold slice
  rw [all, indexed]

theorem slice_all {lines : List Line} (low : start ≤ first) (high : first + lines.length ≤ stop) :
    (slice start stop first lines).map (·.2) = lines := by
  rw [slice_eq_indexed low high, indexed_map_snd]

end Slice

/-! ### Visits -/

section Visit

variable {σ : Type} (visit : σ → Nat → Line → σ × Bool)

theorem visitSlice_append (lines more : List (Nat × Line)) (s : σ) :
    visitSlice visit (lines ++ more) s =
      match visitSlice visit lines s with
      | (s, true) => visitSlice visit more s
      | (s, false) => (s, false) := by
  induction lines generalizing s with
  | nil => rfl
  | cons line lines ih =>
    simp only [cons_append, visitSlice]
    rcases visit s line.1 line.2 with ⟨s', _ | _⟩
    · rfl
    · exact ih s'

theorem visitBlocks_append (start stop : Nat) (reverse : Bool) (blocks more : List CompressedBlock)
    (s : σ) : visitBlocks c handle start stop reverse visit (blocks ++ more) s =
      match visitBlocks c handle start stop reverse visit blocks s with
      | .ok (s, true) => visitBlocks c handle start stop reverse visit more s
      | .ok (s, false) => .ok (s, false)
      | .error message => .error message := by
  induction blocks generalizing s with
  | nil => rfl
  | cons block blocks ih =>
    rw [cons_append, visitBlocks, visitBlocks]
    rcases readBlock c handle block with message | lines
    · rfl
    simp only [bind, Except.bind]
    rcases visitSlice visit (if reverse then (slice start stop block.firstLine lines).reverse
      else slice start stop block.firstLine lines) s with ⟨s', _ | _⟩
    · rfl
    · exact ih s'

variable {visit} {first : Nat} {blocks : List CompressedBlock} {lines : List Line}

section

variable (reads : Reads c handle first blocks lines) (start stop : Nat) (s : σ)

include reads

/-- Over blocks that hold lines the visitor sees the slice of these lines. -/
theorem Reads.visitBlocks_forward : visitBlocks c handle start stop false visit blocks s =
      .ok (visitSlice visit (slice start stop first lines) s) := by
  induction reads generalizing s with
  | nil => rfl
  | @cons first block blocks batch rest firstLine _ read _ ih =>
    subst firstLine
    rw [visitBlocks, read, slice_append, visitSlice_append]
    simp only [bind, Except.bind, Bool.false_eq_true, if_false]
    rcases visitSlice visit (slice start stop block.firstLine batch) s with ⟨s', _ | _⟩
    · rfl
    · exact ih s'

theorem Reads.visitBlocks_reverse : visitBlocks c handle start stop true visit blocks.reverse s =
      .ok (visitSlice visit (slice start stop first lines).reverse s) := by
  induction reads with
  | nil => rfl
  | @cons first block blocks batch rest firstLine _ read _ ih =>
    subst firstLine
    rw [reverse_cons, visitBlocks_append, ih, slice_append, reverse_append,
      visitSlice_append]
    generalize visitSlice visit (slice start stop (block.firstLine + batch.length) rest).reverse s =
      before
    rcases before with ⟨s', _ | _⟩
    · rfl
    simp only [visitBlocks, read, bind, Except.bind, if_true]
    rcases visitSlice visit (slice start stop block.firstLine batch).reverse s' with ⟨_, _ | _⟩
    · rfl
    · rfl

end

end Visit

/-! ### The blocks of a range -/

section Range

variable {first : Nat} {blocks : List CompressedBlock} {lines : List Line}

section

variable (reads : Reads c handle first blocks lines)
include reads

theorem Reads.concat {batch : List Line} {block : CompressedBlock}
    (firstLine : block.firstLine = first + lines.length)
    (lineCount : block.lineCount = batch.length) (read : readBlock c handle block = .ok batch) :
    Reads c handle first (blocks ++ [block]) (lines ++ batch) := by
  induction reads with
  | nil =>
    have last : Reads c handle _ [block] (batch ++ []) := .cons firstLine lineCount read .nil
    rwa [append_nil] at last
  | cons firstLine' lineCount' read' _ ih =>
    rw [length_append, ← Nat.add_assoc] at firstLine
    rw [List.append_assoc]
    exact .cons firstLine' lineCount' read' (ih firstLine)

/-- The blocks before the first one that starts after the range hold the whole range. -/
theorem Reads.takeWhile (start stop : Nat) :
    ∃ lines', Reads c handle first (blocks.takeWhile fun block => block.firstLine < stop) lines' ∧
      slice start stop first lines' = slice start stop first lines := by
  induction reads with
  | nil => exact ⟨[], .nil, rfl⟩
  | @cons first block blocks batch rest firstLine lineCount read _ ih =>
    rw [takeWhile_cons]
    split
    · obtain ⟨rest', reads', same⟩ := ih
      exact ⟨batch ++ rest', .cons firstLine lineCount read reads', by
        rw [slice_append, slice_append, same]⟩
    · next beyond =>
      refine ⟨[], .nil, (slice_eq_nil fun index low _ inside => ?_).symm⟩
      simp only [decide_eq_true_eq] at beyond
      omega

/-- The blocks that `VisitLines` selects hold the whole range. -/
theorem Reads.selected (start stop : Nat) :
    ∃ first' lines', Reads c handle first'
      ((blocks.dropWhile fun block => block.firstLine + block.lineCount ≤ start).takeWhile
        fun block => block.firstLine < stop) lines' ∧
      slice start stop first' lines' = slice start stop first lines := by
  induction reads with
  | nil => exact ⟨0, [], .nil, rfl⟩
  | @cons first block blocks batch rest firstLine lineCount read more ih =>
    rw [dropWhile_cons]
    split
    · next before =>
      have none : slice start stop first batch = [] := by
        refine slice_eq_nil fun index _ high inside => ?_
        simp only [decide_eq_true_eq] at before
        omega
      obtain ⟨first', lines', reads', same⟩ := ih
      exact ⟨first', lines', reads', by rw [same, slice_append, none, nil_append]⟩
    · obtain ⟨lines', reads', same⟩ :=
        Reads.takeWhile (.cons firstLine lineCount read more) start stop
      exact ⟨first, lines', reads', same⟩

end

end Range

section Lines

variable {f : CompressedLineFile} {lines : List Line} (reads : Reads c f.file 0 f.blocks lines)
include reads

/-- The visitor sees the slice of the written lines in the selected blocks. -/
theorem Reads.visitBlocks_blocksIn (start stop : Nat) (reverse : Bool) {σ : Type}
    (visit : σ → Nat → Line → σ × Bool) (s : σ) :
    visitBlocks c f.file start stop reverse visit (f.blocksIn start stop reverse) s =
      .ok (visitSlice visit (if reverse then (slice start stop 0 lines).reverse
        else slice start stop 0 lines) s) := by
  obtain ⟨first, lines', reads', same⟩ := reads.selected start stop
  rw [← same]
  cases reverse with
  | false => exact reads'.visitBlocks_forward start stop s
  | true => exact reads'.visitBlocks_reverse start stop s

/-- `VisitLines` over an index that reads as `lines`: the visitor sees the range of `lines` followed
by the pending lines. -/
theorem Reads.visitLines (opened : f.file ≠ .nil) (count : f.persistedLines = lines.length)
    (start stop : Nat) (reverse : Bool) {σ : Type} (visit : σ → Nat → Line → σ × Bool) (s : σ) :
    f.visitLines c start stop reverse visit s = .ok (visitSlice visit
      (if reverse then (slice start stop 0 (lines ++ f.pending)).reverse
       else slice start stop 0 (lines ++ f.pending)) s).1 := by
  have clamped : slice start stop 0 (lines ++ f.pending) =
      slice (min start f.lineCount) (max (min start f.lineCount) (min stop f.lineCount)) 0
        (lines ++ f.pending) := by
    refine slice_congr fun index _ high => ?_
    rw [length_append, ← count, Nat.zero_add] at high
    change index < f.lineCount at high
    omega
  unfold CompressedLineFile.visitLines
  dsimp only
  rw [if_neg opened, clamped]
  generalize min start f.lineCount = start
  generalize max start (min stop f.lineCount) = stop
  have written : slice start (min stop f.persistedLines) 0 lines = slice start stop 0 lines := by
    refine slice_congr fun index _ high => ?_
    omega
  have none_written (none : ¬start < min stop f.persistedLines) : slice start stop 0 lines = [] := by
    rw [← written]
    exact slice_eq_nil fun index _ _ inside => none (inside.1.trans_lt inside.2)
  rw [slice_append, Nat.zero_add, ← count]
  cases reverse with
  | false =>
    simp only [Bool.false_eq_true, if_false]
    rw [visitSlice_append]
    split
    · rw [reads.visitBlocks_blocksIn, if_neg Bool.false_ne_true, written]
      rcases visitSlice visit (slice start stop 0 lines) s with ⟨s', _ | _⟩
      · rfl
      · rfl
    · next none =>
      rw [none_written none]
      rfl
  | true =>
    simp only [if_true]
    rw [reverse_append, visitSlice_append]
    rcases visitSlice visit (slice start stop f.persistedLines f.pending).reverse s with ⟨s', _ | _⟩
    · rfl
    dsimp only
    split
    · rw [reads.visitBlocks_blocksIn, written]
      rfl
    · next none =>
      rw [none_written none]
      rfl

omit reads in
theorem visitSlice_collect (lines : List (Nat × Line)) (found : List Line) :
    visitSlice (fun found _ line => (found ++ [line], true)) lines found =
      (found ++ lines.map (·.2), true) := by
  induction lines generalizing found with
  | nil => simp [visitSlice]
  | cons line lines ih => simp [visitSlice, ih]

theorem Reads.lines_eq (opened : f.file ≠ .nil) (count : f.persistedLines = lines.length)
    (start stop : Nat) :
    f.lines c start stop = .ok ((slice start stop 0 (lines ++ f.pending)).map (·.2)) := by
  rw [CompressedLineFile.lines, reads.visitLines opened count, if_neg Bool.false_ne_true,
    visitSlice_collect, nil_append]

end Lines

end CompressedLineFile

end Anytty.LineHist
