import Mathlib

/-!
# The framebuffer

A frame is a grid of cells. `BlitLine` draws the grapheme clusters of a text, `BlitFrame` copies
the cells of another frame. A wide cluster takes a second cell, the continuation; drawing over one
of the two cells clears the other.

Both are sequences of marks, one for each cluster or blank cell that is drawn (`blitLine_eq`,
`blitFrame_eq`). On a frame that starts blank each cell is that of the last mark over it, and blank
if another cell of that mark was drawn over later (`draw_cells`).
-/

namespace Anytty.Render

open List

/-- One grapheme cluster, or the second cell of a wide one. -/
structure Cell where
  text : String
  width : Nat
  continuation : Bool
  style : String
  deriving DecidableEq

def Cell.blank : Cell := ⟨"", 0, false, ""⟩

/-- The grid by column and row, blank outside, and the cursor. -/
structure Frame where
  cols : Nat
  rows : Nat
  cells : Nat → Nat → Cell
  cursorX : Nat
  cursorY : Nat
  cursorVisible : Bool
  cursorShape : String

def newFrame (cols rows : Int) : Frame :=
  ⟨cols.toNat, rows.toNat, fun _ _ => .blank, 0, 0, false, ""⟩

structure Line where
  x : Int
  y : Int
  text : String
  style : String
  deriving DecidableEq

/-- The grapheme clusters of a text with their widths, after `uniseg`. -/
structure Graphemes where
  split : String → List (String × Nat)

namespace Frame

def set (f : Frame) (x y : Nat) (cell : Cell) : Frame :=
  { f with cells := fun i j => if i = x ∧ j = y then cell else f.cells i j }

/-- Empty a cell and the other cell of a wide cluster. -/
def clearAt (f : Frame) (x y : Nat) : Frame :=
  let cell := f.cells x y
  let f := if cell.continuation && decide (0 < x) then f.set (x - 1) y .blank else f
  let f := if 1 < cell.width && decide (x + 1 < f.cols) then f.set (x + 1) y .blank else f
  f.set x y .blank

def put (f : Frame) (x y : Nat) (cell : Cell) : Frame :=
  if 1 < cell.width then
    (((f.clearAt x y).clearAt (x + 1) y).set x y cell).set (x + 1) y ⟨"", 0, true, cell.style⟩
  else (f.clearAt x y).set x y cell

/-- A zero-width cluster is added to the cluster before it. -/
def glue (f : Frame) (lastHead : Option Nat) (y : Nat) (text : String) : Frame :=
  match lastHead with
  | none => f
  | some x => f.set x y { f.cells x y with text := (f.cells x y).text ++ text }

/-- The loop of `BlitLine` over the clusters. -/
def blitClusters (y : Nat) (style : String) :
    Frame → Int → Option Nat → List (String × Nat) → Frame
  | f, _, _, [] => f
  | f, x, lastHead, (text, width) :: rest =>
    if width = 0 then blitClusters y style (f.glue lastHead y text) x lastHead rest
    else if f.cols ≤ x then f
    else if x < 0 then blitClusters y style f (x + width) none rest
    else if f.cols < x + width then f
    else blitClusters y style (f.put x.toNat y ⟨text, width, false, style⟩) (x + width)
      (some x.toNat) rest

def blitASCII (y : Nat) (style : String) : Frame → Int → List Char → Frame
  | f, _, [] => f
  | f, x, c :: rest =>
    if f.cols ≤ x then f
    else if x < 0 then blitASCII y style f (x + 1) rest
    else blitASCII y style (f.put x.toNat y ⟨String.singleton c, 1, false, style⟩) (x + 1) rest

end Frame

/-- Control characters become spaces. -/
def visibleText (s : String) : String :=
  String.ofList (s.toList.map fun c =>
    if c.toNat < 0x20 || (0x7F ≤ c.toNat && c.toNat < 0xA0) then ' ' else c)

def simpleASCII (s : String) : Bool := s.toList.all fun c => 0x20 ≤ c.toNat && c.toNat < 0x7F

namespace Frame

variable (graphemes : Graphemes)

def blitLine (f : Frame) (line : Line) : Frame :=
  if line.y < 0 ∨ f.rows ≤ line.y then f
  else
    let text := visibleText line.text
    if simpleASCII text then f.blitASCII line.y.toNat line.style line.x text.toList
    else f.blitClusters line.y.toNat line.style line.x none (graphemes.split text)

def blit (f : Frame) (lines : List Line) : Frame := lines.foldl (blitLine graphemes) f

/-- The columns of one row of `BlitFrame`. -/
def blitRow (src : Frame) (x : Int) (sy dy : Nat) : Frame → List Nat → Frame
  | f, [] => f
  | f, sx :: rest =>
    let cell := src.cells sx sy
    if cell.continuation then blitRow src x sy dy f rest
    else if f.cols ≤ x + sx then f
    else if x + sx < 0 then
      -- the visible half of a wide cluster is blanked
      if 1 < cell.width ∧ 0 ≤ x + sx + 1 ∧ x + sx + 1 < f.cols then
        blitRow src x sy dy (f.clearAt (x + sx + 1).toNat dy) rest
      else blitRow src x sy dy f rest
    else if cell.text = "" ∧ cell.style = "" then
      blitRow src x sy dy (f.clearAt (x + sx).toNat dy) rest
    else if 1 < cell.width then
      if f.cols ≤ x + sx + 1 then blitRow src x sy dy (f.clearAt (x + sx).toNat dy) rest
      else blitRow src x sy dy
        (f.put (x + sx).toNat dy ⟨cell.text, cell.width, false, cell.style⟩) rest
    else blitRow src x sy dy (f.put (x + sx).toNat dy ⟨cell.text, 1, false, cell.style⟩) rest

def blitFrame (f src : Frame) (x y : Int) : Frame :=
  (List.range src.rows).foldl (fun f (sy : Nat) =>
    if y + sy < 0 ∨ f.rows ≤ y + sy then f
    else blitRow src x sy (y + sy).toNat f (List.range src.cols)) f

def setCursor (f : Frame) (x y : Int) : Frame :=
  if f.cols = 0 ∨ f.rows = 0 then { f with cursorVisible := false }
  else { f with
    cursorX := (min (max x 0) (f.cols - 1)).toNat
    cursorY := (min (max y 0) (f.rows - 1)).toNat
    cursorVisible := true }

def setCursorShape (f : Frame) (shape : String) : Frame :=
  if shape ∈ ["block", "underline", "bar", ""] then { f with cursorShape := shape } else f

end Frame

theorem Frame.setCursor_cells (f : Frame) (x y : Int) : (f.setCursor x y).cells = f.cells := by
  rw [setCursor]
  split <;> rfl

theorem Frame.setCursorShape_cells (f : Frame) (shape : String) :
    (f.setCursorShape shape).cells = f.cells := by
  rw [setCursorShape]
  split <;> rfl

/-! ### Marks -/

/-- A cluster or a blank cell at a place. -/
structure Mark where
  x : Nat
  y : Nat
  cell : Cell

namespace Mark

def covers (m : Mark) (x y : Nat) : Bool :=
  m.y = y && (m.x = x || (1 < m.cell.width && m.x + 1 = x))

/-- A cell of the mark `m` is drawn over. -/
def overlaps (l m : Mark) : Bool :=
  l.covers m.x m.y || (1 < m.cell.width && l.covers (m.x + 1) m.y)

def cellAt (m : Mark) (x : Nat) : Cell :=
  if m.x = x then m.cell else ⟨"", 0, true, m.cell.style⟩

end Mark

/-- The cell of the last mark over the place, blank if that mark was cut by a later one. -/
def topmost : List Mark → Nat → Nat → Cell
  | [], _, _ => .blank
  | m :: later, x, y =>
    if later.any (·.covers x y) then topmost later x y
    else if m.covers x y && !later.any (·.overlaps m) then m.cellAt x
    else .blank

def Frame.draw (f : Frame) (m : Mark) : Frame := f.put m.x m.y m.cell

/-- The first cell of a mark is no continuation, and the mark lies within the columns. -/
def Mark.Fits (cols : Nat) (m : Mark) : Prop :=
  m.cell.continuation = false ∧ (1 < m.cell.width → m.x + 1 < cols)

/-- The cell is half of a wide cluster and the mark covers the other half. -/
def Mark.cuts (m : Mark) (cell : Cell) (x y : Nat) : Bool :=
  (cell.continuation && m.covers (x - 1) y) || (1 < cell.width && m.covers (x + 1) y)

variable {m : Mark} {x y : Nat} {f : Frame}

open Mark

theorem cuts_cellAt {n : Mark} (head : n.cell.continuation = false)
    (shown : n.covers x y = true) (free : m.covers x y = false) :
    m.cuts (n.cellAt x) x y = m.overlaps n := by
  simp only [covers, Bool.and_eq_true, Bool.or_eq_true, decide_eq_true_eq] at shown
  obtain ⟨rfl, rfl | ⟨wide, rfl⟩⟩ := shown
  · simp [cuts, cellAt, overlaps, head, free]
  · simp [cuts, cellAt, overlaps, wide, free]

/-- Drawn last, a mark is on top; it leaves no half of a wide cluster. -/
theorem topmost_concat {marks : List Mark} (heads : ∀ m ∈ marks, m.cell.continuation = false)
    (m : Mark) (x y : Nat) :
    topmost (marks ++ [m]) x y =
      if m.covers x y then m.cellAt x
      else if m.cuts (topmost marks x y) x y then .blank else topmost marks x y := by
  induction marks with
  | nil => simp [topmost, cuts, Cell.blank]
  | cons n marks ih =>
    have head := heads n mem_cons_self
    rw [cons_append, topmost, topmost, ih fun k mem => heads k (mem_cons_of_mem n mem)]
    cases here : m.covers x y with
    | true => simp [here]
    | false =>
      cases later : marks.any (·.covers x y) with
      | true => simp [here, later]
      | false =>
        simp only [any_append, any_cons, any_nil, here, later, Bool.or_false,
          Bool.false_eq_true, if_false]
        -- `n` is on top, and `m` cuts it if it covers its other cell
        cases shown : n.covers x y with
        | false => simp [cuts, Cell.blank]
        | true =>
          cases marks.any (·.overlaps n) with
          | true => simp [cuts, Cell.blank]
          | false =>
            simp only [Bool.true_and, Bool.false_or, Bool.not_false, if_true,
              cuts_cellAt head shown here]
            cases m.overlaps n <;> rfl

/-- The two cells of a wide cluster stand together. -/
structure Frame.Paired (f : Frame) : Prop where
  continuation : ∀ x y, (f.cells x y).continuation = true →
    ∃ w, x = w + 1 ∧ 1 < (f.cells w y).width
  wide : ∀ x y, 1 < (f.cells x y).width →
    x + 1 < f.cols ∧ (f.cells x y).continuation = false ∧
      (f.cells (x + 1) y).continuation = true ∧ (f.cells (x + 1) y).width = 0

theorem Frame.Paired.clearAt (paired : f.Paired) (x y i j : Nat) :
    (f.clearAt x y).cells i j =
      if j = y ∧ (i = x ∨ (i = x + 1 ∧ (f.cells i j).continuation = true) ∨
        (i + 1 = x ∧ 1 < (f.cells i j).width)) then .blank else f.cells i j := by
  have left := paired.continuation x y
  have right := paired.wide x y
  have left' := paired.continuation i j
  have right' := paired.wide i j
  simp only [Frame.clearAt, Frame.set]
  grind

theorem Frame.clearAt_cols (f : Frame) (x y : Nat) : (f.clearAt x y).cols = f.cols := by
  simp only [clearAt, set]
  grind

theorem Frame.clearAt_rows (f : Frame) (x y : Nat) : (f.clearAt x y).rows = f.rows := by
  simp only [clearAt, set]
  grind

theorem Frame.Paired.cleared (paired : f.Paired) (x y : Nat) : (f.clearAt x y).Paired where
  continuation i j on := by
    rw [paired.clearAt x y i j] at on
    split at on
    · cases on
    next free =>
    obtain ⟨w, rfl, wide⟩ := paired.continuation i j on
    have pair := paired.wide w j wide
    refine ⟨w, rfl, ?_⟩
    rw [paired.clearAt x y w j, if_neg (by grind)]
    exact wide
  wide i j on := by
    rw [paired.clearAt x y i j] at on ⊢
    split at on
    · exact absurd on (by decide)
    next free =>
    have pair := paired.wide i j on
    rw [if_neg free, f.clearAt_cols x y, paired.clearAt x y (i + 1) j, if_neg (by grind)]
    exact pair

open Render.Frame

theorem Frame.Paired.draw_cells (paired : f.Paired) (m : Mark) (x y : Nat) :
    (f.draw m).cells x y =
      if m.covers x y then m.cellAt x
      else if m.cuts (f.cells x y) x y then .blank else f.cells x y := by
  have left := paired.continuation x y
  by_cases wide : 1 < m.cell.width
  · simp only [draw, put, wide, if_true, set,
      (paired.cleared m.x m.y).clearAt, paired.clearAt]
    simp only [covers, cuts, cellAt, wide]
    grind
  · simp only [draw, put, wide, if_false, set, paired.clearAt]
    simp only [covers, cuts, cellAt, wide]
    grind

theorem Frame.draw_cols (f : Frame) (m : Mark) : (f.draw m).cols = f.cols := by
  simp only [draw, put, set]
  split <;> simp only [clearAt_cols]

theorem Frame.draw_rows (f : Frame) (m : Mark) : (f.draw m).rows = f.rows := by
  simp only [draw, put, set]
  split <;> simp only [clearAt_rows]

theorem Frame.draws_size (f : Frame) (marks : List Mark) :
    (marks.foldl draw f).cols = f.cols ∧ (marks.foldl draw f).rows = f.rows := by
  induction marks generalizing f with
  | nil => exact ⟨rfl, rfl⟩
  | cons m marks ih => exact ⟨(ih _).1.trans (f.draw_cols m), (ih _).2.trans (f.draw_rows m)⟩

theorem Mark.covers_iff :
    m.covers x y = true ↔ m.y = y ∧ (m.x = x ∨ 1 < m.cell.width ∧ m.x + 1 = x) := by
  simp [covers]

theorem Frame.Paired.draw (paired : f.Paired) (fits : m.Fits f.cols) : (f.draw m).Paired where
  continuation i j on := by
    rw [paired.draw_cells] at on
    split at on
    · next covered =>
      obtain ⟨row, rfl | ⟨wide, rfl⟩⟩ := covers_iff.mp covered
      · simp [cellAt, fits.1] at on
      refine ⟨m.x, rfl, ?_⟩
      rw [paired.draw_cells, if_pos (covers_iff.mpr ⟨row, .inl rfl⟩)]
      simpa [cellAt] using wide
    · next free =>
      split at on
      · cases on
      next uncut =>
      obtain ⟨w, rfl, wide⟩ := paired.continuation i j on
      obtain ⟨-, head, -, -⟩ := paired.wide w j wide
      simp only [cuts, on, Nat.add_sub_cancel, Bool.true_and, Bool.or_eq_true, not_or]
        at uncut
      refine ⟨w, rfl, ?_⟩
      rw [paired.draw_cells, if_neg uncut.1, if_neg (by simp [cuts, head, free])]
      exact wide
  wide i j on := by
    rw [paired.draw_cells] at on
    rw [f.draw_cols m]
    split at on
    · next covered =>
      obtain ⟨row, rfl | ⟨-, rfl⟩⟩ := covers_iff.mp covered
      · have wide : 1 < m.cell.width := by simpa [cellAt] using on
        rw [paired.draw_cells, paired.draw_cells, if_pos covered,
          if_pos (covers_iff.mpr ⟨row, .inr ⟨wide, rfl⟩⟩)]
        simpa [cellAt, fits.1] using fits.2 wide
      · simp [cellAt] at on
    · next free =>
      split at on
      · exact absurd on (by decide)
      next uncut =>
      obtain ⟨inside, head, second, narrow⟩ := paired.wide i j on
      have free' : ¬ m.covers (i + 1) j = true := by
        simp only [cuts, on, decide_true, Bool.true_and, Bool.or_eq_true, not_or] at uncut
        exact uncut.2
      rw [paired.draw_cells, paired.draw_cells, if_neg free, if_neg uncut, if_neg free',
        if_neg (by simp [cuts, second, narrow, free])]
      exact ⟨inside, head, second, narrow⟩

theorem newFrame_paired (cols rows : Int) : (newFrame cols rows).Paired where
  continuation _ _ on := nomatch on
  wide _ _ on := absurd on (by simp [newFrame, Cell.blank])

/-- On a blank frame each cell is that of the mark on top of it. -/
theorem draw_cells {cols rows : Int} {marks : List Mark}
    (fits : ∀ m ∈ marks, m.Fits cols.toNat) :
    (marks.foldl draw (newFrame cols rows)).Paired ∧
      (marks.foldl draw (newFrame cols rows)).cells = topmost marks := by
  -- the marks are added at the end, where they are drawn
  induction marks using List.reverseRecOn with
  | nil => exact ⟨newFrame_paired cols rows, rfl⟩
  | append_singleton marks m ih =>
    obtain ⟨paired, cells⟩ := ih fun k mem => fits k (mem_append_left _ mem)
    have last : m.Fits (marks.foldl draw (newFrame cols rows)).cols := by
      rw [(draws_size _ marks).1]
      exact fits m (by simp)
    rw [foldl_append, foldl_cons, foldl_nil]
    refine ⟨paired.draw last, ?_⟩
    funext x y
    rw [paired.draw_cells, cells,
      topmost_concat fun k mem => (fits k (mem_append_left _ mem)).1]

/-! ### Lines and frames are marks -/

/-- The zero-width clusters at the head, which belong to the cluster before them. -/
def glued : List (String × Nat) → String
  | (text, 0) :: rest => text ++ glued rest
  | _ => ""

/-- The marks of the clusters from column `x` on. -/
def clusterMarks (cols y : Nat) (style : String) : Int → List (String × Nat) → List Mark
  | _, [] => []
  | x, (text, width) :: rest =>
    if width = 0 then clusterMarks cols y style x rest
    else if cols ≤ x then []
    else if x < 0 then clusterMarks cols y style (x + width) rest
    else if cols < x + width then []
    else ⟨x.toNat, y, ⟨text ++ glued rest, width, false, style⟩⟩ ::
      clusterMarks cols y style (x + width) rest

theorem Frame.glue_empty (f : Frame) (lastHead : Option Nat) (y : Nat) :
    f.glue lastHead y "" = f := by
  cases lastHead with
  | none => rfl
  | some x =>
    simp only [glue, set, String.append_empty]
    congr
    funext i j
    split
    · next same => rw [same.1, same.2]
    · rfl

theorem Frame.glue_glue (f : Frame) (lastHead : Option Nat) (y : Nat) (s t : String) :
    (f.glue lastHead y s).glue lastHead y t = f.glue lastHead y (s ++ t) := by
  cases lastHead with
  | none => rfl
  | some x =>
    simp only [glue, set, and_self, if_true, String.append_assoc]
    congr
    funext i j
    split <;> rfl

theorem Frame.put_glue (f : Frame) (x y width : Nat) (text more style : String) :
    (f.put x y ⟨text, width, false, style⟩).glue (some x) y more =
      f.put x y ⟨text ++ more, width, false, style⟩ := by
  simp only [glue, put]
  split
  · simp only [set, Nat.left_eq_add, one_ne_zero, false_and, if_false,
      and_self, if_true]
    congr
    funext i j
    grind
  · simp only [set, and_self, if_true]
    congr
    funext i j
    grind

theorem Frame.glue_cols (f : Frame) (lastHead : Option Nat) (y : Nat) (text : String) :
    (f.glue lastHead y text).cols = f.cols := by
  cases lastHead <;> rfl

theorem blitClusters_eq (y : Nat) (style : String) (f : Frame) (x : Int) (lastHead : Option Nat)
    (clusters : List (String × Nat)) :
    f.blitClusters y style x lastHead clusters =
      (clusterMarks f.cols y style x clusters).foldl draw
        (f.glue lastHead y (glued clusters)) := by
  induction clusters generalizing f x lastHead with
  | nil => exact (f.glue_empty lastHead y).symm
  | cons cluster rest ih =>
    obtain ⟨text, width⟩ := cluster
    rw [blitClusters, clusterMarks]
    split
    · next zero =>
      subst zero
      rw [ih, glue_cols, glue_glue, glued]
    · next visible =>
      have none_glued : glued ((text, width) :: rest) = "" := by
        cases width with
        | zero => exact absurd rfl visible
        | succ n => rfl
      rw [none_glued, glue_empty]
      split
      · rfl
      split
      · rw [ih]; rfl
      split
      · rfl
      rw [ih, put_glue]
      exact congrArg (fun cols => (clusterMarks cols y style _ rest).foldl draw _)
        (draw_cols f ⟨x.toNat, y, _⟩)

theorem blitASCII_eq (y : Nat) (style : String) (f : Frame) (x : Int) (lastHead : Option Nat)
    (cs : List Char) :
    f.blitASCII y style x cs =
      f.blitClusters y style x lastHead (cs.map fun c => (String.singleton c, 1)) := by
  induction cs generalizing f x lastHead with
  | nil => rfl
  | cons c cs ih =>
    rw [map_cons, blitASCII, blitClusters, if_neg one_ne_zero]
    split
    · rfl
    split
    · exact ih f (x + 1) none
    rw [if_neg (by omega)]
    exact ih _ (x + 1) (some x.toNat)

variable (graphemes : Graphemes)

def Line.clusters (line : Line) : List (String × Nat) :=
  let text := visibleText line.text
  if simpleASCII text then text.toList.map fun c => (String.singleton c, 1)
  else graphemes.split text

def Line.marks (cols rows : Nat) (line : Line) : List Mark :=
  if line.y < 0 ∨ rows ≤ line.y then []
  else clusterMarks cols line.y.toNat line.style line.x (line.clusters graphemes)

theorem blitLine_eq (f : Frame) (line : Line) :
    f.blitLine graphemes line = (line.marks graphemes f.cols f.rows).foldl draw f := by
  rw [blitLine, Line.marks]
  split
  · rfl
  dsimp only [Line.clusters]
  split
  · rw [blitASCII_eq _ _ _ _ none, blitClusters_eq]; rfl
  · rw [blitClusters_eq]; rfl

theorem blit_eq (f : Frame) (lines : List Line) :
    f.blit graphemes lines =
      (lines.flatMap (·.marks graphemes f.cols f.rows)).foldl draw f := by
  rw [blit]
  induction lines generalizing f with
  | nil => rfl
  | cons line lines ih =>
    rw [foldl_cons, ih, flatMap_cons, foldl_append, blitLine_eq,
      (draws_size f _).1, (draws_size f _).2]

/-- A cleared cell is a blank mark. -/
theorem clearAt_eq (f : Frame) (x y : Nat) : f.clearAt x y = f.draw ⟨x, y, .blank⟩ := by
  simp only [Frame.draw, Frame.put, Cell.blank, Nat.not_lt_zero, if_false]
  rw [Frame.clearAt]
  simp only [Frame.set, Cell.blank]
  congr
  funext i j
  split <;> rfl

/-- The mark of a source cell at its column in the destination, if it is drawn. -/
def cellMark (cols : Nat) (cell : Cell) (dx : Int) (dy : Nat) : Option Mark :=
  if cell.continuation then none
  else if dx < 0 then
    if 1 < cell.width ∧ 0 ≤ dx + 1 ∧ dx + 1 < cols then some ⟨(dx + 1).toNat, dy, .blank⟩
    else none
  else if cell.text = "" ∧ cell.style = "" then some ⟨dx.toNat, dy, .blank⟩
  else if 1 < cell.width then
    if cols ≤ dx + 1 then some ⟨dx.toNat, dy, .blank⟩
    else some ⟨dx.toNat, dy, ⟨cell.text, cell.width, false, cell.style⟩⟩
  else some ⟨dx.toNat, dy, ⟨cell.text, 1, false, cell.style⟩⟩

/-- The marks of the columns up to the right edge. -/
def rowMarks (cols : Nat) (src : Frame) (x : Int) (sy dy : Nat) : List Nat → List Mark
  | [] => []
  | sx :: rest =>
    if (src.cells sx sy).continuation = false ∧ cols ≤ x + sx then []
    else (cellMark cols (src.cells sx sy) (x + sx) dy).toList ++ rowMarks cols src x sy dy rest

theorem blitRow_eq (src : Frame) (x : Int) (sy dy : Nat) (f : Frame) (columns : List Nat) :
    blitRow src x sy dy f columns =
      (rowMarks f.cols src x sy dy columns).foldl draw f := by
  induction columns generalizing f with
  | nil => rfl
  | cons sx rest ih =>
    have drawn (m : Mark) : blitRow src x sy dy (f.draw m) rest =
        (m :: rowMarks f.cols src x sy dy rest).foldl draw f := by
      rw [ih, f.draw_cols m, foldl_cons]
    have put (i : Nat) (cell : Cell) : f.put i dy cell = f.draw ⟨i, dy, cell⟩ := rfl
    rw [blitRow, rowMarks, cellMark]
    simp only [clearAt_eq, put, drawn, ih]
    split
    · next second => simp [second]
    next head =>
    split
    · next outside => simp [head, outside]
    next inside =>
    simp only [inside, and_false, if_false]
    split
    · split <;> rfl
    split
    · rfl
    split
    · split <;> rfl
    · rfl

/-- The marks of a frame drawn with its corner at the place. -/
def Frame.marks (cols rows : Nat) (src : Frame) (x y : Int) : List Mark :=
  (List.range src.rows).flatMap fun (sy : Nat) =>
    if y + sy < 0 ∨ rows ≤ y + sy then []
    else rowMarks cols src x sy (y + sy).toNat (List.range src.cols)

theorem blitFrame_eq (f src : Frame) (x y : Int) :
    f.blitFrame src x y = (src.marks f.cols f.rows x y).foldl draw f := by
  rw [blitFrame, marks]
  generalize List.range src.rows = rows
  induction rows generalizing f with
  | nil => rfl
  | cons sy rows ih =>
    rw [foldl_cons, ih, flatMap_cons, foldl_append]
    split
    · rfl
    · rw [blitRow_eq, (draws_size f _).1, (draws_size f _).2]

/-! ### The marks fit -/

theorem clusterMarks_fits (cols y : Nat) (style : String) (x : Int)
    (clusters : List (String × Nat)) :
    ∀ m ∈ clusterMarks cols y style x clusters, m.Fits cols := by
  induction clusters generalizing x with
  | nil => exact fun m mem => nomatch mem
  | cons cluster rest ih =>
    rw [clusterMarks]
    split
    · exact ih x
    split
    · exact fun m mem => nomatch mem
    split
    · exact ih _
    split
    · exact fun m mem => nomatch mem
    rintro m (_ | ⟨_, mem⟩)
    · exact ⟨rfl, fun wide => by dsimp only at wide ⊢; omega⟩
    · exact ih _ m mem

theorem Line.marks_fits (cols rows : Nat) (line : Line) :
    ∀ m ∈ line.marks graphemes cols rows, m.Fits cols := by
  rw [marks]
  split
  · exact fun m mem => nomatch mem
  · exact clusterMarks_fits cols _ _ _ _

theorem cellMark_fits {cols : Nat} {cell : Cell} {dx : Int} {dy : Nat} {m : Mark}
    (drawn : cellMark cols cell dx dy = some m) : m.Fits cols := by
  have blank (i : Nat) : Fits cols ⟨i, dy, .blank⟩ := ⟨rfl, fun wide => nomatch wide⟩
  rw [cellMark] at drawn
  repeat' split at drawn
  all_goals cases drawn
  all_goals first
    | exact blank _
    | exact ⟨rfl, fun wide => by dsimp only at wide ⊢; omega⟩

theorem Frame.marks_fits (cols rows : Nat) (src : Frame) (x y : Int) :
    ∀ m ∈ src.marks cols rows x y, m.Fits cols := by
  intro m mem
  rw [marks, mem_flatMap] at mem
  obtain ⟨sy, -, mem⟩ := mem
  split at mem
  · cases mem
  generalize List.range src.cols = columns at mem
  induction columns with
  | nil => cases mem
  | cons sx rest ih =>
    rw [rowMarks] at mem
    split at mem
    · cases mem
    rcases mem_append.mp mem with mem | mem
    · exact cellMark_fits (Option.mem_toList.mp mem)
    · exact ih mem

/-- After any `BlitLine` and `BlitFrame` calls on a new frame, whatever frames are drawn, every wide
cell has its continuation and every continuation its wide cell. -/
theorem blits_paired (cols rows : Int) (blits : List (Line ⊕ Frame × Int × Int)) :
    (blits.foldl (fun f => Sum.elim (f.blitLine graphemes) fun blit =>
      f.blitFrame blit.1 blit.2.1 blit.2.2) (newFrame cols rows)).Paired := by
  refine foldlRecOn blits _ (newFrame_paired cols rows) fun f paired blit _ => ?_
  have draws {marks : List Mark} (fits : ∀ m ∈ marks, m.Fits f.cols) :
      (marks.foldl draw f).Paired := by
    induction marks generalizing f with
    | nil => exact paired
    | cons m marks ih =>
      obtain ⟨first, rest⟩ := forall_mem_cons.mp fits
      exact ih _ (paired.draw first) (f.draw_cols m ▸ rest)
  cases blit with
  | inl line =>
    rw [Sum.elim_inl, blitLine_eq]
    exact draws (line.marks_fits graphemes _ _)
  | inr blit =>
    rw [Sum.elim_inr, blitFrame_eq]
    exact draws (blit.1.marks_fits _ _ _ _)

end Anytty.Render
