import Anytty.LineHist.Line

/-!
# The byte budget of a history row

A window of history stops at a number of bytes.  The cost of a row is counted over its cells, with
one charge for each stretch of cells that look the same.  The cost of a cold line is counted over
its runs, without its cells, and given up above the limit of a window.  For a window the two are
the same: it holds the rows that it would hold if every line were expanded first.
-/

namespace Anytty.LineHist

open List Wire

def maxHistoryWindowBytes : Nat := 60 <<< 10

/-- A grapheme cluster of a history row. -/
structure Cell where
  text : Bytes
  width : Int
  style : CellStyle
  linkURL : Bytes
  linkParams : Bytes

structure HistoryRow where
  cells : List Cell
  timestamp : Time
  lineID : Int
  wrapped : Bool

def historyCellsShareBudgetRun (left right : Cell) : Bool :=
  left.width = right.width && left.style = right.style && left.linkURL = right.linkURL &&
    left.linkParams = right.linkParams

/-- What a cell costs beside its text. -/
def Cell.charge (cell : Cell) (previous : Option Cell) : Nat :=
  if previous.any (historyCellsShareBudgetRun · cell) then 0
  else 24 + cell.style.fg.length + cell.style.bg.length + cell.linkURL.length +
    cell.linkParams.length

/-- The loop over the cells of a row. -/
def cellsBudget (previous : Option Cell) : List Cell → Nat
  | [] => 0
  | cell :: cells => cell.charge previous + cell.text.length + cellsBudget (some cell) cells

def historyRowBudgetBytes (row : HistoryRow) : Nat := 96 + cellsBudget none row.cells

def Run.cell (run : Run) (text : Bytes) (width : Int) : Cell :=
  ⟨text, width, run.style, run.linkURL, run.linkParams⟩

/-- The loop over the clusters of a run.  The error is the early return of the size. -/
def clustersBudget (run : Run) (size : Nat) (previous : Option Cell) :
    List (Bytes × Int) → Except Nat (Nat × Option Cell)
  | [] => .ok (size, previous)
  | (cluster, width) :: rest =>
    let cell := run.cell [] width
    let size := size + cell.charge previous + cluster.length
    if maxHistoryWindowBytes < size then .error size
    else clustersBudget run size (some cell) rest

-- `FirstGraphemeCluster`, with the width of the cluster.
variable (first : Bytes → Bytes × Int)

/-- The clusters that a loop over a text visits. -/
def clusters (text : Bytes) : List (Bytes × Int) :=
  if text = [] then []
  else
    let (cluster, width) := first text
    if cluster = [] then [] else (cluster, width) :: clusters (text.drop cluster.length)
termination_by text.length
decreasing_by
  have := length_pos_iff.2 ‹text ≠ []›
  have := length_pos_iff.2 ‹cluster ≠ []›
  rw [length_drop]
  omega

def cellsFromRuns (runs : List Run) : List Cell :=
  runs.flatMap fun run => (clusters first run.text).map fun (text, width) => run.cell text width

def historyRowFromColdLine (line : Line) (logicalIndex : Int) : HistoryRow :=
  ⟨cellsFromRuns first line.runs, line.updatedAt, logicalIndex + 1, !line.hardEnd⟩

def historyLineBudgetBytes (line : Line) : Nat :=
  match line.runs.foldlM (fun (size, previous) run =>
    clustersBudget run size previous (clusters first run.text)) (96, none) with
  | .ok (size, _) => size
  | .error size => size

/-- The visit of the cold lines of a window, in either direction: `reserve` the cost of each line
and stop at the first that does not fit.  Returned are the rows, the bytes used and `stopped`. -/
def visitColdLines (cost : Line → Int → Nat) (used : Nat) :
    List (Line × Int) → List HistoryRow × Nat × Bool
  | [] => ([], used, false)
  | (line, index) :: lines =>
    if maxHistoryWindowBytes < used + cost line index then ([], used, true)
    else
      let (rows, rest) := visitColdLines cost (used + cost line index) lines
      (historyRowFromColdLine first line index :: rows, rest)

/-- The same budget, or two that are above the limit of a window. -/
def SameBudget (line row : Nat) : Prop :=
  line = row ∨ maxHistoryWindowBytes < line ∧ maxHistoryWindowBytes < row

/-- A count of runs is the total of their cells, or both are above the limit. -/
def Agrees (rest : List Cell) (total : Nat) : Except Nat (Nat × Option Cell) → Prop
  | .ok (size, previous) => total = size + cellsBudget previous rest
  | .error size => maxHistoryWindowBytes < size ∧ maxHistoryWindowBytes < total

theorem clustersBudget_agrees (run : Run) (size : Nat) (previous : Option Cell)
    (list : List (Bytes × Int)) (rest : List Cell) :
    Agrees rest (size + cellsBudget previous
        ((list.map fun (text, width) => run.cell text width) ++ rest))
      (clustersBudget run size previous list) := by
  induction list generalizing size previous with
  | nil => rfl
  | cons head list ih =>
    obtain ⟨cluster, width⟩ := head
    -- the text of the cell before does not count
    have bare : ∀ cells, cellsBudget (some (run.cell cluster width)) cells =
        cellsBudget (some (run.cell [] width)) cells := by
      rintro (_ | _) <;> rfl
    rw [map_cons, cons_append, cellsBudget, bare, ← Nat.add_assoc, ← Nat.add_assoc]
    unfold clustersBudget
    dsimp only
    split
    next above => exact ⟨above, Nat.lt_add_right _ above⟩
    next => exact ih _ _

theorem foldlM_agrees (runs : List Run) (size : Nat) (previous : Option Cell) :
    Agrees [] (size + cellsBudget previous (cellsFromRuns first runs))
      (runs.foldlM (fun (size, previous) run =>
        clustersBudget run size previous (clusters first run.text)) (size, previous)) := by
  induction runs generalizing size previous with
  | nil => rfl
  | cons run runs ih =>
    have head := clustersBudget_agrees run size previous (clusters first run.text)
      (cellsFromRuns first runs)
    rw [cellsFromRuns, flatMap_cons, foldlM_cons]
    dsimp only
    generalize clustersBudget run size previous (clusters first run.text) = counted at head ⊢
    cases counted with
    | error => exact head
    | ok state => exact head ▸ ih state.1 state.2

theorem historyLineBudgetBytes_same (line : Line) (index : Int) :
    SameBudget (historyLineBudgetBytes first line)
      (historyRowBudgetBytes (historyRowFromColdLine first line index)) := by
  have agrees := foldlM_agrees first line.runs 96 none
  unfold historyLineBudgetBytes
  split
  next done =>
    rw [done] at agrees
    exact .inl agrees.symm
  next stopped =>
    rw [stopped] at agrees
    exact .inr agrees

/-- The budget of a cold line is the budget of its row as far as a window can tell, and a visit of
cold lines takes the rows that it would take by the budgets of the rows. -/
theorem row_budget_agreement :
    (∀ line index, SameBudget (historyLineBudgetBytes first line)
      (historyRowBudgetBytes (historyRowFromColdLine first line index))) ∧
    ∀ used lines,
      visitColdLines first (fun line _ => historyLineBudgetBytes first line) used lines =
      visitColdLines first (fun line index =>
        historyRowBudgetBytes (historyRowFromColdLine first line index)) used lines := by
  refine ⟨historyLineBudgetBytes_same first, fun used lines => ?_⟩
  induction lines generalizing used with
  | nil => rfl
  | cons head lines ih =>
    simp only [visitColdLines]
    obtain same | ⟨above, above'⟩ := historyLineBudgetBytes_same first head.1 head.2
    · rw [same, ih]
    · rw [if_pos (Nat.lt_add_left used above), if_pos (Nat.lt_add_left used above')]

end Anytty.LineHist
