import Anytty.Data.SortedMap
import Anytty.Data.Triple

/-!
# Panes that share a terminal

Several panes can show one terminal. Each has its own viewport: live, pinned to a row of the
parser's content, or frozen on rows of the persistent history. The history itself is read
through one snapshot that all panes of the terminal share.

This file follows the terminal's history calls for a PTY with a history source. A call runs
in `EStateM`, so that what it did before an error stays done. What comes from outside is part of
the call: how many times its context is found alive, the answers of the provider, and
whether the generation of a scroll is still the newest. Rows are objects: the snapshot finds
the column base of a row by its identity, and a row of a later page is another object even if it
shows the same text.
-/

namespace Anytty.Tui.Panes

open Anytty.Data

/-! ### Rows and snapshots -/

structure HistoryCell where
  content : String
  width : Int
deriving DecidableEq, Repr

/-- A row as the provider's rows are projected to the terminal's width. -/
structure RowData where
  logicalLineID : Nat
  rowInLine : Int
  segment : Nat
  cells : List HistoryCell
deriving DecidableEq, Repr

structure HistoryRow extends RowData where
  /-- Which object it is. -/
  ref : Nat
deriving DecidableEq, Repr

def sameRow (a b : RowData) : Bool :=
  a.logicalLineID = b.logicalLineID ∧ a.rowInLine = b.rowInLine ∧ a.segment = b.segment

/-- New objects, numbered from `n`. -/
def numbered (n : Nat) : List RowData → List HistoryRow
  | [] => []
  | row :: rows => ⟨row, n⟩ :: numbered (n + 1) rows

def RowData.width (row : RowData) : Int :=
  (row.cells.map fun cell => max 0 cell.width).sum

/-- The column base of each row: it restarts with a new logical line or segment. -/
def rowBasesFrom (cols : Int) : Option HistoryRow → Int → List HistoryRow → List (Nat × Int)
  | _, _, [] => []
  | previous, base, row :: rows =>
    let continues := previous.any fun p =>
      p.logicalLineID = row.logicalLineID ∧ p.segment = row.segment
    let base := if continues then base else row.rowInLine * cols
    (row.ref, base) :: rowBasesFrom cols (some row) (base + row.width) rows

def rowBases (rows : List HistoryRow) (cols : Int) : List (Nat × Int) :=
  rowBasesFrom cols none 0 rows

/-- A provider snapshot: its frozen token, the tail page and the last traversed page. The maps
`latestBases` and `pageBases` are those of the two pages. -/
structure Snapshot where
  token : String
  generation : Nat
  cols : Int
  latest : List HistoryRow
  page : List HistoryRow
  bottom : Int
  oldest : Bool
  windowBases : List (Nat × Int)
deriving DecidableEq, Repr

def Snapshot.columnBase (s : Snapshot) (row : HistoryRow) : Int :=
  ((s.windowBases.lookup row.ref).or
    (((rowBases s.page s.cols).lookup row.ref).or
      ((rowBases s.latest s.cols).lookup row.ref))).getD (row.rowInLine * s.cols)

/-! ### The terminal -/

structure Cell where
  text : String
  width : Int
  continuation : Bool
deriving DecidableEq, Repr

/-- What the parser holds. -/
structure Parser where
  scrollback : List (List Cell)
  screen : List (List Cell)
  cols : Int
  rows : Int
deriving DecidableEq, Repr

structure ViewState where
  pinned : Bool
  viewEnd : Int
  historyActive : Bool
  historyRows : List HistoryRow
  historyOffset : Int
  historyRouting : Bool
  historyRoutingSeq : Nat
deriving DecidableEq, Repr

def newView : ViewState := ⟨false, 0, false, [], 0, false, 0⟩

structure Terminal where
  parser : Parser
  views : SortedMap String ViewState
  historySnapshot : Option Snapshot
  historySnapshotEpoch : Nat
  historyEpoch : Nat
  historyScrollGeneration : Nat
  /-- The tokens that were given back to the provider. -/
  released : List String
  /-- How many row objects there are. -/
  allocated : Nat
deriving DecidableEq

/-- `viewLocked`; a view that does not exist yet is like a new one. -/
def Terminal.view (t : Terminal) (view : String) : ViewState :=
  (t.views.lookup view).getD newView

def Terminal.setView (t : Terminal) (view : String) (f : ViewState → ViewState) : Terminal :=
  { t with views := t.views.insert view (f (t.view view)) }

def Terminal.anyViewActive (t : Terminal) : Bool :=
  t.views.entries.any fun e => e.2.historyActive || e.2.pinned

/-! ### What a pane shows -/

def trimRight (s : String) : String :=
  String.ofList (s.toList.reverse.dropWhile (· = ' ')).reverse

/-- `RowText`: blanks count only in front of text. -/
def rowTextFrom : Nat → List Cell → String
  | _, [] => ""
  | blanks, cell :: cells =>
    if cell.continuation then rowTextFrom blanks cells
    else if cell.text = "" then rowTextFrom (blanks + 1) cells
    else String.ofList (List.replicate blanks ' ') ++ cell.text ++ rowTextFrom 0 cells

def rowText (row : List Cell) : String := rowTextFrom 0 row

section

variable (p : Parser)

def Parser.content : List (List Cell) := p.scrollback ++ p.screen

def Parser.total : Int := p.content.length

/-- `windowRowsLocked`. -/
def Parser.windowRows (rows : Int) : Int :=
  if 0 < rows then rows else if 0 < p.screen.length then p.screen.length else p.rows

/-- The rows of the content from `start` to `stop`. -/
def Parser.between (start stop : Int) : List (List Cell) :=
  (p.content.take stop.toNat).drop start.toNat

/-- `windowEndingLocked`. -/
def Parser.windowEnding (stop rows : Int) : List String :=
  let stop := max 0 (min stop p.total)
  (p.between (max 0 (stop - p.windowRows rows)) stop).map fun row => trimRight (rowText row)

/-- `windowCellsEndingLocked`. -/
def Parser.windowCellsEnding (stop : Int) : List (List Cell) :=
  let stop := max 0 (min stop p.total)
  p.between (max 0 (stop - p.windowRows 0)) stop

end

def Terminal.windowEnd (t : Terminal) (view : String) : Int :=
  let v := t.view view
  if v.pinned ∧ v.viewEnd < t.parser.total then v.viewEnd else t.parser.total

/-- `history.Text`. -/
def historyText (rows : List HistoryRow) : List String :=
  rows.map fun row => trimRight (String.join (row.cells.map HistoryCell.content))

section

variable (t : Terminal) (view : String)

def Terminal.visibleLines : List String :=
  let v := t.view view
  if v.historyActive then historyText v.historyRows
  else if v.pinned then t.parser.windowEnding (t.windowEnd view) 0
  else t.parser.screen.map fun row => trimRight (rowText row)

def Terminal.offset : Int :=
  let v := t.view view
  if v.historyActive then v.historyOffset
  else if v.pinned = false then 0
  else if t.parser.total ≤ v.viewEnd then 0
  else t.parser.total - v.viewEnd

def Terminal.isHistoryActive : Bool :=
  (t.view view).historyActive || (t.view view).pinned

/-- `Window`. -/
def Terminal.window (offset rows : Int) : List String × Int :=
  let offset := min (max 0 offset) t.parser.total
  (t.parser.windowEnding (t.windowEnd view - offset) rows, offset)

end

/-! ### Copying -/

structure CopySpec where
  mode : String
  startRow : Int
  startCol : Int
  endRow : Int
  endCol : Int
deriving DecidableEq, Repr

def Cell.cells (cell : Cell) : Int := if cell.width ≤ 0 then 1 else cell.width

def maxCells (row : List Cell) : Int := (row.map Cell.cells).sum

/-- `sliceCells`, with the column where the rest of the row starts. -/
def sliceCellsFrom (start stop : Int) : Int → List Cell → String
  | _, [] => ""
  | col, cell :: cells =>
    let cellEnd := col + cell.cells
    if stop ≤ col then ""
    else if cellEnd ≤ start ∨ cell.continuation then sliceCellsFrom start stop cellEnd cells
    else cell.text ++ sliceCellsFrom start stop cellEnd cells

def sliceCells (row : List Cell) (start stop : Int) : String :=
  if stop ≤ start then "" else sliceCellsFrom start stop 0 row

def historyCells (rows : List HistoryRow) : List (List Cell) :=
  rows.map fun row => row.cells.map fun cell => ⟨cell.content, max 1 cell.width, false⟩

/-- The rows from `first` to `last`, each cut to its columns. -/
def cutRows (rows : List (List Cell)) (first last : Int) (cut : Int → List Cell → String) :
    String :=
  let picked := (rows.take (last + 1).toNat).drop first.toNat
  "\n".intercalate (picked.mapIdx fun i row => trimRight (cut (first + i) row))

/-- `CopyWindow`; `normalize` lowers and trims a mode. -/
def Terminal.copyWindow (normalize : String → String) (t : Terminal) (view : String)
    (spec : CopySpec) : String :=
  let v := t.view view
  let rows := if v.historyActive then historyCells v.historyRows
    else t.parser.windowCellsEnding (t.windowEnd view)
  if rows = [] then ""
  else
    let clamp := fun row : Int => min (max 0 row) (rows.length - 1)
    let r1 := clamp spec.startRow
    let r2 := clamp spec.endRow
    let c1 := max 0 spec.startCol
    let c2 := max 0 spec.endCol
    match normalize spec.mode with
    | "line" => cutRows rows (min r1 r2) (max r1 r2) fun _ row => sliceCells row 0 (maxCells row)
    | "block" =>
      cutRows rows (min r1 r2) (max r1 r2) fun _ row =>
        sliceCells row (min c1 c2) (max c1 c2 + 1)
    | _ =>
      let swap := r2 < r1 ∨ (r1 = r2 ∧ c2 < c1)
      let first := if swap then r2 else r1
      let last := if swap then r1 else r2
      let left := if swap then c2 else c1
      let right := if swap then c1 else c2
      cutRows rows first last fun i row =>
        sliceCells row (if i = first then left else 0)
          (if i = last then right + 1 else maxCells row)

/-- `CopyText`. -/
def Terminal.copyText (t : Terminal) (view : String) : String :=
  "\n".intercalate ((t.visibleLines view).reverse.dropWhile (· = "")).reverse

structure HistoryRange where
  startLineID : Nat
  startCol : Int
  endLineID : Nat
  endCol : Int
deriving DecidableEq, Repr

/-- What the provider copies for a token, a generation, a width and a range. -/
structure Provider where
  copy : String → Nat → Int → HistoryRange → Except String String
  normalize : String → String

/-- `Snapshot.Copy`: a released token is not answered. -/
def Snapshot.copy (provider : Provider) (released : List String) (s : Snapshot)
    (range : HistoryRange) : Except String String :=
  if s.token ∈ released then .error "terminal history: unknown token"
  else provider.copy s.token s.generation s.cols range

/-- The rows and columns of a selection among `n` rows, in reading order. -/
def CopySpec.ordered (spec : CopySpec) (n : Int) : (Int × Int) × (Int × Int) :=
  let a := min (max 0 spec.startRow) (n - 1)
  let b := min (max 0 spec.endRow) (n - 1)
  let x := max 0 spec.startCol
  let y := max 0 spec.endCol
  if b < a ∨ (a = b ∧ y < x) then ((b, y), (a, x)) else ((a, x), (b, y))

/-- The range that a selection of rows stands for. -/
def Snapshot.range (s : Snapshot) (spec : CopySpec) (first last : HistoryRow) (x y : Int) :
    HistoryRange where
  startLineID := first.logicalLineID
  startCol := s.columnBase first + (if spec.mode = "line" then 0 else x)
  endLineID := last.logicalLineID
  endCol := s.columnBase last + (if spec.mode = "line" then s.cols - 1 else y) + 1

/-- `HistoryCopy`. -/
def Terminal.historyCopy (provider : Provider) (t : Terminal) (view : String) :
    Option CopySpec → Except String String
  | none => .ok (t.copyText view)
  | some spec =>
    match t.historySnapshot with
    | none => .ok (t.copyWindow provider.normalize view spec)
    | some s =>
      if spec.mode = "block" then .ok (t.copyWindow provider.normalize view spec)
      else
        let rows := (t.view view).historyRows
        let ((a, x), (b, y)) := spec.ordered rows.length
        match rows[a.toNat]?, rows[b.toNat]? with
        | some first, some last => s.copy provider t.released (s.range spec first last x y)
        | _, _ => .error "terminal history: no visible rows"

/-! ### Calls -/

structure WindowResult where
  token : String
  generation : Nat
  /-- The rows, projected to the width of the request. -/
  rows : List RowData
  hasMore : Bool
deriving DecidableEq, Repr

structure SearchResult where
  found : Bool
  range : HistoryRange
deriving DecidableEq, Repr

/-- What one call meets outside the terminal. -/
structure Env where
  /-- The generation of a scroll from the queue. -/
  generation : Option Nat
  /-- An error of `HistoryBackend`, of `Release` or of the search pattern. -/
  backendErr : Option String
  releaseErr : Option String
  patternErr : Option String
  search : Except String SearchResult

structure World where
  terminal : Terminal
  /-- How often the call's context is still found alive. -/
  alive : Nat
  /-- The provider's answers to the coming window requests. -/
  windows : List (Except String WindowResult)

abbrev Call := EStateM String World

def modifyTerminal (f : Terminal → Terminal) : Call Unit :=
  modify fun w => { w with terminal := f w.terminal }

/-- `ctx.Err()`. -/
def ctxErr : Call Unit := do
  let w ← get
  if w.alive = 0 then throw "context canceled"
  else modify fun w => { w with alive := w.alive - 1 }

def throwIf : Option String → Call Unit
  | none => pure ()
  | some err => throw err

/-- The provider answers a window request. -/
def backendWindow : Call WindowResult := do
  let w ← get
  modify fun w => { w with windows := w.windows.tail }
  match w.windows with
  | .ok result :: _ => return result
  | .error err :: _ => throw err
  | [] => throw "terminal history: no answer"

/-- `project` makes new rows. -/
def project (rows : List RowData) : Call (List HistoryRow) := do
  let w ← get
  modifyTerminal fun t => { t with allocated := t.allocated + rows.length }
  return numbered w.terminal.allocated rows

def updateSnapshot (f : Snapshot → Snapshot) : Call Unit :=
  modifyTerminal fun t => { t with historySnapshot := t.historySnapshot.map f }

/-- The snapshot that a call works on. -/
def theSnapshot : Call Snapshot := do
  let w ← get
  match w.terminal.historySnapshot with
  | some s => return s
  | none => throw "terminal has no persistent history provider"

def errNoProgress : String := "terminal history: paging cursor did not advance"

/-- `Snapshot.older`. -/
def older : Call Unit := do
  let s ← theSnapshot
  if s.oldest then return
  match s.page with
  | [] => throw errNoProgress
  | first :: _ =>
    let result ← backendWindow
    let rows ← project result.rows
    let rows := rows.takeWhile fun row => !sameRow row.toRowData first.toRowData
    if rows = [] then
      if result.hasMore then throw errNoProgress
      else updateSnapshot fun s => { s with oldest := true }
    else
      updateSnapshot fun s =>
        { s with bottom := s.bottom + s.page.length, page := rows, oldest := !result.hasMore }

/-- Back to the tail page. -/
def Snapshot.rewind (s : Snapshot) : Snapshot :=
  { s with page := s.latest, bottom := 0, oldest := false }

/-- The rows of the current page at a distance in `[offset, offset + height)`, newest first. -/
def Snapshot.picked (s : Snapshot) (offset height : Int) : List HistoryRow :=
  (s.page.mapIdx fun i row => (s.bottom + s.page.length - 1 - i, row)).reverse.filterMap fun e =>
    if offset ≤ e.1 ∧ e.1 < offset + height then some e.2 else none

/-- The bases of some rows of the current page. -/
def Snapshot.basesOf (s : Snapshot) (rows : List HistoryRow) : List (Nat × Int) :=
  (rowBases s.page s.cols).filter fun e => e.1 ∈ rows.map HistoryRow.ref

/-- Whether a page that does not reach far enough is the oldest one; else the next is read. -/
def atOldest : Call Bool := do
  let s ← theSnapshot
  if s.oldest then return true
  older
  let s' ← theSnapshot
  return s'.bottom = s.bottom ∧ s'.oldest

def finishWindow (out : List HistoryRow) (bases : List (Nat × Int)) (offset : Int) :
    Call (List HistoryRow × Int) := do
  updateSnapshot fun s => { s with windowBases := bases }
  return (out.reverse, offset)

/-- A window starts from the tail page if the current page is too far back. -/
def startWindow (offset : Int) : Call Unit :=
  updateSnapshot fun s => if offset < s.bottom then s.rewind else s

/-- The loop of `Snapshot.Window`. The context is asked in every round, so the fuel is never
what ends it. -/
def windowLoop : Nat → Int → Int → List HistoryRow → List (Nat × Int) →
    Call (List HistoryRow × Int)
  | 0, _, _, _, _ => throw "context canceled"
  | fuel + 1, offset, height, out, bases => do
    ctxErr
    let s ← theSnapshot
    let out := out ++ s.picked offset height
    let bases := bases ++ s.basesOf (s.picked offset height)
    if offset + height ≤ s.bottom + s.page.length then finishWindow out bases offset
    else
      let stop ← atOldest
      if stop then
        -- a window further back than the oldest row becomes the first full one
        let s ← theSnapshot
        let maxOffset := max 0 (s.bottom + s.page.length - height)
        if maxOffset < offset then
          startWindow maxOffset
          windowLoop fuel maxOffset height [] []
        else finishWindow out bases offset
      else windowLoop fuel offset height out bases

def maxWindowRows : Int := 4096

/-- `Snapshot.Window`. -/
def snapshotWindow (offset height : Int) : Call (List HistoryRow × Int) := do
  if height < 1 ∨ maxWindowRows < height then throw "terminal history: rows must be 1..4096"
  else
    startWindow (max 0 offset)
    let w ← get
    windowLoop (w.alive + 1) (max 0 offset) height [] []

/-- The row of a page where a match starts. -/
def Snapshot.startOf (s : Snapshot) (range : HistoryRange) : Option (Nat × HistoryRow) :=
  (s.page.mapIdx fun i row => (i, row)).find? fun e =>
    let col := range.startCol - ((rowBases s.page s.cols).lookup e.2.ref).getD 0
    e.2.logicalLineID = range.startLineID ∧ 0 ≤ col ∧ col < e.2.width

/-- The loop of `Snapshot.Locate`. -/
def locateLoop (range : HistoryRange) (height : Int) : Nat → Call (List HistoryRow × Int)
  | 0 => throw "context canceled"
  | fuel + 1 => do
    ctxErr
    let s ← theSnapshot
    match s.startOf range with
    | some (i, row) =>
      let distance := s.bottom + s.page.length - 1 - i
      let found ← snapshotWindow (max 0 (distance - height / 2)) height
      if found.1.any fun r => sameRow r.toRowData row.toRowData then return found
      else throw errNoProgress
    | none =>
      if s.oldest then throw "terminal history: match is outside the frozen snapshot"
      else
        older
        locateLoop range height fuel

/-- `Snapshot.Locate`, without the cells of the match. -/
def locate (range : HistoryRange) (height : Int) : Call (List HistoryRow × Int) := do
  updateSnapshot Snapshot.rewind
  let w ← get
  locateLoop range height (w.alive + 1)

section

variable (env : Env)

/-- `Snapshot.Close`. -/
def closeSnapshot : Call Unit := do
  let s ← theSnapshot
  if s.token = "" then return
  else
    modifyTerminal fun t =>
      { t with
        historySnapshot := t.historySnapshot.map fun s => { s with token := "" }
        released := s.token :: t.released }
    throwIf env.releaseErr

/-- `history.Open`. -/
def openSnapshot (cols : Int) : Call Snapshot := do
  if cols < 1 then throw "terminal history: columns must be positive"
  else
    let result ← backendWindow
    if result.token = "" then throw "terminal history: missing frozen token"
    else
      let rows ← project result.rows
      return ⟨result.token, result.generation, cols, rows, rows, 0, !result.hasMore, []⟩

def Terminal.snapshotStale (t : Terminal) : Bool :=
  t.historySnapshot.any fun s =>
    s.cols ≠ t.parser.cols ∨ t.historySnapshotEpoch ≠ t.historyEpoch

/-- A snapshot of another width or epoch is closed. -/
def dropStale : Call Unit := do
  let w ← get
  if w.terminal.snapshotStale then
    closeSnapshot env
    modifyTerminal fun t => { t with historySnapshot := none, historySnapshotEpoch := 0 }
  else return

/-- Without a snapshot one is opened. -/
def ensureSnapshot : Call Unit := do
  let w ← get
  if w.terminal.historySnapshot.isSome then return
  else
    throwIf env.backendErr
    let s ← openSnapshot w.terminal.parser.cols
    modifyTerminal fun t =>
      { t with historySnapshot := some s, historySnapshotEpoch := w.terminal.historyEpoch }

/-- `historyLocked` for a PTY with a history source. -/
def historyLocked : Call Unit := do
  ctxErr
  dropStale env
  ensureSnapshot env

def Terminal.historyHeight (t : Terminal) (rows : Int) : Int :=
  if 0 < rows then rows else max 1 t.parser.rows

/-- `publishHistoryIfEpoch`. -/
def publish (epoch : Nat) (view : String) (page : List HistoryRow) (offset : Int) :
    Call Bool := do
  let w ← get
  if w.terminal.historyEpoch ≠ epoch then return false
  else
    modifyTerminal (·.setView view fun v =>
      { v with historyActive := true, historyRows := page, historyOffset := offset })
    return true

/-- `validateHistoryScroll`. -/
def validateScroll : Call Unit := do
  ctxErr
  let w ← get
  match env.generation with
  | none => return
  | some generation =>
    if generation ≠ w.terminal.historyScrollGeneration then throw "context canceled"
    else ctxErr

/-- `publishHistoryForScroll`. -/
def publishForScroll (epoch : Nat) (view : String) (page : List HistoryRow)
    (offset : Int) : Call Unit := do
  ctxErr
  let w ← get
  if env.generation.any (· ≠ w.terminal.historyScrollGeneration) then throw "context canceled"
  else
    let published ← publish epoch view page offset
    if published then return else throw "context canceled"

/-- The viewport of a pane is given up; the shared snapshot goes with the last one. -/
def Terminal.detach (t : Terminal) (view : String) : Terminal :=
  let t := t.setView view fun v =>
    { v with
      historyActive := false, historyRows := [], historyOffset := 0, pinned := false
      viewEnd := 0 }
  if t.anyViewActive then t
  else
    { t with
      historySnapshot := none
      historySnapshotEpoch := 0
      -- the snapshot is closed, here or on a goroutine
      released :=
        (t.historySnapshot.toList.map Snapshot.token).filter (· ≠ "") ++ t.released }

/-- `detachHistoryViewportForScroll`. -/
def detachForScroll (view : String) : Call Unit := do
  ctxErr
  let w ← get
  if env.generation.any (· ≠ w.terminal.historyScrollGeneration) then throw "context canceled"
  else modifyTerminal (·.detach view)

/-- `Scroll`. -/
def Terminal.scroll (t : Terminal) (view : String) (delta rows : Int) : Terminal :=
  let v := t.view view
  let total := t.parser.total
  if v.pinned = false ∧ delta ≤ 0 then t
  else
    let moved := if v.pinned then v.viewEnd - delta else total - delta
    let viewEnd := max moved (min (t.parser.windowRows rows) total)
    t.setView view fun v =>
      if total ≤ viewEnd then { v with pinned := false, viewEnd := 0 }
      else { v with pinned := true, viewEnd := viewEnd }

/-- `HistoryWindow`. -/
def historyWindow (view : String) (offset rows : Int) :
    Call (List String × Int) := do
  let w ← get
  historyLocked env
  let w' ← get
  let page ← snapshotWindow ((w'.terminal.view view).historyOffset + max 0 offset)
    (w'.terminal.historyHeight rows)
  if rows ≤ 0 ∧ offset = 0 then
    let _ ← publish w.terminal.historyEpoch view page.1 page.2
    return (historyText page.1, page.2)
  else return (historyText page.1, page.2)

/-- What the pane shows live. -/
def liveWindow (view : String) (rows : Int) : Call (List String × Int) := do
  let w ← get
  return ((w.terminal.window view 0 rows).1, 0)

/-- `HistoryScroll`. -/
def historyScroll (view : String) (delta rows : Int) :
    Call (List String × Int) := do
  validateScroll env
  let w ← get
  let v := w.terminal.view view
  if v.historyActive = false ∧ delta ≤ 0 then
    if v.pinned then
      modifyTerminal (·.scroll view delta rows)
      let w' ← get
      return (w'.terminal.parser.windowEnding (w'.terminal.windowEnd view) rows,
        w'.terminal.offset view)
    else liveWindow view rows
  else if v.historyActive ∧ delta < 0 ∧ v.historyOffset + delta ≤ 0 then
    -- back at the bottom: the live screen again
    detachForScroll env view
    liveWindow view rows
  else
    historyLocked env
    let w' ← get
    let page ← snapshotWindow (max 0 ((w'.terminal.view view).historyOffset + delta))
      (w'.terminal.historyHeight rows)
    validateScroll env
    if 0 < delta ∧ page.2 ≤ 0 then
      detachForScroll env view
      liveWindow view rows
    else
      publishForScroll env w.terminal.historyEpoch view page.1 page.2
      return (historyText page.1, page.2)

/-- `Search`; the provider's answer to the query is part of the environment. -/
def search (env : Env) (view : String) : Call (Option (List String × Int)) := do
  throwIf env.patternErr
  let w ← get
  historyLocked env
  let w' ← get
  if w'.terminal.parser.cols ≤ 0 then throw "terminal has no columns"
  else
    match env.search with
    | .error err => throw err
    | .ok result =>
      if result.found = false then return none
      else
        let page ← locate result.range (w'.terminal.historyHeight 0)
        let published ← publish w.terminal.historyEpoch view page.1 page.2
        if published then return some (historyText page.1, page.2)
        else throw "context canceled"

/-- `HistoryRelease`. -/
def historyRelease (view : String) : Call Unit := do
  modifyTerminal fun t =>
    { t.setView view fun v =>
        { v with historyRoutingSeq := v.historyRoutingSeq + 1, historyRouting := false } with
      historyScrollGeneration := t.historyScrollGeneration + 1 }
  let w ← get
  modifyTerminal (·.detach view)
  let w' ← get
  -- only a snapshot that was given up is closed, and may fail to
  if w.terminal.historySnapshot.isSome ∧ w'.terminal.historySnapshot.isNone then
    throwIf env.releaseErr
  else return

/-- `ScrollEnd`. -/
def Terminal.scrollEnd (t : Terminal) (view : String) : Terminal :=
  t.setView view fun v => { v with pinned := false, viewEnd := 0 }

/-- A call on one pane. -/
inductive PaneCall
  | historyScroll (delta rows : Int)
  | historyWindow (offset rows : Int)
  | search
  | historyRelease
  | scroll (delta rows : Int)
  | scrollEnd
deriving DecidableEq, Repr

/-- The calls that may open a history snapshot. -/
def PaneCall.opensHistory : PaneCall → Bool
  | .historyScroll _ _ | .historyWindow _ _ | .search => true
  | .historyRelease | .scroll _ _ | .scrollEnd => false

/-- What the call does, its result left out. -/
def PaneCall.body (view : String) : PaneCall → Call Unit
  | .historyScroll delta rows => do
    let _ ← Panes.historyScroll env view delta rows
  | .historyWindow offset rows => do
    let _ ← Panes.historyWindow env view offset rows
  | .search => do
    let _ ← Panes.search env view
  | .historyRelease => Panes.historyRelease env view
  | .scroll delta rows => modifyTerminal (·.scroll view delta rows)
  | .scrollEnd => modifyTerminal (·.scrollEnd view)

end

/-- A call with what it meets. -/
structure Invocation where
  call : PaneCall
  env : Env
  alive : Nat
  windows : List (Except String WindowResult)

/-- The terminal after a call, successful or not. -/
def Terminal.invoke (t : Terminal) (view : String) (i : Invocation) : Terminal :=
  (stateOf (i.call.body i.env view ⟨t, i.alive, i.windows⟩)).terminal

def Terminal.invokeAll (t : Terminal) (view : String) (calls : List Invocation) : Terminal :=
  calls.foldl (fun t i => t.invoke view i) t

end Anytty.Tui.Panes
