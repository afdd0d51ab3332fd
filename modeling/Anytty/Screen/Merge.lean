import Anytty.Screen.Delta

/-!
# The client side of the live screen: two mergers

The TypeScript client merges a response with `mergeLiveScreenResult`, the Dart client with
`mergeLiveScreen`.  They were written independently and check different things: the Dart merger
also rejects a stale revision, copies in a full replacement, a row copied or replaced twice and an
incomplete full replacement.  What they share is modelled once: the range check of a copy, the
check that the cached screen is the base of the delta, and the record of what was written.

The messages follow the protocol's fields.  The `int32` fields are integers, since both mergers
test them for being negative.  Cells, styles, cursors and modes are opaque.
-/

namespace Anytty.Screen

structure TerminalRef where
  endpointId : String
  terminalId : String
  deriving DecidableEq, Repr

structure TerminalSize where
  cols : Int
  rows : Int
  deriving DecidableEq, Repr

structure ScreenRowCopy where
  sourceRow : Int
  destinationRow : Int
  count : Int
  deriving DecidableEq, Repr

structure ScreenRowReplace (Row : Type) where
  rowIndex : Int
  row : Option Row

structure NativeScreenResult (Row Cursor Modes : Type) where
  terminal : Option TerminalRef
  liveRevision : LiveRevision
  size : Option TerminalSize
  rowReplacements : List (ScreenRowReplace Row)
  alternateScreen : Bool
  cursor : Option Cursor
  modes : Option Modes
  timestampUnixNano : Int
  baseRevision : LiveRevision
  rowCopies : List ScreenRowCopy
  fullReplace : Bool

def NativeScreenRowCopy.toProto (copy : NativeScreenRowCopy) : ScreenRowCopy :=
  ⟨copy.sourceRow, copy.destinationRow, copy.count⟩

def NativeScreenRow.toProto {Row : Type} (row : NativeScreenRow Row) : ScreenRowReplace Row :=
  ⟨row.index, some row.row⟩

/-- The public message of a snapshot. -/
def nativeScreenToProto {Row Cursor Modes : Type} (endpointID : String)
    (snapshot : NativeScreenSnapshot Row Cursor Modes) : NativeScreenResult Row Cursor Modes where
  terminal := some ⟨endpointID, snapshot.terminalID⟩
  liveRevision := snapshot.revision
  size := some ⟨snapshot.size.cols, snapshot.size.rows⟩
  rowReplacements := snapshot.rows.map NativeScreenRow.toProto
  alternateScreen := snapshot.altScreen
  cursor := some snapshot.cursor
  modes := some snapshot.modes
  timestampUnixNano := snapshot.timestamp
  baseRevision := snapshot.baseRevision
  rowCopies := snapshot.rowCopies.map NativeScreenRowCopy.toProto
  fullReplace := snapshot.fullReplace

/-- The rows of a screen with `rows` rows. -/
structure ScreenRows (Row : Type) (rows : Int) where
  list : List Row
  length_eq : (list.length : Int) = rows

/-- A client's cached screen.  The Dart class calls the generation `connectionGeneration`. -/
structure CanonicalLiveScreen (Row Cursor Modes : Type) where
  terminal : TerminalRef
  generation : Nat
  revision : LiveRevision
  cols : Int
  rows : Int
  screenRows : ScreenRows Row rows
  alternateScreen : Bool
  cursor : Option Cursor
  modes : Option Modes
  timestampUnixNano : Int

structure LiveScreenDamage where
  fullReplace : Bool
  changedRows : List Nat
  deriving DecidableEq, Repr

structure LiveScreenMergeResult (Row Cursor Modes : Type) where
  screen : CanonicalLiveScreen Row Cursor Modes
  damage : LiveScreenDamage

/-- The new rows and the set of rows written so far. -/
structure Progress (Row : Type) (rows : Int) where
  nextRows : ScreenRows Row rows
  changedRows : List Nat

section Merge

variable {Row Cursor Modes : Type} {rows : Int}

/-- Put a row at a position and note it as changed. -/
def Progress.write (progress : Progress Row rows) (write : Nat × Row) : Progress Row rows where
  nextRows := ⟨progress.nextRows.list.set write.1 write.2,
    by rw [List.length_set]; exact progress.nextRows.length_eq⟩
  changedRows := progress.changedRows.insert write.1

/-- `count` rows starting at `sourceRow` or `destinationRow` do not lie in a screen of `rows`
rows. -/
def ScreenRowCopy.outOfRange (copy : ScreenRowCopy) (rows : Int) : Bool :=
  copy.count < 0 || copy.sourceRow < 0 || copy.destinationRow < 0 ||
    copy.sourceRow + copy.count > rows || copy.destinationRow + copy.count > rows

/-- The rows a merge starts from: blank rows for a full replacement, otherwise the cached screen,
which has to be the one the delta was computed against. -/
def baseRows [Inhabited Row] (current : Option (CanonicalLiveScreen Row Cursor Modes))
    (incoming : NativeScreenResult Row Cursor Modes) (generation : Nat) (cols rows : Int)
    (nonneg : 0 ≤ rows) : Option (ScreenRows Row rows) :=
  if incoming.fullReplace then
    some ⟨List.replicate rows.toNat default, by rw [List.length_replicate]; omega⟩
  else
    match current with
    | none => none
    | some screen =>
      if here : screen.generation = generation ∧ incoming.baseRevision = screen.revision ∧
          screen.cols = cols ∧ screen.rows = rows then
        some ⟨screen.screenRows.list, here.2.2.2 ▸ screen.screenRows.length_eq⟩
      else none

/-- The cached screen after a merge. -/
def mergedScreen (incoming : NativeScreenResult Row Cursor Modes) (terminal : TerminalRef)
    (generation : Nat) (cols : Int) (nextRows : ScreenRows Row rows) :
    CanonicalLiveScreen Row Cursor Modes where
  terminal := terminal
  generation := generation
  revision := incoming.liveRevision
  cols := cols
  rows := rows
  screenRows := nextRows
  alternateScreen := incoming.alternateScreen
  cursor := incoming.cursor
  modes := incoming.modes
  timestampUnixNano := incoming.timestampUnixNano

/-! ### TypeScript -/

/-- The writes of one copy: the slice of the base, put at the destination. -/
def copyWrites (base : List Row) (copy : ScreenRowCopy) : List (Nat × Row) :=
  ((base.drop copy.sourceRow.toNat).take copy.count.toNat).zipIdx.map fun row =>
    (copy.destinationRow.toNat + row.2, row.1)

def mergeCopy (base : List Row) (progress : Progress Row rows) (copy : ScreenRowCopy) :
    Option (Progress Row rows) :=
  if copy.outOfRange rows then none
  else some ((copyWrites base copy).foldl Progress.write progress)

def mergeReplacement (progress : Progress Row rows) (replacement : ScreenRowReplace Row) :
    Option (Progress Row rows) :=
  match replacement.row with
  | none => none
  | some row =>
    if replacement.rowIndex < 0 || replacement.rowIndex ≥ rows then none
    else some (progress.write (replacement.rowIndex.toNat, row))

/-- The TypeScript merger; `none` is its `undefined`. -/
def mergeLiveScreenResult [Inhabited Row] (current : Option (CanonicalLiveScreen Row Cursor Modes))
    (incoming : NativeScreenResult Row Cursor Modes) (generation : Nat)
    (expectedTerminal : TerminalRef) : Option (LiveScreenMergeResult Row Cursor Modes) :=
  let terminal := incoming.terminal.getD expectedTerminal
  if terminal.endpointId ≠ expectedTerminal.endpointId ∨
      terminal.terminalId ≠ expectedTerminal.terminalId then none
  else
    let cols := (incoming.size.map (·.cols)).getD 0
    let rows := (incoming.size.map (·.rows)).getD 0
    if negative : cols < 0 ∨ rows < 0 then none
    else do
      let base ← baseRows current incoming generation cols rows (by omega)
      let copied ← incoming.rowCopies.foldlM (mergeCopy base.list) ⟨base, []⟩
      let merged ← incoming.rowReplacements.foldlM mergeReplacement copied
      return {
        screen := mergedScreen incoming terminal generation cols merged.nextRows
        damage := {
          fullReplace := incoming.fullReplace
          changedRows :=
            if incoming.fullReplace then List.range rows.toNat
            else merged.changedRows.mergeSort } }

/-! ### Dart -/

structure LiveScreenRejected where
  reason : String
  requestFullReplace : Bool
  deriving DecidableEq, Repr

/-- Write a row and add its position to a set that must not hold it yet. -/
def writeOnce (rejected : LiveScreenRejected) (state : Progress Row rows × List Nat)
    (write : Nat × Row) : Except LiveScreenRejected (Progress Row rows × List Nat) :=
  if write.1 ∈ state.2 then .error rejected
  else .ok (state.1.write write, write.1 :: state.2)

/-- One copy of the Dart merger, row by row; the second component is `copiedDestinations`.  The
range check keeps every read inside the base. -/
def copyRowsOnce [Inhabited Row] (fullReplace : Bool) (base : List Row)
    (state : Progress Row rows × List Nat) (copy : ScreenRowCopy) :
    Except LiveScreenRejected (Progress Row rows × List Nat) :=
  if fullReplace || copy.outOfRange rows then .error ⟨"invalid row copy", true⟩
  else
    (List.range copy.count.toNat).foldlM (fun state offset =>
      writeOnce ⟨"overlapping row copies", true⟩ state
        (copy.destinationRow.toNat + offset,
          base.getD (copy.sourceRow.toNat + offset) default)) state

/-- One replacement of the Dart merger; the second component is `replacedRows`. -/
def replaceRowOnce (state : Progress Row rows × List Nat) (replacement : ScreenRowReplace Row) :
    Except LiveScreenRejected (Progress Row rows × List Nat) :=
  match replacement.row with
  | none => .error ⟨"invalid row replacement", true⟩
  | some row =>
    if replacement.rowIndex < 0 || replacement.rowIndex ≥ rows then
      .error ⟨"invalid row replacement", true⟩
    else
      writeOnce ⟨"invalid row replacement", true⟩ state (replacement.rowIndex.toNat, row)

/-- The response is older than the cached screen of the same connection. -/
def staleRevision (current : Option (CanonicalLiveScreen Row Cursor Modes))
    (incoming : NativeScreenResult Row Cursor Modes) (connectionGeneration : Nat) : Bool :=
  match current with
  | none => false
  | some screen =>
    screen.generation = connectionGeneration && incoming.liveRevision < screen.revision

/-- The loops of the Dart merger over the rows it starts from.  The sealed
`LiveScreenMergeOutcome` is an `Except`: `LiveScreenRejected` is its error, `LiveScreenMerged` its
value. -/
def mergeOnto [Inhabited Row] (base : ScreenRows Row rows)
    (incoming : NativeScreenResult Row Cursor Modes) (terminal : TerminalRef)
    (connectionGeneration : Nat) (cols : Int) :
    Except LiveScreenRejected (LiveScreenMergeResult Row Cursor Modes) := do
  let copied ← incoming.rowCopies.foldlM (copyRowsOnce incoming.fullReplace base.list)
    (⟨base, []⟩, [])
  let merged ← incoming.rowReplacements.foldlM replaceRowOnce (copied.1, [])
  if incoming.fullReplace ∧ (merged.2.length : Int) ≠ rows then
    .error ⟨"incomplete full replacement", true⟩
  else
    return {
      screen := mergedScreen incoming terminal connectionGeneration cols merged.1.nextRows
      damage := ⟨incoming.fullReplace, merged.1.changedRows.mergeSort⟩ }

/-- The Dart merger. -/
def mergeLiveScreen [Inhabited Row] (current : Option (CanonicalLiveScreen Row Cursor Modes))
    (incoming : NativeScreenResult Row Cursor Modes) (connectionGeneration : Nat)
    (expectedTerminal : TerminalRef) :
    Except LiveScreenRejected (LiveScreenMergeResult Row Cursor Modes) :=
  let terminal := incoming.terminal.getD expectedTerminal
  if terminal.endpointId ≠ expectedTerminal.endpointId ∨
      terminal.terminalId ≠ expectedTerminal.terminalId then
    .error ⟨"terminal identity mismatch", false⟩
  else
    let cols := (incoming.size.map (·.cols)).getD 0
    let rows := (incoming.size.map (·.rows)).getD 0
    if negative : cols < 0 ∨ rows < 0 then .error ⟨"negative terminal dimensions", true⟩
    else if staleRevision current incoming connectionGeneration then
      .error ⟨"stale live revision", false⟩
    else
      match baseRows current incoming connectionGeneration cols rows (by omega) with
      | none => .error ⟨"delta base is unavailable", true⟩
      | some base => mergeOnto base incoming terminal connectionGeneration cols

end Merge

end Anytty.Screen
