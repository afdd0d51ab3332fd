import Mathlib

/-!
# The server side of the live screen: row deltas against a baseline

A protocol session keeps, for each frame it sent, a compact baseline: the row fingerprints, the
size, the revision and the generation of that frame.  The next response is computed against it by
`nativeScreenDeltaRows`, which sends a row as unchanged, as a copy of a base row with the same
fingerprint, or as a replacement, and groups neighbouring copies with the same shift into runs.

A row is an arbitrary type `Row`: the `ScreenRow` message made of the trimmed cells and the wrap
flag of one screen row.  The fingerprint is a function on rows.  Sizes come from a `uint16` pair
and revisions count the updates of one process, so both are natural numbers here and the casts to
the `int32` and `uint32` fields of the message are exact.
-/

namespace Anytty.Screen

abbrev LiveRevision := Nat

structure NativeScreenSize where
  cols : Nat
  rows : Nat
  deriving DecidableEq, Repr

/-- Rows `[sourceRow, sourceRow + count)` of the base shown at `destinationRow`. -/
structure NativeScreenRowCopy where
  sourceRow : Nat
  destinationRow : Nat
  count : Nat
  deriving DecidableEq, Repr

/-- What a session remembers of a frame the client may have merged.  `terminal` is the identity of
the terminal object the frame was taken from. -/
structure NativeScreenBaseline where
  terminal : Nat
  revision : LiveRevision
  generation : Nat
  size : NativeScreenSize
  rowHashes : List UInt64
  altScreen : Bool
  deriving DecidableEq, Repr

/-- The map from a fingerprint to the first base row that has it. -/
def sourcesByHash (rowHashes : List UInt64) : UInt64 → Option Nat :=
  rowHashes.zipIdx.foldl
    (fun sources row =>
      if (sources row.1).isSome then sources else Function.update sources row.1 (some row.2))
    (fun _ => none)

/-- The base row that is shown at `destination`, `none` for the `-1` of the source. -/
def rowSource (rowHashes : List UInt64) (destination : Nat) (hash : UInt64) : Option Nat :=
  if rowHashes[destination]? = some hash then some destination
  else sourcesByHash rowHashes hash

/-- Add one copied row: the last run grows if both its ends meet the row, otherwise a run of one
row is added. -/
def appendCopy (copies : List NativeScreenRowCopy) (source destination : Nat) :
    List NativeScreenRowCopy :=
  match copies.getLast? with
  | some last =>
    if last.sourceRow + last.count = source ∧ last.destinationRow + last.count = destination then
      copies.dropLast ++ [{ last with count := last.count + 1 }]
    else copies ++ [⟨source, destination, 1⟩]
  | none => copies ++ [⟨source, destination, 1⟩]

/-- One round of the loop over the sources. -/
def groupRow (acc : List NativeScreenRowCopy × List Nat) (row : Option Nat × Nat) :
    List NativeScreenRowCopy × List Nat :=
  match row.1 with
  | none => (acc.1, acc.2 ++ [row.2])
  | some source =>
    if source = row.2 then acc else (appendCopy acc.1 source row.2, acc.2)

/-- The source of every row of the current screen, with its destination. -/
def rowSources (rowHashes current : List UInt64) : List (Option Nat × Nat) :=
  current.zipIdx.map fun row => (rowSource rowHashes row.2 row.1, row.2)

def nativeScreenDeltaRows (base : Option NativeScreenBaseline) (current : List UInt64) :
    List NativeScreenRowCopy × List Nat × Bool :=
  match base with
  | none => ([], [], false)
  | some base =>
    if base.rowHashes.length ≠ current.length then ([], [], false)
    else
      let grouped := (rowSources base.rowHashes current).foldl groupRow ([], [])
      (grouped.1, grouped.2, true)

/-! ### The terminal and its snapshot -/

/-- The live surface as the snapshot reads it: every screen row is visited once, in order. -/
structure Surface (Row Cursor Modes : Type) where
  size : NativeScreenSize
  rows : List Row
  cursor : Cursor
  modes : Modes
  altScreen : Bool
  rows_length : rows.length = size.rows

/-- The part of a terminal that is read under `liveOpMu`. -/
structure Terminal (Row Cursor Modes : Type) where
  identity : Nat
  live : Option (Surface Row Cursor Modes)
  liveRevision : LiveRevision
  liveGeneration : Nat

structure NativeScreenRow (Row : Type) where
  index : Nat
  row : Row

structure NativeScreenSnapshot (Row Cursor Modes : Type) where
  terminalID : String
  baseRevision : LiveRevision
  revision : LiveRevision
  fullReplace : Bool
  size : NativeScreenSize
  rowCopies : List NativeScreenRowCopy
  rows : List (NativeScreenRow Row)
  cursor : Cursor
  modes : Modes
  altScreen : Bool
  timestamp : Int

section Snapshot

variable {Row Cursor Modes : Type} [Inhabited Cursor] [Inhabited Modes] (hash : Row → UInt64)

/-- The baseline of the current frame of a terminal. -/
def Terminal.baseline (terminal : Terminal Row Cursor Modes) : NativeScreenBaseline :=
  match terminal.live with
  | none => ⟨terminal.identity, terminal.liveRevision, terminal.liveGeneration, ⟨0, 0⟩, [], false⟩
  | some live =>
    ⟨terminal.identity, terminal.liveRevision, terminal.liveGeneration, live.size,
      live.rows.map hash, live.altScreen⟩

section

variable (observed : LiveRevision) (base : Option NativeScreenBaseline) (current : NativeScreenBaseline)

/-- Whether a baseline cannot be used for a delta to the current frame `current`. -/
def mustReplace : Bool :=
  observed = 0 || observed > current.revision ||
    match base with
    | none => true
    | some base =>
      base.terminal ≠ current.terminal || base.revision ≠ observed ||
        base.generation ≠ current.generation || base.size ≠ current.size ||
        base.altScreen ≠ current.altScreen

/-- The copies, the replaced rows and the replace flag of the next response. -/
def snapshotRows : List NativeScreenRowCopy × List Nat × Bool :=
  let delta :=
    if mustReplace observed base current then ([], [], false)
    else nativeScreenDeltaRows base current.rowHashes
  if delta.2.2 then (delta.1, delta.2.1, false)
  else ([], List.range current.size.rows, true)

end

/-- The rows of the surface whose index is to be replaced, in the order they are visited. -/
def replacedRows (rows : List Row) (replaced : List Nat) : List (NativeScreenRow Row) :=
  (rows.zipIdx.filter fun row => row.2 ∈ replaced).map fun row => ⟨row.2, row.1⟩

def Terminal.nativeScreenSnapshotSinceBaseline (terminal : Terminal Row Cursor Modes)
    (terminalID : String) (observed : LiveRevision) (base : Option NativeScreenBaseline)
    (now : Int) : NativeScreenSnapshot Row Cursor Modes × NativeScreenBaseline :=
  let current := terminal.baseline hash
  match terminal.live with
  | none =>
    (⟨terminalID, observed, terminal.liveRevision, true, ⟨0, 0⟩, [], [], default, default, false,
      now⟩, current)
  | some live =>
    let (copies, replaced, full) := snapshotRows observed base current
    (⟨terminalID, observed, terminal.liveRevision, full, live.size, copies,
      replacedRows live.rows replaced, live.cursor, live.modes, live.altScreen, now⟩, current)

end Snapshot

/-- What can happen to the live screen between two snapshots, each time under `liveOpMu`: output
or a lifecycle marker changes the surface at the same generation and size, a resize or a restart
begins a new generation with any surface. -/
inductive Terminal.LiveStep {Row Cursor Modes : Type} :
    Terminal Row Cursor Modes → Terminal Row Cursor Modes → Prop where
  | output (terminal : Terminal Row Cursor Modes) (live live' : Surface Row Cursor Modes)
      (here : terminal.live = some live) (size : live'.size = live.size) :
      LiveStep terminal
        { terminal with live := some live', liveRevision := terminal.liveRevision + 1 }
  | regenerate (terminal : Terminal Row Cursor Modes) (live' : Surface Row Cursor Modes) :
      LiveStep terminal
        { terminal with live := some live', liveRevision := terminal.liveRevision + 1,
                        liveGeneration := terminal.liveGeneration + 1 }

/-- A later state of the same terminal. -/
def Terminal.Evolves {Row Cursor Modes : Type} :
    Terminal Row Cursor Modes → Terminal Row Cursor Modes → Prop :=
  Relation.ReflTransGen Terminal.LiveStep

end Anytty.Screen
