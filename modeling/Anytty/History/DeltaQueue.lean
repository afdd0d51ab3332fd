import Anytty.Output.Buffer

/-!
# The history delta queue

`terminalHistoryDeltaQueue` takes semantic transactions from the live parser and
hands them, one at a time, to the history worker. It never makes the parser wait:
when its memory bound is reached, everything queued collapses into a gap that
the worker must persist before later transactions.

The regions under `queue.mu` are functions on the queue. `Step` interleaves
them: any number of `Enqueue` calls, one `Run` loop whose callbacks may fail at
any point, `Seal` and `Close`. `Flush` only reads the queue, so a call is the
pair of the state in which it takes its target and a later state in which it
returns.

A state also records the accepted transactions and the callbacks that have
returned. The `changed` and `done` channels, the wait counter and the policy,
which only `Status` reads, are left out.
-/

namespace Anytty.History

open Output (BufferConfig)

/-! ## Transactions -/

/-- The texts of `CellStyle`. -/
structure CellStyle where
  fg : String
  bg : String
  linkURL : String
  linkParams : String
  deriving DecidableEq, Repr

/-- `TerminalSemanticCell`, as far as its size goes. -/
structure SemanticCell where
  content : String
  linkURL : String
  linkParams : String
  style : CellStyle
  deriving DecidableEq, Repr

/-- `TerminalSemanticCellRun`. -/
structure SemanticRun where
  text : String
  style : CellStyle
  deriving DecidableEq, Repr

/-- `TerminalSemanticScrollOut`, as far as its size goes. -/
structure EvictedRow where
  cells : List SemanticCell
  runs : List SemanticRun
  deriving DecidableEq, Repr

/-- `TerminalSemanticTransaction`: the rows that left the screen. -/
structure Transaction where
  evictedRows : List EvictedRow
  deriving DecidableEq, Repr

/-- The bytes of a style's texts. -/
def CellStyle.textBytes (style : CellStyle) : Nat :=
  style.fg.utf8ByteSize + style.bg.utf8ByteSize + style.linkURL.utf8ByteSize +
    style.linkParams.utf8ByteSize

/-- `historyTransactionResidentBytes`. -/
def historyTransactionResidentBytes (tx : Transaction) : Nat :=
  256 + (tx.evictedRows.map fun row =>
    96 + (row.cells.map fun cell =>
      128 + (cell.content.utf8ByteSize + cell.linkURL.utf8ByteSize +
        cell.linkParams.utf8ByteSize + cell.style.textBytes)).sum +
    (row.runs.map fun run => 96 + (run.text.utf8ByteSize + run.style.textBytes)).sum).sum

/-- An error of a callback. `recovered` is `historyDeltaErrorRecovered`: the
failed transaction has been isolated by a durable gap. -/
structure HistoryError where
  message : String
  recovered : Bool
  deriving DecidableEq, Repr

/-! ## The queue -/

/-- `terminalHistoryDeltaNode`. -/
structure DeltaNode where
  seq : Nat
  sourceBytes : Nat
  residentBytes : Int
  tx : Transaction
  deriving DecidableEq, Repr

/-- `terminalHistoryDeltaQueue`. -/
structure DeltaQueue where
  capacity : Int
  nodes : List DeltaNode := []
  inFlight : Option DeltaNode := none
  resident : Int := 0
  nextSeq : Nat := 0
  completedSeq : Nat := 0
  pendingGapBytes : Nat := 0
  pendingGapThrough : Nat := 0
  gapInFlightBytes : Nat := 0
  gapInFlightThrough : Nat := 0
  droppedBytes : Nat := 0
  gapCount : Nat := 0
  epoch : Nat := 0
  started : Bool := false
  sealed : Bool := false
  closed : Bool := false
  unavailable : Option HistoryError := none

/-- `newTerminalHistoryDeltaQueue`. -/
def newDeltaQueue (config : BufferConfig) : DeltaQueue :=
  { capacity := config.normalized.capacityBytes }

namespace DeltaQueue

variable (q : DeltaQueue)

/-- `addGapLocked`. -/
def addGap (through bytes : Nat) : DeltaQueue :=
  if bytes = 0 then q
  else
    { q with
      gapCount := if q.pendingGapBytes = 0 then q.gapCount + 1 else q.gapCount
      pendingGapBytes := q.pendingGapBytes + bytes
      droppedBytes := q.droppedBytes + bytes
      pendingGapThrough :=
        if through > q.pendingGapThrough then through else q.pendingGapThrough }

/-- The loop of `dropQueuedLocked`. -/
def dropLoop (q : DeltaQueue) : List DeltaNode → DeltaQueue
  | [] => q
  | node :: rest =>
    let q := q.addGap node.seq node.sourceBytes
    dropLoop { q with resident := q.resident - node.residentBytes } rest

/-- `dropQueuedLocked`. -/
def dropQueued : DeltaQueue :=
  let q := q.dropLoop q.nodes
  { q with resident := if q.resident < 0 then 0 else q.resident, nodes := [] }

/-- `Enqueue` counts at least one source byte. -/
def countedBytes (sourceBytes : Int) : Nat :=
  let sourceBytes := if sourceBytes < 0 then 0 else sourceBytes
  if sourceBytes = 0 then 1 else sourceBytes.toNat

/-- `Enqueue` refuses a transaction. -/
def refuses : Bool := q.closed || q.sealed || q.unavailable.isSome

/-- The node `Enqueue` makes of a transaction it accepts. -/
def nodeFor (tx : Transaction) (sourceBytes : Int) : DeltaNode :=
  { seq := q.nextSeq + 1
    sourceBytes := countedBytes sourceBytes
    residentBytes := historyTransactionResidentBytes tx
    tx := tx }

/-- Append a node at the tail. -/
def push (node : DeltaNode) : DeltaQueue :=
  { q with nodes := q.nodes ++ [node], resident := q.resident + node.residentBytes }

/-- `Enqueue` of an accepted transaction: queued, if there is room now or after
dropping what is queued, and a gap otherwise. -/
def enqueue (node : DeltaNode) : DeltaQueue :=
  let q : DeltaQueue := { q with nextSeq := q.nextSeq + 1 }
  let q := if q.resident + node.residentBytes > q.capacity then q.dropQueued else q
  if q.resident + node.residentBytes > q.capacity then q.addGap node.seq node.sourceBytes
  else q.push node

/-- What `next` returns: nothing yet, the end, a gap with its bytes and last
sequence number, or a transaction. -/
inductive Next
  | wait
  | stop
  | gap (bytes through : Nat)
  | node (node : DeltaNode)

/-- `next`. -/
def next : DeltaQueue × Next :=
  if !q.closed && q.unavailable.isNone && q.pendingGapBytes == 0 && q.nodes.isEmpty && !q.sealed
  then (q, .wait)
  else if q.closed || q.unavailable.isSome then (q, .stop)
  else if q.pendingGapBytes > 0 then
    ({ q with
        gapInFlightBytes := q.pendingGapBytes
        gapInFlightThrough := q.pendingGapThrough
        pendingGapBytes := 0
        pendingGapThrough := 0 },
      .gap q.pendingGapBytes q.pendingGapThrough)
  else
    match q.nodes with
    | [] => (q, .stop)
    | node :: rest => ({ q with nodes := rest, inFlight := some node }, .node node)

/-- `failLocked`. -/
def fail (err : HistoryError) (through bytes : Nat) : DeltaQueue :=
  let q : DeltaQueue :=
    { q with
      unavailable := if q.unavailable.isNone then some err else q.unavailable
      droppedBytes := q.droppedBytes + bytes }
  let q := q.dropQueued
  { q with completedSeq := if through > q.completedSeq then through else q.completedSeq }

/-- The first half of `completeNode`: the node is out of flight. Nodes are
compared by value: no two have one number. `done` says that it counts as
completed. -/
def land (node : DeltaNode) (done : Bool) : DeltaQueue :=
  if q.inFlight = some node then
    let resident := q.resident - node.residentBytes
    { q with
      inFlight := none
      resident := if resident < 0 then 0 else resident
      completedSeq := if done && decide (node.seq > q.completedSeq) then node.seq
        else q.completedSeq }
  else q

/-- `completeNode`. -/
def completeNode (node : DeltaNode) (err : Option HistoryError) : DeltaQueue :=
  match err with
  | none => q.land node true
  | some err =>
    if err.recovered then
      let q := q.land node true
      { q with
        droppedBytes := q.droppedBytes + node.sourceBytes
        gapCount := q.gapCount + 1
        epoch := q.epoch + 1 }
    else (q.land node false).fail err node.seq node.sourceBytes

/-- `completeGap`. -/
def completeGap (through : Nat) (err : Option HistoryError) : DeltaQueue :=
  let bytes := q.gapInFlightBytes
  let q : DeltaQueue := { q with gapInFlightBytes := 0, gapInFlightThrough := 0 }
  match err with
  | none =>
    { q with
      epoch := q.epoch + 1
      completedSeq := if through > q.completedSeq then through else q.completedSeq }
  | some err => q.fail err through bytes

/-- What `Flush` with this target does in this state: wait, or return. -/
def flush (target : Nat) : Option (Option HistoryError) :=
  if q.completedSeq < target ∧ q.unavailable = none ∧ q.closed = false then none
  else some q.unavailable

/-- `Close`. -/
def close : DeltaQueue := { q with closed := true }.dropQueued

end DeltaQueue

/-! ## Runs -/

/-- A callback of the worker. -/
inductive Call
  | apply (node : DeltaNode)
  | gap (bytes through : Nat)
  deriving DecidableEq, Repr

/-- How a callback returned: without error, with an error that `completeNode`
takes as recovered, or with one that ends the worker. -/
inductive Outcome
  | ok
  | recovered
  | failed
  deriving DecidableEq, Repr

/-- The outcome of `apply`. -/
def applyOutcome : Option HistoryError → Outcome
  | none => .ok
  | some err => if err.recovered then .recovered else .failed

/-- The outcome of `gap`, whose error is never a recovered one. -/
def gapOutcome : Option HistoryError → Outcome
  | none => .ok
  | some _ => .failed

/-- Where the `Run` loop stands. -/
inductive Worker
  | ready
  | idle
  | calling (call : Call)
  | finished
  deriving DecidableEq, Repr

/-- The queue, its worker, the transactions accepted and the callbacks that have
returned, in order. -/
structure DeltaState where
  queue : DeltaQueue
  worker : Worker := .ready
  accepted : List DeltaNode := []
  returned : List (Call × Outcome) := []

namespace DeltaState

variable (s : DeltaState)

/-- `Enqueue`. -/
def enqueue (tx : Transaction) (sourceBytes : Int) : DeltaState :=
  if s.queue.refuses then s
  else
    let node := s.queue.nodeFor tx sourceBytes
    { s with queue := s.queue.enqueue node, accepted := s.accepted ++ [node] }

/-- The start of `Run`. -/
def start : DeltaState :=
  if s.queue.started || s.queue.closed then s
  else { s with queue := { s.queue with started := true }, worker := .idle }

/-- `Run` calls `next` and then the callback. -/
def next : DeltaState :=
  match s.queue.next with
  | (_, .wait) => s
  | (_, .stop) => { s with worker := .finished }
  | (q, .gap bytes through) => { s with queue := q, worker := .calling (.gap bytes through) }
  | (q, .node node) => { s with queue := q, worker := .calling (.apply node) }

/-- The callback has returned: the loop goes on unless it failed. -/
def afterCall (q : DeltaQueue) (call : Call) (outcome : Outcome) : DeltaState :=
  { s with
    queue := q
    worker := if outcome = .failed then .finished else .idle
    returned := s.returned ++ [(call, outcome)] }

/-- One region of the queue. -/
inductive Step : DeltaState → DeltaState → Prop
  | enqueue {s : DeltaState} (tx : Transaction) (sourceBytes : Int) :
      Step s (s.enqueue tx sourceBytes)
  | start {s : DeltaState} : s.worker = .ready → Step s s.start
  | next {s : DeltaState} : s.worker = .idle → Step s s.next
  | completeNode {s : DeltaState} {node : DeltaNode} (err : Option HistoryError) :
      s.worker = .calling (.apply node) →
      Step s (s.afterCall (s.queue.completeNode node err) (.apply node) (applyOutcome err))
  | completeGap {s : DeltaState} {bytes through : Nat} (err : Option HistoryError) :
      s.worker = .calling (.gap bytes through) →
      Step s (s.afterCall (s.queue.completeGap through err) (.gap bytes through) (gapOutcome err))
  | sealQueue {s : DeltaState} : Step s { s with queue := { s.queue with sealed := true } }
  | close {s : DeltaState} : Step s { s with queue := s.queue.close }

/-- A new queue. -/
def initial (config : BufferConfig) : DeltaState := { queue := newDeltaQueue config }

/-- The states of all runs. -/
def Reachable (s : DeltaState) : Prop :=
  ∃ config, Relation.ReflTransGen Step (initial config) s

/-- The callbacks invoked so far: those that have returned and the running one. -/
def calls : List Call :=
  s.returned.map Prod.fst ++ match s.worker with
    | .calling call => [call]
    | _ => []

end DeltaState

end Anytty.History
