import Mathlib

/-!
# The terminal output buffer

`terminalOutputBuffer` is one queue of PTY payload nodes shared by two
consumers, the live screen and the history. A node says, with one bit per
consumer, who still has to read it, and it is unlinked when nobody has. This
file has the buffer's state and what each region under `buffer.mu` does to it.

* The linked list is the list of its nodes. A node pointer is the node's
  sequence number: numbers are never reused.
* The regions are pure functions. Those that unlink nodes also return the
  number of bytes the caller then releases to the shared budget.
* Byte counters and sequence numbers are unbounded. `resident` is signed, as
  in the source.
* Waiting, wake-ups, the wait-time counters and the channels that only announce
  an end (`done`, `closedCh`) are left out: no decision below reads them.
-/

namespace Anytty.Output

open Function

/-- `terminalOutputConsumer`. -/
inductive Consumer
  | live
  | history
  deriving DecidableEq, Repr

/-- `TerminalOutputOverflowPolicy`: the two policies, the empty string and any
other text. -/
inductive OverflowPolicy
  | drop
  | block
  | unset
  | other
  deriving DecidableEq, Repr

/-- `TerminalOutputBufferConfig`. -/
structure BufferConfig where
  capacityBytes : Int
  overflow : OverflowPolicy
  deriving DecidableEq, Repr

/-- `terminalOutputChunkBytes`. -/
def chunkBytes : Nat := 16 * 1024

/-- `MinTerminalOutputBufferCapacityBytes`. -/
def minCapacityBytes : Int := 64 * 1024

/-- `MaxTerminalOutputBufferCapacityBytes`. -/
def maxCapacityBytes : Int := 256 * 1024 * 1024

/-- `DefaultTerminalOutputBufferConfig`. -/
def BufferConfig.default : BufferConfig := ⟨32 * 1024 * 1024, .block⟩

/-- `TerminalOutputBufferConfig.Validate` returns nil. -/
def BufferConfig.Valid (cfg : BufferConfig) : Prop :=
  minCapacityBytes ≤ cfg.capacityBytes ∧ cfg.capacityBytes ≤ maxCapacityBytes ∧
    (cfg.overflow = .drop ∨ cfg.overflow = .block)

instance (cfg : BufferConfig) : Decidable cfg.Valid := by
  unfold BufferConfig.Valid; infer_instance

/-- The zero fields replaced by the defaults. -/
def BufferConfig.filled (cfg : BufferConfig) : BufferConfig :=
  { capacityBytes :=
      if cfg.capacityBytes = 0 then default.capacityBytes else cfg.capacityBytes
    overflow := if cfg.overflow = .unset then default.overflow else cfg.overflow }

/-- `TerminalOutputBufferConfig.normalized`. -/
def BufferConfig.normalized (cfg : BufferConfig) : BufferConfig :=
  if cfg.filled.Valid then cfg.filled else default

/-- A normalized configuration is valid, whatever it was made from. -/
theorem BufferConfig.normalized_valid (cfg : BufferConfig) : cfg.normalized.Valid := by
  unfold normalized
  split
  · next h => exact h
  · decide

/-- A chunk of accepted output with the number it was given. -/
structure Chunk where
  seq : Nat
  payload : List UInt8
  deriving DecidableEq, Repr

/-- `terminalOutputNode`. `pending` is the bit mask, read per consumer. -/
structure OutputNode extends Chunk where
  pending : Consumer → Bool

/-- `terminalOutputGap`. -/
structure OutputGap where
  consumer : Consumer
  epoch : Nat
  droppedBytes : Nat
  throughSeq : Nat
  deriving DecidableEq, Repr

/-- `terminalOutputBatch`. -/
structure OutputBatch where
  first : Nat
  last : Nat
  payload : List UInt8
  deriving DecidableEq, Repr

/-- `TerminalOutputError`. `cause` stands for the callback's error. -/
structure OutputError where
  consumer : Consumer
  epoch : Nat
  droppedBytes : Nat
  cause : String
  deriving DecidableEq, Repr

/-- `terminalOutputConsumerState`. -/
structure ConsumerState where
  active : Bool
  started : Bool := false
  next : Option Nat := none
  inFlight : Option Nat := none
  inFlightLast : Option Nat := none
  gapInFlight : Option OutputGap := none
  completedSeq : Nat := 0
  pendingGapBytes : Nat := 0
  pendingGapSeq : Nat := 0
  epoch : Nat := 0
  droppedBytes : Nat := 0
  gapCount : Nat := 0
  unavailable : Option OutputError := none
  failurePending : Bool := false

/-- `terminalOutputBuffer`. -/
structure OutputBuffer where
  config : BufferConfig
  nodes : List OutputNode := []
  resident : Int := 0
  nextSeq : Nat := 0
  closed : Bool := false
  sealed : Bool := false
  consumers : Consumer → ConsumerState

/-- `newTerminalOutputBuffer`, without the registration with the budget. -/
def newOutputBuffer (config : BufferConfig) (historyEnabled : Bool) : OutputBuffer :=
  { config := config.normalized
    consumers := fun
      | .live => { active := true }
      | .history => { active := historyEnabled } }

/-! ## Nodes -/

section

variable (nodes : List OutputNode)

/-- The payload bytes held by a list of nodes. -/
def linkedBytes : Nat :=
  (nodes.map (·.payload.length)).sum

/-- Clear one consumer's bit. -/
def OutputNode.clear (node : OutputNode) (c : Consumer) : OutputNode :=
  { node with pending := update node.pending c false }

/-- `node.pending != 0`. -/
def OutputNode.hasPending (node : OutputNode) : Bool :=
  node.pending .live || node.pending .history

/-- The list before the node `p` points to; the whole list for nil. -/
def nodesBefore : Option Nat → List OutputNode
  | none => nodes
  | some p => nodes.takeWhile (·.seq != p)

/-- The list from the node `p` points to. -/
def nodesFrom : Option Nat → List OutputNode
  | none => []
  | some p => nodes.dropWhile (·.seq != p)

/-- `nextPendingNodeLocked`. -/
def nextPendingNode (c : Consumer) (nodes : List OutputNode) : Option Nat :=
  (nodes.find? (·.pending c)).map (·.seq)

/-- The walk of `outputNodeInFlightLocked`: the target is met no later than the
last node of the batch. -/
def metBy (last : Option Nat) (target : Nat) : List OutputNode → Bool
  | [] => false
  | node :: rest =>
    if node.seq = target then true
    else if some node.seq = last then false
    else metBy last target rest

/-- `outputNodeInFlightLocked`. The walk reads the links only, so it is given
the list as it was before bits were cleared in it. -/
def outputNodeInFlight (st : ConsumerState) (target : Nat) : Bool :=
  metBy st.inFlightLast target (nodesFrom nodes st.inFlight)

end

/-- `addGapLocked`. -/
def addGap (st : ConsumerState) (throughSeq bytes : Nat) : ConsumerState :=
  if bytes = 0 then st
  else
    { st with
      gapCount := if st.pendingGapBytes = 0 then st.gapCount + 1 else st.gapCount
      pendingGapBytes := st.pendingGapBytes + bytes
      pendingGapSeq := if throughSeq > st.pendingGapSeq then throughSeq else st.pendingGapSeq
      droppedBytes := st.droppedBytes + bytes }

/-- The consumer is handed a new payload, and not a gap over it. -/
def ConsumerState.takesPayload (st : ConsumerState) : Bool :=
  st.active && !(decide (st.pendingGapBytes > 0) || st.gapInFlight.isSome)

/-- An idle consumer without a next node is pointed at a new one. -/
def ConsumerState.pointAt (st : ConsumerState) (seq : Nat) : ConsumerState :=
  if st.next.isNone && st.inFlight.isNone then { st with next := some seq } else st

namespace OutputBuffer

variable (b : OutputBuffer)

/-- Store one consumer's state. -/
@[simps -fullyApplied]
def setConsumer (c : Consumer) (st : ConsumerState) : OutputBuffer :=
  { b with consumers := update b.consumers c st }

/-- `state.next = nil`. -/
def clearNext (c : Consumer) : OutputBuffer :=
  b.setConsumer c { b.consumers c with next := none }

/-- `state.active = false`. -/
def deactivate (c : Consumer) : OutputBuffer :=
  b.setConsumer c { b.consumers c with active := false }

/-- `hasActiveConsumerLocked`. -/
def hasActiveConsumer : Bool := (b.consumers .live).active || (b.consumers .history).active

/-- `reclaimLocked`: unlink the nodes nobody waits for. Returns the bytes freed. -/
def reclaim : OutputBuffer × Int :=
  let freed : Int := linkedBytes (b.nodes.filter (!·.hasPending))
  ({ b with nodes := b.nodes.filter (·.hasPending), resident := b.resident - freed }, freed)

/-! ## Drops -/

/-- The body of `dropOldestLocked`'s inner loop for one consumer, at a node
whose successors are `rest`: the node's new bit and the consumer's new state. -/
def dropNodeFor (nodes : List OutputNode) (node : OutputNode) (rest : List OutputNode)
    (c : Consumer) (st : ConsumerState) : Bool × ConsumerState :=
  if !node.pending c || outputNodeInFlight nodes st node.seq then (node.pending c, st)
  else
    let st := addGap st node.seq node.payload.length
    (false, if st.next = some node.seq then { st with next := nextPendingNode c rest } else st)

/-- The outer loop of `dropOldestLocked`. `potential` counts the bytes of the
nodes that reclaiming will unlink. -/
def dropOldestLoop (nodes : List OutputNode) (required : Int) :
    Int → List OutputNode → (Consumer → ConsumerState) →
      List OutputNode × (Consumer → ConsumerState)
  | _, [], states => ([], states)
  | potential, node :: rest, states =>
    if potential < required then
      let node' :=
        { node with pending := fun c => (dropNodeFor nodes node rest c (states c)).1 }
      let states' := fun c => (dropNodeFor nodes node rest c (states c)).2
      let potential' := if node'.hasPending then potential else potential + node.payload.length
      let r := dropOldestLoop nodes required potential' rest states'
      (node' :: r.1, r.2)
    else (node :: rest, states)

/-- `dropOldestLocked`. -/
def dropOldest (required : Int) : OutputBuffer × Int :=
  if required ≤ 0 then (b, 0)
  else
    let r := dropOldestLoop b.nodes required 0 b.nodes b.consumers
    let after := ({ b with nodes := r.1, consumers := r.2 } : OutputBuffer).reclaim.1
    (after, b.resident - after.resident)

/-- The loop that turns everything queued for one consumer into a gap. The
source has it three times: in `dropIncomingLocked`,
`dropQueuedForConsumerLocked` and `Close`. -/
def dropQueuedLoop (nodes : List OutputNode) (c : Consumer) :
    List OutputNode → ConsumerState → List OutputNode × ConsumerState
  | [], st => ([], st)
  | node :: rest, st =>
    if outputNodeInFlight nodes st node.seq || !node.pending c then
      let r := dropQueuedLoop nodes c rest st
      (node :: r.1, r.2)
    else
      let r := dropQueuedLoop nodes c rest (addGap st node.seq node.payload.length)
      (node.clear c :: r.1, r.2)

/-- That loop over the whole list. -/
def dropQueued (c : Consumer) : OutputBuffer :=
  let r := dropQueuedLoop b.nodes c b.nodes (b.consumers c)
  { b with nodes := r.1, consumers := update b.consumers c r.2 }

/-- `dropQueuedForConsumerLocked`. -/
def dropQueuedForConsumer (c : Consumer) : OutputBuffer :=
  let b := b.dropQueued c
  if (b.consumers c).inFlight = none then b.clearNext c else b

/-- The body of `dropIncomingLocked`'s loop. -/
def dropIncomingFor (seq bytes : Nat) (c : Consumer) : OutputBuffer :=
  if !(b.consumers c).active then b
  else
    let b := (b.dropQueued c).clearNext c
    b.setConsumer c (addGap (b.consumers c) seq bytes)

/-- `dropIncomingLocked`. -/
def dropIncoming (bytes : Nat) : OutputBuffer × Int :=
  let seq := b.nextSeq + 1
  let b : OutputBuffer := { b with nextSeq := seq }
  ((b.dropIncomingFor seq bytes .live).dropIncomingFor seq bytes .history).reclaim

/-! ## Appending -/

/-- The body of `writeChunk`'s loop over the consumers, for one that is not
handed the payload `seq` of `bytes` bytes. -/
def gapFor (seq bytes : Nat) (c : Consumer) : OutputBuffer :=
  if !(b.consumers c).active || (b.consumers c).takesPayload then b
  else
    let b := b.dropQueuedForConsumer c
    b.setConsumer c (addGap (b.consumers c) seq bytes)

/-- The start of `writeChunk`'s last region: number the payload and turn it
into a gap for the consumers that lost something before it. -/
def number (payload : List UInt8) : OutputBuffer × Int :=
  let seq := b.nextSeq + 1
  let b : OutputBuffer := { b with nextSeq := seq }
  ((b.gapFor seq payload.length .live).gapFor seq payload.length .history).reclaim

/-- Link the node at the tail and point idle consumers at it. -/
def link (node : OutputNode) : OutputBuffer :=
  { b with
    nodes := b.nodes ++ [node]
    resident := b.resident + node.payload.length
    consumers := fun c => if node.pending c then (b.consumers c).pointAt node.seq else b.consumers c }

/-- `writeChunk` after the reservation, in a buffer that is neither closed nor
sealed. Returns the bytes to release. The mask is read before the loop: the
loop at one consumer does not change another's state. -/
def append (payload : List UInt8) : OutputBuffer × Int :=
  let mask := fun c => (b.consumers c).takesPayload
  let (after, freed) := b.number payload
  let node : OutputNode := { seq := b.nextSeq + 1, payload := payload, pending := mask }
  if node.hasPending then (after.link node, freed)
  else (after, payload.length + freed)

/-! ## Consuming -/

/-- The nodes `next` adds to the batch after its first node, whose successors
these are, while the total stays within one chunk. -/
def gather (c : Consumer) : Nat → List OutputNode → List OutputNode
  | _, [] => []
  | total, node :: rest =>
    if node.pending c then
      if total + node.payload.length ≤ chunkBytes then
        node :: gather c (total + node.payload.length) rest
      else []
    else gather c total rest

/-- What `next` returns: nothing yet, the end, a gap or a batch. -/
inductive Next
  | wait
  | stop
  | gap (g : OutputGap)
  | batch (batch : OutputBatch)

/-- The gap `next` hands over. -/
def pendingGap (c : Consumer) : OutputGap :=
  { consumer := c, epoch := (b.consumers c).epoch + 1,
    droppedBytes := (b.consumers c).pendingGapBytes,
    throughSeq := (b.consumers c).pendingGapSeq }

/-- The batch `next` builds from a first node and the nodes gathered behind it. -/
def batchOf (first : OutputNode) (more : List OutputNode) : OutputBatch :=
  { first := first.seq
    last := ((first :: more).getLast (by simp)).seq
    payload := (first :: more).flatMap (·.payload) }

/-- `next`. -/
def next (c : Consumer) : OutputBuffer × Next :=
  let st := b.consumers c
  if st.active && st.pendingGapBytes == 0 && st.next.isNone && !b.sealed && !b.closed then
    (b, .wait)
  else if !st.active || b.closed then (b, .stop)
  else if st.pendingGapBytes > 0 then
    let gap := b.pendingGap c
    (b.setConsumer c
      { st with pendingGapBytes := 0, pendingGapSeq := 0, gapInFlight := some gap }, .gap gap)
  else
    match nodesFrom b.nodes st.next with
    | [] => (b, .stop)
    | first :: rest =>
      let batch := batchOf first (gather c first.payload.length rest)
      (b.setConsumer c
        { st with inFlight := some batch.first, inFlightLast := some batch.last }, .batch batch)

/-- The loop of `completeBatch`, from a node it visits or steps over: the bits
up to the last node of the batch are cleared. The number is `completedSeq`. -/
def completeLoop (c : Consumer) (last : Nat) :
    Nat → List OutputNode → List OutputNode × Nat
  | completed, [] => ([], completed)
  | completed, node :: rest =>
    if node.pending c then
      let completed := if node.seq > completed then node.seq else completed
      if node.seq = last then (node.clear c :: rest, completed)
      else
        let r := completeLoop c last completed rest
        (node.clear c :: r.1, r.2)
    else
      let r := completeLoop c last completed rest
      (node :: r.1, r.2)

/-- `releaseConsumerLocked` over the list from its start node: the bits are
cleared and the bytes counted. -/
def releaseLoop (c : Consumer) : List OutputNode → List OutputNode × Nat
  | [] => ([], 0)
  | node :: rest =>
    let r := releaseLoop c rest
    if node.pending c then (node.clear c :: r.1, node.payload.length + r.2)
    else (node :: r.1, r.2)

section

variable (c : Consumer)

/-- What both completions do when the callback failed: the consumer is given up
with everything still queued for it. `dropped` is what it lost before, and
`epoch` the epoch of the error. -/
def fail (epoch dropped : Nat) (cause : String) (failurePending : Bool) : OutputBuffer :=
  let st := b.consumers c
  let r := releaseLoop c (nodesFrom b.nodes st.next)
  { b with
    nodes := nodesBefore b.nodes st.next ++ r.1
    consumers := update b.consumers c
      { st with
        pendingGapBytes := 0
        pendingGapSeq := 0
        droppedBytes := st.droppedBytes + r.2
        unavailable := some ⟨c, epoch, dropped + st.pendingGapBytes + r.2, cause⟩
        failurePending := failurePending
        active := false
        next := none } }

/-- `completeBatch` up to the treatment of the ingest error. The first node is
visited whether its bit is set or not. -/
def finishBatch (batch : OutputBatch) : OutputBuffer :=
  let st := b.consumers c
  let fromFirst := nodesFrom b.nodes (some batch.first)
  let r :=
    if batch.first = batch.last && !fromFirst.any (fun n => n.seq == batch.first && n.pending c)
    then (fromFirst, st.completedSeq)
    else completeLoop c batch.last st.completedSeq fromFirst
  let nodes := nodesBefore b.nodes (some batch.first) ++ r.1
  { b with
    nodes := nodes
    consumers := update b.consumers c
      { st with
        inFlight := none
        inFlightLast := none
        completedSeq := r.2
        next := nextPendingNode c (nodesFrom nodes (some batch.last)).tail } }

/-- The failed batch of `n` bytes is counted as dropped. -/
def countFailed (n : Nat) : OutputBuffer :=
  let st := b.consumers c
  b.setConsumer c
    { st with
      droppedBytes := st.droppedBytes + n
      gapCount := if st.pendingGapBytes = 0 then st.gapCount + 1 else st.gapCount }

/-- `completeBatch`. `err` is the ingest error. -/
def completeBatch (batch : OutputBatch) (err : Option String)
    (failurePending : Bool) : OutputBuffer × Int :=
  if (b.consumers c).inFlight ≠ some batch.first ∨
      (b.consumers c).inFlightLast ≠ some batch.last then (b, 0)
  else
    let b := b.finishBatch c batch
    match err with
    | none => b.reclaim
    | some cause =>
      let b := b.countFailed c batch.payload.length
      (b.fail c ((b.consumers c).epoch + 1) batch.payload.length cause failurePending).reclaim

/-- `completeGap`. `err` is the error of the gap callback. The source compares
gap pointers; a consumer has one gap in flight. -/
def completeGap (gap : OutputGap) (err : Option String)
    (failurePending : Bool) : OutputBuffer × Int :=
  if (b.consumers c).gapInFlight ≠ some gap then (b, 0)
  else
    let b := b.setConsumer c { b.consumers c with gapInFlight := none }
    match err with
    | none =>
      let st := b.consumers c
      (b.setConsumer c
        { st with
          epoch := gap.epoch
          completedSeq :=
            if gap.throughSeq > st.completedSeq then gap.throughSeq else st.completedSeq }).reclaim
    | some cause => (b.fail c gap.epoch gap.droppedBytes cause failurePending).reclaim

/-- `completeFailureHandling`. -/
def completeFailureHandling : OutputBuffer :=
  b.setConsumer c { b.consumers c with failurePending := false }

/-! ## Ending -/

/-- The first region of `run`: whether this call consumes. -/
def start : OutputBuffer × Bool :=
  let st := b.consumers c
  if st.started then (b, false)
  else if !st.active || b.closed then (b, false)
  else (b.setConsumer c { st with started := true }, true)

end

/-- `Seal`. -/
def sealBuffer : OutputBuffer := { b with sealed := true }

/-- The body of `Close`'s loop. -/
def closeFor (c : Consumer) : OutputBuffer :=
  (if (b.consumers c).active then (b.dropQueued c).clearNext c else b).deactivate c

/-- `Close` on a buffer that is not closed. Returns the bytes to release. -/
def close : OutputBuffer × Int :=
  let b : OutputBuffer := { b with closed := true }
  ((b.closeFor .live).closeFor .history).reclaim

end OutputBuffer

end Anytty.Output
