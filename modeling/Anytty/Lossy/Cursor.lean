import Mathlib

/-!
# Lossy cursors

One consumer of an ordered stream that is allowed to lose items, as long as it
is told where. A cursor has handed its consumer a list of events, has lost
items it did not report yet, and still holds a queue. Everything it was ever
offered is `stream`, and `stream` is fixed by what the cursor handed over, lost
and holds, in that order. So an operation that leaves `stream` alone loses
nothing, repeats nothing and reorders nothing.

The file is about items of any type. A concrete queue is related to a cursor
and each of its operations is matched by one of the operations below.
-/

namespace Anytty.Lossy

variable {ι : Type*}

/-- What a consumer is handed: items, or the notice that items were lost. The
lost items are recorded so that the events cover the stream. -/
inductive Event (ι : Type*)
  | delivered (items : List ι)
  | gap (items : List ι)

/-- The part of the stream an event accounts for. -/
def Event.items : Event ι → List ι
  | .delivered xs | .gap xs => xs

/-- The items an event reports as lost. -/
def Event.lost : Event ι → List ι
  | .delivered _ => []
  | .gap xs => xs

/-- A consumer's place in the stream. `flight` is the batch it is working on,
which is the last thing it was handed. -/
structure Cursor (ι : Type*) where
  handed : List (Event ι)
  lost : List ι
  flight : List ι
  queue : List ι
  flight_handed : flight ≠ [] → handed.getLast? = some (.delivered flight)

namespace Cursor

variable (k : Cursor ι)

/-- Nothing offered, nothing handed over. -/
def empty : Cursor ι := ⟨[], [], [], [], by simp⟩

/-- Everything the cursor was offered, in order. -/
def stream : List ι := k.handed.flatMap Event.items ++ k.lost ++ k.queue

/-- Everything the cursor lost, reported or not, in order. -/
def allLost : List ι := k.handed.flatMap Event.lost ++ k.lost

/-- Queue one more item. -/
def offer (x : ι) : Cursor ι := { k with queue := k.queue ++ [x] }

/-- Lose the `n` oldest queued items. -/
def lose (n : Nat) : Cursor ι :=
  { k with lost := k.lost ++ k.queue.take n, queue := k.queue.drop n }

/-- Lose the whole queue. -/
def loseAll : Cursor ι := k.lose k.queue.length

/-- Lose the whole queue and the item that arrives behind it. -/
def skip (x : ι) : Cursor ι := { k with lost := k.lost ++ k.queue ++ [x], queue := [] }

/-- Report the losses. The batch before is complete. -/
def handGap : Cursor ι :=
  { handed := k.handed ++ [.gap k.lost], lost := [], flight := [], queue := k.queue,
    flight_handed := by simp }

/-- Hand over the `n` oldest queued items. The batch before is complete. -/
def handBatch (n : Nat) : Cursor ι :=
  { handed := k.handed ++ [.delivered (k.queue.take n)], lost := k.lost,
    flight := k.queue.take n, queue := k.queue.drop n,
    flight_handed := by simp }

/-- The consumer is done with its batch. -/
def complete : Cursor ι := { k with flight := [], flight_handed := by simp }

/-- The consumer gave up: nothing is held for it any more. -/
def abandon : Cursor ι := { k with flight := [], queue := [], flight_handed := by simp }

@[simp] theorem lose_zero : k.lose 0 = k := by
  simp [lose]

@[simp] theorem loseAll_queue : k.loseAll.queue = [] := by
  simp [loseAll, lose]

theorem loseAll_of_queue_nil {k : Cursor ι} (h : k.queue = []) : k.loseAll = k := by
  cases k
  simp_all [loseAll, lose]

/-- Skipping an item is losing the queue and then the item. -/
theorem skip_lost (x : ι) : (k.skip x).lost = k.loseAll.lost ++ [x] := by
  simp [skip, loseAll, lose]

@[simp] theorem stream_empty : (empty : Cursor ι).stream = [] := rfl

@[simp] theorem allLost_empty : (empty : Cursor ι).allLost = [] := rfl

@[simp] theorem stream_offer (x : ι) : (k.offer x).stream = k.stream ++ [x] := by
  simp [stream, offer]

@[simp] theorem stream_lose (n : Nat) : (k.lose n).stream = k.stream := by
  simp [stream, lose]

@[simp] theorem stream_loseAll : k.loseAll.stream = k.stream := k.stream_lose _

@[simp] theorem stream_skip (x : ι) : (k.skip x).stream = k.stream ++ [x] := by
  simp [stream, skip]

@[simp] theorem stream_handGap : k.handGap.stream = k.stream := by
  simp [stream, handGap, Event.items]

/-- A batch may be handed over only when no loss is waiting to be reported:
otherwise the items would overtake the loss. What an item counts for is `f`. -/
theorem flatMap_stream_handBatch {k : Cursor ι} {β : Type*} {f : ι → List β}
    (h : k.lost.flatMap f = []) (n : Nat) :
    (k.handBatch n).stream.flatMap f = k.stream.flatMap f := by
  have hqueue : (k.queue.take n).flatMap f ++ (k.queue.drop n).flatMap f = k.queue.flatMap f := by
    rw [← List.flatMap_append, List.take_append_drop]
  simp [stream, handBatch, Event.items, h, ← hqueue]

theorem stream_handBatch {k : Cursor ι} (h : k.lost = []) (n : Nat) :
    (k.handBatch n).stream = k.stream := by
  simp [stream, handBatch, Event.items, h]

@[simp] theorem stream_complete : k.complete.stream = k.stream := rfl

@[simp] theorem allLost_offer (x : ι) : (k.offer x).allLost = k.allLost := rfl

@[simp] theorem allLost_lose (n : Nat) : (k.lose n).allLost = k.allLost ++ k.queue.take n := by
  simp [allLost, lose]

@[simp] theorem allLost_skip (x : ι) : (k.skip x).allLost = k.allLost ++ k.queue ++ [x] := by
  simp [allLost, skip]

@[simp] theorem allLost_handGap : k.handGap.allLost = k.allLost := by
  simp [allLost, handGap, Event.lost]

@[simp] theorem allLost_handBatch (n : Nat) : (k.handBatch n).allLost = k.allLost := by
  simp [allLost, handBatch, Event.lost]

@[simp] theorem allLost_complete : k.complete.allLost = k.allLost := rfl

end Cursor

end Anytty.Lossy
