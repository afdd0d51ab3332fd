import Mathlib

/-!
# The receiving side of the data channel transport

The channel calls `handleMessage` with one message at a time; it puts a copy into the queue, waits
for room if the peer is authenticated, and closes the transport otherwise. `Recv` takes the frames
out. Both look at the queue under the lock and wait without it. The channel's close callback closes
the receiving side at any time, and drops the queue.

An interleaving is a list of events, each one critical section or one receive of a waiting
`select`; an event that is not possible changes nothing. In every interleaving the frames that
`Recv` returns are a prefix of the accepted ones and the byte count is exact. All frames come
before the end exactly if the queue is empty when the close callback runs (`recv_delivers`);
otherwise the rest is lost (`queued_frame_lost`).
-/

namespace Anytty.Transport

open List

abbrev Payload := List UInt8

def defaultReceiveQueueCapacity : Nat := 256

def maxReceiveQueuedBytes : Int := 8388608

def maxLogicalFrameSize : Nat := 4194304 + 7

inductive RecvError
  | frameTooLarge
  | receiveQueueExhausted
  /-- The queue was full for too long. -/
  | deadlineExceeded
  deriving DecidableEq

inductive Received
  | frame (frame : Payload)
  | eof
  | error (err : RecvError)
  deriving DecidableEq

/-- Where the message callback is. -/
inductive Callback
  | idle
  /-- About to take the lock. -/
  | checking (payload : Payload)
  /-- In the `select` for room in the queue. -/
  | waiting (payload : Payload)
  /-- The frame is in the queue. -/
  | notifying
  deriving DecidableEq

/-- Where the reader is. -/
inductive Reader
  | idle
  | checking
  | waiting
  /-- The frame is out of the queue. -/
  | signalling (frame : Payload)
  deriving DecidableEq

/-- The frames among the results of `Recv`. -/
def framesOf : List Received → List Payload
  | [] => []
  | .frame frame :: results => frame :: framesOf results
  | _ :: results => framesOf results

theorem framesOf_append (results more : List Received) :
    framesOf (results ++ more) = framesOf results ++ framesOf more := by
  induction results with
  | nil => rfl
  | cons result results ih =>
    cases result with
    | frame frame => exact congrArg (frame :: ·) ih
    | eof | error => exact ih

theorem framesOf_frames (frames : List Payload) : framesOf (frames.map .frame) = frames := by
  induction frames with
  | nil => rfl
  | cons frame frames ih => exact congrArg (frame :: ·) ih

theorem framesOf_end (results : List Received) (err : Option RecvError) :
    framesOf (results ++ [err.elim .eof .error]) = framesOf results := by
  rw [framesOf_append]
  cases err <;> exact append_nil _

/-- The frame that `Recv` is about to return. -/
def Reader.inHand : Reader → List Payload
  | .signalling frame => [frame]
  | _ => []

structure DataChannel where
  recvQueue : List Payload
  recvQueuedBytes : Int
  /-- `done` is closed as well. -/
  recvClosed : Bool
  recvErr : Option RecvError
  /-- The channels of capacity one. -/
  recvNotify : Bool
  recvSpace : Bool
  recvBackpressure : Bool
  callback : Callback
  reader : Reader
  /-- The frames put into the queue so far. -/
  accepted : List Payload
  /-- The results of `Recv` so far. -/
  returned : List Received

namespace DataChannel

def new : DataChannel where
  recvQueue := []
  recvQueuedBytes := 0
  recvClosed := false
  recvErr := none
  recvNotify := false
  recvSpace := false
  recvBackpressure := false
  callback := .idle
  reader := .idle
  accepted := []
  returned := []

section

variable (t : DataChannel)

def closeReceive (err : Option RecvError) : DataChannel :=
  if t.recvClosed then t
  else { t with recvClosed := true, recvErr := err, recvQueue := [], recvQueuedBytes := 0 }

/-- One turn of the loop of `handleMessage`, under the lock. -/
def handleMessage (payload : Payload) : DataChannel :=
  if t.recvClosed then { t with callback := .idle }
  else if t.recvQueue.length < defaultReceiveQueueCapacity ∧
      (payload.length : Int) ≤ maxReceiveQueuedBytes - t.recvQueuedBytes then
    { t with
      recvQueuedBytes := t.recvQueuedBytes + payload.length
      recvQueue := t.recvQueue ++ [payload]
      callback := .notifying
      accepted := t.accepted ++ [payload] }
  else if !t.recvBackpressure then
    { t.closeReceive (some .receiveQueueExhausted) with callback := .idle }
  else { t with callback := .waiting payload }

/-- One turn of the loop of `Recv`, under the lock. -/
def recv : DataChannel :=
  if t.recvClosed then
    { t with reader := .idle, returned := t.returned ++ [t.recvErr.elim .eof .error] }
  else
    match t.recvQueue with
    | [] => { t with reader := .waiting }
    | frame :: rest => { t with
        recvQueue := rest
        recvQueuedBytes := t.recvQueuedBytes - frame.length
        reader := .signalling frame }

inductive Event
  | message (payload : Payload)
  | check
  | hasSpace
  | callbackDone
  | expire
  | notify
  | close
  | enableReceiveBackpressure
  | call
  | take
  | notified
  | readerDone
  | signal

def perform (event : Event) : DataChannel :=
  match event, t.callback, t.reader with
  | .message payload, .idle, _ =>
    if maxLogicalFrameSize < payload.length then t.closeReceive (some .frameTooLarge)
    else { t with callback := .checking payload }
  | .check, .checking payload, _ => t.handleMessage payload
  | .hasSpace, .waiting payload, _ =>
    if t.recvSpace then { t with recvSpace := false, callback := .checking payload } else t
  | .callbackDone, .waiting _, _ => if t.recvClosed then { t with callback := .idle } else t
  | .expire, .waiting _, _ =>
    { t.closeReceive (some .deadlineExceeded) with callback := .idle }
  | .notify, .notifying, _ => { t with recvNotify := true, callback := .idle }
  | .close, _, _ => t.closeReceive none
  | .enableReceiveBackpressure, _, _ => { t with recvBackpressure := true }
  | .call, _, .idle => { t with reader := .checking }
  | .take, _, .checking => t.recv
  | .notified, _, .waiting =>
    if t.recvNotify then { t with recvNotify := false, reader := .checking } else t
  | .readerDone, _, .waiting => if t.recvClosed then { t with reader := .checking } else t
  | .signal, _, .signalling frame =>
    { t with recvSpace := true, reader := .idle, returned := t.returned ++ [.frame frame] }
  | _, _, _ => t

def run (events : List Event) : DataChannel := events.foldl perform t

end

/-! ### What the reader got -/

def queuedBytes (queue : List Payload) : Int := (queue.map fun frame => (frame.length : Int)).sum

/-- The invariant of the receiving side. -/
structure Delivering (t : DataChannel) : Prop where
  bytes : t.recvQueuedBytes = queuedBytes t.recvQueue
  bound : t.recvQueuedBytes ≤ maxReceiveQueuedBytes
  /-- Nothing is lost before the close, -/
  whole : t.recvClosed = false → t.accepted = framesOf t.returned ++ t.reader.inHand ++ t.recvQueue
  /-- and what is returned after it is from the beginning. -/
  initial : framesOf t.returned ++ t.reader.inHand <+: t.accepted
  unended : t.recvClosed = false → .eof ∉ t.returned
  /-- A reader that waits for a frame in the queue is about to be woken. -/
  awake : t.reader = .waiting → t.recvQueue ≠ [] → t.recvNotify = true ∨ t.callback = .notifying

variable {t : DataChannel}

theorem delivering_new : Delivering new :=
  ⟨rfl, by decide, fun _ => rfl, prefix_rfl, fun _ => nofun, nofun⟩

section

variable (h : Delivering t)
include h

theorem Delivering.closeReceive (err : Option RecvError) : Delivering (t.closeReceive err) := by
  rw [DataChannel.closeReceive]
  split
  · exact h
  · exact ⟨rfl, Int.le_of_lt (by decide : (0 : Int) < 8388608), nofun, h.initial, nofun,
      fun _ full => absurd rfl full⟩

/-- The callback goes on without a notification. -/
theorem Delivering.setCallback (quiet : t.callback ≠ .notifying) (space : Bool)
    (callback : Callback) : Delivering { t with recvSpace := space, callback := callback } :=
  { h with awake := fun waits full => .inl ((h.awake waits full).resolve_right quiet) }

/-- The reader goes on without a frame. -/
theorem Delivering.setReader (notify : Bool) {reader : Reader}
    (kept : t.reader.inHand = reader.inHand) (awake : reader ≠ .waiting) :
    Delivering { t with recvNotify := notify, reader := reader } :=
  ⟨h.bytes, h.bound, fun opened => kept ▸ h.whole opened, kept ▸ h.initial, h.unended,
    fun waits => absurd waits awake⟩

omit h in
theorem queuedBytes_append (queue : List Payload) (frame : Payload) :
    queuedBytes (queue ++ [frame]) = queuedBytes queue + frame.length := by
  rw [queuedBytes, map_append, sum_append]
  rfl

theorem Delivering.handleMessage {payload : Payload}
    (checking : t.callback = .checking payload) : Delivering (t.handleMessage payload) := by
  have quiet : t.callback ≠ .notifying := by rw [checking]; exact nofun
  rw [DataChannel.handleMessage]
  split
  · exact h.setCallback quiet t.recvSpace .idle
  next opened =>
  split
  · next room =>
    have opened : t.recvClosed = false := by simpa using opened
    have whole := h.whole opened
    refine ⟨?_, ?_, fun _ => ?_, ?_, h.unended, fun _ _ => .inr rfl⟩
    · rw [queuedBytes_append, ← h.bytes]
    · dsimp only
      omega
    · exact (congrArg (· ++ [payload]) whole).trans (List.append_assoc ..)
    · exact h.initial.trans (prefix_append ..)
  · split
    · have quiet : (t.closeReceive (some .receiveQueueExhausted)).callback ≠ .notifying := by
        rw [DataChannel.closeReceive]
        split <;> exact quiet
      exact (h.closeReceive _).setCallback quiet _ _
    · exact h.setCallback quiet t.recvSpace _

theorem Delivering.recv (checking : t.reader = .checking) : Delivering t.recv := by
  have initial := h.initial
  rw [checking] at initial
  rw [DataChannel.recv]
  split
  · next closed =>
    exact ⟨h.bytes, h.bound, fun opened => absurd (closed.symm.trans opened) nofun,
      (framesOf_end t.returned t.recvErr).symm ▸ initial,
      fun opened => absurd (closed.symm.trans opened) nofun, nofun⟩
  · next opened =>
    have whole := h.whole (by simpa using opened)
    rw [checking] at whole
    split
    · next empty =>
      exact ⟨h.bytes, h.bound, fun _ => whole, initial, h.unended, fun _ full => absurd empty full⟩
    next frame rest queue =>
    have bytes := h.bytes
    rw [queue, queuedBytes, map_cons, sum_cons] at bytes
    have whole : t.accepted = framesOf t.returned ++ [frame] ++ rest := by
      rw [whole, queue, List.append_assoc, List.append_assoc]
      rfl
    refine ⟨?_, ?_, fun _ => whole, ?_, h.unended, nofun⟩
    · rw [queuedBytes]
      dsimp only
      omega
    · have := h.bound
      dsimp only
      omega
    · exact ⟨rest, whole.symm⟩

theorem Delivering.perform (event : Event) : Delivering (t.perform event) := by
  unfold DataChannel.perform
  split
  · next idle =>
    split
    · exact h.closeReceive _
    · exact h.setCallback (by rw [idle]; exact nofun) t.recvSpace _
  · next checking => exact h.handleMessage checking
  · next waiting =>
    split
    · exact h.setCallback (by rw [waiting]; exact nofun) false _
    · exact h
  · next waiting =>
    split
    · exact h.setCallback (by rw [waiting]; exact nofun) t.recvSpace _
    · exact h
  · next waiting =>
    have quiet : (t.closeReceive (some .deadlineExceeded)).callback ≠ .notifying := by
      rw [DataChannel.closeReceive]
      split <;> exact waiting ▸ nofun
    exact (h.closeReceive _).setCallback quiet _ _
  · exact { h with awake := fun _ _ => .inl rfl }
  · exact h.closeReceive none
  · exact { h with }
  · next idle => exact h.setReader t.recvNotify (by rw [idle]; rfl) nofun
  · next checking => exact h.recv checking
  · next waiting =>
    split
    · exact h.setReader false (by rw [waiting]; rfl) nofun
    · exact h
  · next waiting =>
    split
    · exact h.setReader t.recvNotify (by rw [waiting]; rfl) nofun
    · exact h
  · next frame signalling =>
    have initial := h.initial
    have whole := h.whole
    rw [signalling] at initial whole
    have same : framesOf (t.returned ++ [.frame frame]) = framesOf t.returned ++ [frame] :=
      framesOf_append ..
    refine ⟨h.bytes, h.bound, fun opened => ?_, ?_, fun opened => ?_, nofun⟩
    · rw [same, whole opened]
      exact congrArg (· ++ t.recvQueue) (append_nil _).symm
    · rw [same]
      exact (append_nil _).symm ▸ initial
    · simpa using h.unended opened
  · exact h

theorem Delivering.run (events : List Event) : Delivering (t.run events) := by
  induction events generalizing t with
  | nil => exact h
  | cons event events ih => exact ih (h.perform event)

end

/-! ### The end -/

/-- After the close `frames` are returned, or in the reader's hand. -/
structure Drained (frames : List Payload) (t : DataChannel) : Prop where
  closed : t.recvClosed = true
  whole : frames = framesOf t.returned ++ t.reader.inHand
  ended : .eof ∈ t.returned → t.reader.inHand = []

theorem Drained.perform {frames : List Payload} (h : Drained frames t) (event : Event) :
    Drained frames (t.perform event) := by
  have stays (err : Option RecvError) : t.closeReceive err = t := if_pos h.closed
  have setReader {reader : Reader} (notify : Bool) (kept : t.reader.inHand = reader.inHand) :
      Drained frames { t with recvNotify := notify, reader := reader } :=
    ⟨h.closed, kept ▸ h.whole, kept ▸ h.ended⟩
  unfold DataChannel.perform
  split
  · split
    · exact (stays _).symm ▸ h
    · exact { h with }
  · rw [handleMessage, if_pos h.closed]
    exact { h with }
  · split
    · exact { h with }
    · exact h
  · split
    · exact { h with }
    · exact h
  · rw [stays]
    exact { h with }
  · exact { h with }
  · exact (stays _).symm ▸ h
  · exact { h with }
  · next idle => exact setReader t.recvNotify (by rw [idle]; rfl)
  · next checking =>
    have whole := h.whole
    rw [checking] at whole
    rw [recv, if_pos h.closed]
    exact ⟨h.closed, (framesOf_end t.returned t.recvErr).symm ▸ whole, fun _ => rfl⟩
  · next waiting =>
    split
    · exact setReader false (by rw [waiting]; rfl)
    · exact h
  · next waiting =>
    split
    · exact setReader t.recvNotify (by rw [waiting]; rfl)
    · exact h
  · next frame signalling =>
    have whole := h.whole
    rw [signalling] at whole
    refine ⟨h.closed, ?_, fun _ => rfl⟩
    rw [framesOf_append]
    exact whole.trans (append_nil _).symm
  · exact h

theorem Drained.run {frames : List Payload} (h : Drained frames t) (events : List Event) :
    Drained frames (t.run events) := by
  induction events generalizing t with
  | nil => exact h
  | cons event events ih => exact ih (h.perform event)

/-- A reader sees the end soon after the close. -/
theorem run_to_end (closed : t.recvClosed = true) (normal : t.recvErr = none) :
    (t.run [.signal, .call, .readerDone, .take]).returned =
      t.returned ++ t.reader.inHand.map .frame ++ [.eof] := by
  cases reader : t.reader with
  | idle | checking | waiting | signalling frame =>
    simp [run, perform, recv, reader, closed, normal, Reader.inHand]

/-- Every frame accepted before the close callback is returned before the end. -/
def Drains (t : DataChannel) : Prop :=
  ∀ events, .eof ∈ ((t.perform .close).run events).returned →
    framesOf ((t.perform .close).run events).returned = t.accepted

theorem drains_iff (h : Delivering t) (opened : t.recvClosed = false) :
    Drains t ↔ t.recvQueue = [] := by
  have whole := h.whole opened
  have close : t.perform .close =
      { t with recvClosed := true, recvErr := none, recvQueue := [], recvQueuedBytes := 0 } :=
    if_neg (by simp [opened])
  constructor
  · intro drains
    have ended := run_to_end (t := t.perform .close) (by rw [close]) (by rw [close])
    have all := drains [.signal, .call, .readerDone, .take] (by simp [ended])
    rw [ended, close, framesOf_append, framesOf_append, framesOf_frames, whole] at all
    exact (append_cancel_left all).symm
  · intro empty events ended
    rw [empty, append_nil] at whole
    have drained : Drained t.accepted (t.perform .close) := by
      rw [close]
      exact ⟨rfl, whole, fun mem => absurd mem (h.unended opened)⟩
    have after := drained.run events
    rw [after.whole, after.ended ended, append_nil]

/-- The frames that `Recv` returns are a prefix of those accepted, the bytes of the queue are
counted exactly and bounded, and a waiting reader is woken. All frames come before the end if and
only if the queue is empty when the close callback runs. -/
theorem recv_delivers (events : List Event) :
    framesOf (new.run events).returned <+: (new.run events).accepted ∧
      (new.run events).recvQueuedBytes = queuedBytes (new.run events).recvQueue ∧
      (new.run events).recvQueuedBytes ≤ maxReceiveQueuedBytes ∧
      ((new.run events).reader = .waiting → (new.run events).recvQueue ≠ [] →
        (new.run events).recvNotify = true ∨ (new.run events).callback = .notifying) ∧
      ((new.run events).recvClosed = false →
        (Drains (new.run events) ↔ (new.run events).recvQueue = [])) := by
  have h := delivering_new.run events
  exact ⟨(prefix_append ..).trans h.initial, h.bytes, h.bound, h.awake, drains_iff h⟩

/-- The peer sends one frame and closes; `Recv` returns the end. -/
theorem queued_frame_lost :
    ¬ Drains (new.run [.message [1], .check, .notify]) ∧
      (new.run [.message [1], .check, .notify, .close, .call, .take]).accepted = [[1]] ∧
      (new.run [.message [1], .check, .notify, .close, .call, .take]).returned = [.eof] := by
  refine ⟨fun drains => ?_, by decide, by decide⟩
  exact absurd (drains [.call, .take] (by decide)) (by decide)

end DataChannel

end Anytty.Transport
