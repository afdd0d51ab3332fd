import Mathlib

/-!
# The streams of the protocol client

A `clientStream` queues the frames of one channel for its consumer. Its goroutine
`run` takes them out one by one and puts them on the Go channel `ch`. A stream that
has no room left drops frames: PTY output turns into one `SyncLost` frame at the
end, anything else ends the stream with an error frame. These two are the only
frames the client makes itself; they do not count as frames of the peer.

`line` is the sequence of the peer's frames in a stream, delivered or not. Every
operation only appends to it or drops from it.
-/

namespace Anytty.Client

open List

abbrev Bytes := List UInt8

namespace Wire

def typeError : UInt8 := 0x04
def typeStreamReady : UInt8 := 0x15
def typeSyncLost : UInt8 := 0x16
def typeClosed : UInt8 := 0x17
def typePTYOutput : UInt8 := 0x1a
def typeFileData : UInt8 := 0x21
def typeFileAck : UInt8 := 0x22
def typeFileFinish : UInt8 := 0x23
def typeFileResult : UInt8 := 0x24
def typeBrowserData : UInt8 := 0x31
def typeBrowserClosed : UInt8 := 0x32

/-- Four bytes, the highest first. -/
def encodeSyncLostPayload (dropped : Nat) : Bytes :=
  [UInt8.ofNat (dropped / 2 ^ 24), UInt8.ofNat (dropped / 2 ^ 16), UInt8.ofNat (dropped / 2 ^ 8),
    UInt8.ofNat dropped]

end Wire

/-- A frame of a stream. `number` is its position among all frames the transport
delivered; the source has no such field. -/
structure StreamFrame where
  number : Nat
  typ : UInt8
  payload : Bytes
deriving DecidableEq, Repr

structure RetainedStreamFrame where
  frame : StreamFrame
  payloadBytes : Nat
  /-- False for the frames the client makes itself. -/
  countsAsFrame : Bool
deriving DecidableEq, Repr

structure StreamPayloadBudget where
  limit : Nat
  retained : Nat
deriving DecidableEq, Repr

namespace StreamPayloadBudget

def reserve (b : StreamPayloadBudget) (size : Nat) : Option StreamPayloadBudget :=
  if size = 0 then some b
  else if b.limit < b.retained + size then none
  else some { b with retained := b.retained + size }

def release (b : StreamPayloadBudget) (size : Nat) : StreamPayloadBudget :=
  { b with retained := b.retained - size }

end StreamPayloadBudget

def maxClientStreamPayloadBytes : Nat := 8 * 2 ^ 20
def maxClientPayloadBytes : Nat := 64 * 2 ^ 20

inductive ErrorCode
  | badRequest
  | resourceExhausted
deriving DecidableEq, Repr

/-- `EncodeErrorPayload`; `none` when the message cannot be encoded. -/
abbrev ErrorEncoder := ErrorCode → String → Option Bytes

/-- The goroutine of a stream: between two frames, with a frame in hand, with a frame it has
delivered and not yet released, or gone. -/
inductive Runner
  | idle
  | holding (frame : RetainedStreamFrame)
  | releasing (frame : RetainedStreamFrame)
  | returned
deriving DecidableEq, Repr

/-- A stream, with the frames its Go channel has delivered so far. -/
structure ClientStream where
  channel : Nat
  queue : List RetainedStreamFrame
  queueLimit : Nat
  retainedFrames : Nat
  payloadBudget : StreamPayloadBudget
  closed : Bool
  rawOverflow : Bool
  rawSyncLostSent : Bool
  rawDroppedBytes : Nat
  terminalAfterQueue : Bool
  runner : Runner
  delivered : List RetainedStreamFrame
deriving DecidableEq, Repr

/-- `newClientStreamWithSharedBudget`. -/
def newClientStream (channel : Nat) : ClientStream where
  channel := channel
  queue := []
  queueLimit := 256
  retainedFrames := 0
  payloadBudget := ⟨maxClientStreamPayloadBytes, 0⟩
  closed := false
  rawOverflow := false
  rawSyncLostSent := false
  rawDroppedBytes := 0
  terminalAfterQueue := false
  runner := .idle
  delivered := []

/-- A stream and the payload budget it shares with the others. -/
abbrev Shared := ClientStream × StreamPayloadBudget

namespace ClientStream

/-- Count dropped bytes, up to the largest number a `SyncLost` frame can carry. -/
def addRawDroppedBytesLocked (s : ClientStream) (count : Nat) : ClientStream :=
  { s with rawDroppedBytes := min (s.rawDroppedBytes + count) (2 ^ 32 - 1) }

section

variable (s : ClientStream) (shared : StreamPayloadBudget)

/-- Reserve in both budgets or in none. -/
def reservePayloadLocked (size : Nat) : Option Shared :=
  match s.payloadBudget.reserve size with
  | none => none
  | some own =>
    match shared.reserve size with
    | none => none
    | some shared => some ({ s with payloadBudget := own }, shared)

/-- A retained frame leaves the stream. -/
def releaseFrame (frame : RetainedStreamFrame) : Shared :=
  if frame.countsAsFrame then
    ({ s with retainedFrames := s.retainedFrames - 1,
              payloadBudget := s.payloadBudget.release frame.payloadBytes },
      shared.release frame.payloadBytes)
  else (s, shared)

def resetQueueLocked : Shared :=
  let released := s.queue.foldl (fun acc frame => acc.1.releaseFrame acc.2 frame) (s, shared)
  ({ released.1 with queue := [] }, released.2)

end

section

variable (encode : ErrorEncoder) (s : ClientStream) (shared : StreamPayloadBudget)

def failLocked (code : ErrorCode) (message : String) : Shared :=
  let (s, shared) := s.resetQueueLocked shared
  match encode code message with
  | none => ({ s with closed := true }, shared)
  | some payload =>
    ({ s with queue := [⟨⟨0, Wire.typeError, payload⟩, 0, false⟩], terminalAfterQueue := true },
      shared)

def overflowLocked (frame : StreamFrame) (message : String) : Shared :=
  if frame.typ = Wire.typePTYOutput then
    ({ s with rawOverflow := true }.addRawDroppedBytesLocked frame.payload.length, shared)
  else s.failLocked encode shared .resourceExhausted message

def send (frame : StreamFrame) : Shared :=
  if s.closed || s.rawSyncLostSent then (s, shared)
  else if s.rawOverflow then
    if frame.typ = Wire.typePTYOutput then
      (s.addRawDroppedBytesLocked frame.payload.length, shared)
    else (s, shared)
  else if s.terminalAfterQueue then (s, shared)
  else if s.retainedFrames ≥ s.queueLimit then
    s.overflowLocked encode shared frame "resource stream frame capacity is exhausted"
  else
    match s.reservePayloadLocked shared frame.payload.length with
    | none => s.overflowLocked encode shared frame "resource stream payload capacity is exhausted"
    | some (s, shared) =>
      ({ s with
          queue := s.queue ++ [⟨frame, frame.payload.length, true⟩]
          retainedFrames := s.retainedFrames + 1
          terminalAfterQueue := s.terminalAfterQueue || frame.typ = Wire.typeBrowserClosed },
        shared)

def fail (code : ErrorCode) (message : String) : Shared :=
  if s.closed || s.terminalAfterQueue || s.rawOverflow then (s, shared)
  else s.failLocked encode shared code message

end

section

variable (s : ClientStream)

def close (shared : StreamPayloadBudget) : Shared :=
  if s.closed then (s, shared)
  else { s with closed := true }.resetQueueLocked shared

/-- `nextFrame` up to the point where it returns: a frame, or the end of `run`; `none` while it
waits. -/
def nextFrame : Option ClientStream :=
  match s.queue with
  | frame :: queue => some { s with queue := queue, runner := .holding frame }
  | [] =>
    if s.closed then some { s with runner := .returned }
    else if s.rawOverflow && !s.rawSyncLostSent then
      some { s with
        rawSyncLostSent := true
        runner := .holding
          ⟨⟨0, Wire.typeSyncLost, Wire.encodeSyncLostPayload s.rawDroppedBytes⟩, 0, false⟩ }
    else if s.rawSyncLostSent || s.terminalAfterQueue then
      some { s with closed := true, runner := .returned }
    else none

/-- The frame in hand goes out on the Go channel. -/
def deliver (frame : RetainedStreamFrame) : ClientStream :=
  { s with runner := .releasing frame, delivered := s.delivered ++ [frame] }

def release (shared : StreamPayloadBudget) (frame : RetainedStreamFrame) : Shared :=
  { s with runner := .idle }.releaseFrame shared frame

/-- The stream was closed while `run` waited for its consumer. -/
def giveUp (shared : StreamPayloadBudget) (frame : RetainedStreamFrame) : Shared :=
  { s with runner := .returned }.releaseFrame shared frame

/-! ### The frames of a stream -/

/-- The frame `run` has in hand. -/
def hand : List RetainedStreamFrame :=
  match s.runner with
  | .holding frame => [frame]
  | _ => []

/-- All frames of the stream, in the order in which the consumer gets them. -/
def shown : List RetainedStreamFrame := s.delivered ++ (s.hand ++ s.queue)

/-- The frames of the peer among them. -/
def line : List StreamFrame := (s.shown.filter (·.countsAsFrame)).map (·.frame)

end

section Frames

variable {encode : ErrorEncoder} {s : ClientStream} {shared : StreamPayloadBudget}
  {s' : ClientStream} {frame : RetainedStreamFrame}

/-- The fields that say which frames a stream has and whether it takes more. -/
structure SameFrames (s s' : ClientStream) : Prop where
  channel : s'.channel = s.channel
  queue : s'.queue = s.queue
  closed : s'.closed = s.closed
  rawOverflow : s'.rawOverflow = s.rawOverflow
  rawSyncLostSent : s'.rawSyncLostSent = s.rawSyncLostSent
  terminalAfterQueue : s'.terminalAfterQueue = s.terminalAfterQueue
  runner : s'.runner = s.runner
  delivered : s'.delivered = s.delivered

theorem SameFrames.refl (s : ClientStream) : SameFrames s s :=
  ⟨rfl, rfl, rfl, rfl, rfl, rfl, rfl, rfl⟩

theorem SameFrames.trans {s'' : ClientStream} (h : SameFrames s s') (h' : SameFrames s' s'') :
    SameFrames s s'' :=
  ⟨h'.channel.trans h.channel, h'.queue.trans h.queue, h'.closed.trans h.closed,
    h'.rawOverflow.trans h.rawOverflow, h'.rawSyncLostSent.trans h.rawSyncLostSent,
    h'.terminalAfterQueue.trans h.terminalAfterQueue, h'.runner.trans h.runner,
    h'.delivered.trans h.delivered⟩

/-- Releasing a frame is about the budgets only. -/
theorem releaseFrame_same (s : ClientStream) (shared : StreamPayloadBudget)
    (frame : RetainedStreamFrame) : SameFrames s (s.releaseFrame shared frame).1 := by
  unfold releaseFrame
  split <;> exact ⟨rfl, rfl, rfl, rfl, rfl, rfl, rfl, rfl⟩

theorem releaseAll_same (frames : List RetainedStreamFrame) (s : ClientStream)
    (shared : StreamPayloadBudget) : SameFrames s
      (frames.foldl (fun acc frame => acc.1.releaseFrame acc.2 frame) (s, shared)).1 := by
  induction frames generalizing s shared with
  | nil => exact .refl s
  | cons frame frames ih => exact (releaseFrame_same s shared frame).trans (ih _ _)

theorem resetQueueLocked_same (s : ClientStream) (shared : StreamPayloadBudget) :
    SameFrames { s with queue := [] } (s.resetQueueLocked shared).1 := by
  have h := releaseAll_same s.queue s shared
  exact { h with queue := rfl }

theorem reservePayloadLocked_same {size : Nat} {s' : Shared}
    (h : s.reservePayloadLocked shared size = some s') : SameFrames s s'.1 := by
  unfold reservePayloadLocked at h
  split at h
  · cases h
  split at h
  · cases h
  · cases h
    exact ⟨rfl, rfl, rfl, rfl, rfl, rfl, rfl, rfl⟩

/-- What the operations of a stream can do to its frames: nothing, forget the
queue, or append the incoming frame to it. -/
inductive Change (incoming : Option StreamFrame) (s : ClientStream) : ClientStream → Prop
  | same {s' : ClientStream} : SameFrames s s' → Change incoming s s'
  | overflow {s' : ClientStream} : s.terminalAfterQueue = false →
      SameFrames { s with rawOverflow := true } s' → Change incoming s s'
  | reset {s' : ClientStream} : SameFrames { s with queue := [], closed := true } s' →
      Change incoming s s'
  | failed {s' : ClientStream} (payload : Bytes) : s.rawOverflow = false →
      s.terminalAfterQueue = false →
      SameFrames { s with queue := [⟨⟨0, Wire.typeError, payload⟩, 0, false⟩],
                          terminalAfterQueue := true } s' → Change incoming s s'
  | accepted {s' : ClientStream} {frame : StreamFrame} (last : Bool) : incoming = some frame →
      s.rawOverflow = false → s.rawSyncLostSent = false → s.terminalAfterQueue = false →
      SameFrames { s with queue := s.queue ++ [⟨frame, frame.payload.length, true⟩],
                          terminalAfterQueue := last } s' → Change incoming s s'

variable {incoming : Option StreamFrame}

theorem failLocked_change (code : ErrorCode) (message : String) (overflow : s.rawOverflow = false)
    (terminal : s.terminalAfterQueue = false) :
    Change incoming s (s.failLocked encode shared code message).1 := by
  have h := resetQueueLocked_same s shared
  unfold failLocked
  dsimp only
  split
  · exact .reset { h with closed := rfl }
  · next payload _ =>
    exact .failed payload overflow terminal { h with queue := rfl, terminalAfterQueue := rfl }

theorem overflowLocked_change (frame : StreamFrame) (message : String)
    (overflow : s.rawOverflow = false) (terminal : s.terminalAfterQueue = false) :
    Change incoming s (s.overflowLocked encode shared frame message).1 := by
  unfold overflowLocked
  split
  · exact .overflow terminal ⟨rfl, rfl, rfl, rfl, rfl, rfl, rfl, rfl⟩
  · exact failLocked_change _ _ overflow terminal

theorem send_change (frame : StreamFrame) :
    Change (some frame) s (s.send encode shared frame).1 := by
  unfold send
  split
  · exact .same (.refl s)
  next quiet =>
  split
  · split
    · exact .same ⟨rfl, rfl, rfl, rfl, rfl, rfl, rfl, rfl⟩
    · exact .same (.refl s)
  next overflow =>
  split
  · exact .same (.refl s)
  next terminal =>
  rw [Bool.or_eq_true, not_or, Bool.not_eq_true, Bool.not_eq_true] at quiet
  rw [Bool.not_eq_true] at overflow terminal
  split
  · exact overflowLocked_change _ _ overflow terminal
  split
  · exact overflowLocked_change _ _ overflow terminal
  next reserved =>
  have h := reservePayloadLocked_same reserved
  exact .accepted _ rfl overflow quiet.2 terminal { h with
    queue := congrArg (· ++ _) h.queue, terminalAfterQueue := rfl }

theorem fail_change (code : ErrorCode) (message : String) :
    Change incoming s (s.fail encode shared code message).1 := by
  unfold fail
  split
  · exact .same (.refl s)
  next open_stream =>
  simp only [Bool.or_eq_true, not_or, Bool.not_eq_true] at open_stream
  exact failLocked_change _ _ open_stream.2 open_stream.1.2

theorem close_change : Change incoming s (s.close shared).1 := by
  unfold close
  split
  · exact .same (.refl s)
  · exact .reset (resetQueueLocked_same { s with closed := true } shared)

theorem SameFrames.shown (h : SameFrames s s') : s'.shown = s.shown := by
  unfold ClientStream.shown ClientStream.hand
  rw [h.queue, h.runner, h.delivered]

theorem Change.channel (h : Change incoming s s') : s'.channel = s.channel := by
  cases h with
  | same h | overflow _ h | reset h | failed _ _ _ h | accepted _ _ _ _ _ h => exact h.channel

/-- The frames of the peer are dropped or taken at the end. -/
theorem Change.line (h : Change incoming s s') : s'.line.Sublist (s.line ++ incoming.toList) := by
  have forget : ∀ queue : List RetainedStreamFrame, queue.filter (·.countsAsFrame) = [] →
      ({ s with queue := queue } : ClientStream).line.Sublist s.line := by
    intro queue none
    show List.Sublist (((s.delivered ++ (s.hand ++ queue)).filter _).map _)
      (((s.delivered ++ (s.hand ++ s.queue)).filter _).map _)
    simp only [filter_append, none]
    refine .map _ (.append_left (.append_left ?_ _) _)
    exact nil_sublist _
  cases h with
  | same h | overflow _ h =>
    rw [ClientStream.line, h.shown]
    exact sublist_append_left _ _
  | reset h =>
    rw [ClientStream.line, h.shown]
    exact (forget [] rfl).trans (sublist_append_left _ _)
  | failed payload _ _ h =>
    rw [ClientStream.line, h.shown]
    exact (forget _ rfl).trans (sublist_append_left _ _)
  | accepted _ taken _ _ _ h =>
    rw [ClientStream.line, h.shown, taken]
    show List.Sublist (((s.delivered ++ (s.hand ++ (s.queue ++ _))).filter _).map _) _
    simp [ClientStream.line, ClientStream.shown]

/-- A frame the client made itself is the last one, and no frame comes after it. -/
structure Tidy (s : ClientStream) : Prop where
  front : s.shown.Pairwise fun frame _ => frame.countsAsFrame = true
  flagged : ∀ frame ∈ s.shown, frame.countsAsFrame = false →
    s.terminalAfterQueue = true ∨ s.rawSyncLostSent = true
  exclusive : s.rawOverflow = true → s.terminalAfterQueue = false
  lost : s.rawSyncLostSent = true → s.rawOverflow = true

theorem tidy_new (channel : Nat) : Tidy (newClientStream channel) :=
  ⟨List.Pairwise.nil, nofun, nofun, nofun⟩

theorem Tidy.mono (h : Tidy s) (shown : s'.shown.Sublist s.shown)
    (overflow : s'.rawOverflow = s.rawOverflow) (lost : s'.rawSyncLostSent = s.rawSyncLostSent)
    (terminal : s'.terminalAfterQueue = s.terminalAfterQueue) : Tidy s' where
  front := h.front.sublist shown
  flagged := by
    rw [terminal, lost]
    exact fun frame mem => h.flagged frame (shown.subset mem)
  exclusive := by
    rw [overflow, terminal]
    exact h.exclusive
  lost := by
    rw [overflow, lost]
    exact h.lost

/-- Without these flags all frames are the peer's. -/
theorem Tidy.all (h : Tidy s) (terminal : s.terminalAfterQueue = false)
    (lost : s.rawSyncLostSent = false) (frame : RetainedStreamFrame) (mem : frame ∈ s.shown) :
    frame.countsAsFrame = true := by
  cases counts : frame.countsAsFrame with
  | true => rfl
  | false =>
    rcases h.flagged frame mem counts with terminal' | lost'
    · rw [terminal] at terminal'
      cases terminal'
    · rw [lost] at lost'
      cases lost'

theorem Tidy.concat {frames : List RetainedStreamFrame} (shown : s'.shown = frames ++ [frame])
    (all : ∀ frame ∈ frames, frame.countsAsFrame = true)
    (last : frame.countsAsFrame = true ∨ s'.terminalAfterQueue = true ∨ s'.rawSyncLostSent = true)
    (exclusive : s'.rawOverflow = true → s'.terminalAfterQueue = false)
    (lost : s'.rawSyncLostSent = true → s'.rawOverflow = true) : Tidy s' where
  front := by
    rw [shown, pairwise_append]
    exact ⟨List.Pairwise.imp_of_mem (fun mem _ _ => all _ mem)
      (pairwise_of_forall fun _ _ => trivial), pairwise_singleton _ _,
      fun frame mem _ _ => all frame mem⟩
  flagged := by
    rw [shown]
    intro other mem counts
    rcases mem_append.mp mem with old | new
    · rw [all other old] at counts
      cases counts
    · rw [mem_singleton.mp new] at counts
      rcases last with counts' | flag
      · rw [counts'] at counts
        cases counts
      · exact flag
  exclusive := exclusive
  lost := lost

theorem Change.tidy (change : Change incoming s s') (h : Tidy s) : Tidy s' := by
  have noLoss : s.rawOverflow = false → s.rawSyncLostSent = false := by
    intro overflow
    cases lost : s.rawSyncLostSent with
    | false => rfl
    | true => exact absurd (h.lost lost) (by rw [overflow]; exact nofun)
  cases change with
  | same same =>
    exact h.mono (same.shown ▸ .refl _) same.rawOverflow same.rawSyncLostSent
      same.terminalAfterQueue
  | overflow terminal same =>
    refine ⟨?_, ?_, ?_, ?_⟩
    · rw [same.shown]
      exact h.front
    · rw [same.shown, same.terminalAfterQueue, same.rawSyncLostSent]
      exact h.flagged
    · rw [same.terminalAfterQueue]
      exact fun _ => terminal
    · rw [same.rawOverflow]
      exact fun _ => rfl
  | reset same =>
    refine h.mono ?_ same.rawOverflow same.rawSyncLostSent same.terminalAfterQueue
    rw [same.shown]
    exact .append_left (.append_left (nil_sublist _) _) _
  | failed payload overflow terminal same =>
    have shown : s'.shown = (s.delivered ++ s.hand) ++ _ :=
      same.shown.trans (List.append_assoc _ _ _).symm
    refine .concat shown (fun frame mem => ?_)
      (.inr (.inl same.terminalAfterQueue)) ?_ ?_
    · refine h.all terminal (noLoss overflow) frame ?_
      rw [ClientStream.shown, ← List.append_assoc]
      exact mem_append_left _ mem
    · rw [same.rawOverflow]
      exact fun overflow' => absurd (overflow.symm.trans overflow') nofun
    · rw [same.rawSyncLostSent, same.rawOverflow]
      exact h.lost
  | @accepted frame last taken overflow lost terminal same =>
    have shown : s'.shown = s.shown ++ [⟨frame, frame.payload.length, true⟩] := by
      rw [same.shown]
      show s.delivered ++ (s.hand ++ (s.queue ++ _)) = (s.delivered ++ (s.hand ++ s.queue)) ++ _
      rw [List.append_assoc, List.append_assoc]
    refine .concat shown (h.all terminal lost) (.inl rfl) ?_ ?_
    · rw [same.rawOverflow]
      exact fun overflow' => absurd (overflow.symm.trans overflow') nofun
    · rw [same.rawSyncLostSent, same.rawOverflow]
      exact h.lost

/-! ### The goroutine of a stream -/

open ClientStream

theorem nextFrame_spec (idle : s.runner = .idle) (next : s.nextFrame = some s') :
    s'.line = s.line ∧ s'.channel = s.channel ∧
      (Tidy s → Tidy s') := by
  have noHand : s.hand = [] := by rw [hand, idle]
  unfold nextFrame at next
  split at next
  · next frame queue q =>
    cases next
    have shown : ({ s with queue := queue, runner := .holding frame } : ClientStream).shown =
        s.shown := by
      rw [shown, shown, noHand, q]
      rfl
    exact ⟨by rw [line, line, shown], rfl, fun h => h.mono (shown ▸ .refl _) rfl rfl rfl⟩
  next q =>
  have returned : ∀ closed, ({ s with closed := closed, runner := .returned } : ClientStream).shown =
      s.shown := by
    intro closed
    rw [shown, shown, noHand]
    rfl
  have ends : ∀ closed, ({ s with closed := closed, runner := .returned } : ClientStream).line =
      s.line ∧ s.channel = s.channel ∧
        (Tidy s → Tidy { s with closed := closed, runner := .returned }) :=
    fun closed => ⟨by rw [line, line, returned], rfl, fun h =>
      h.mono (returned closed ▸ .refl _) rfl rfl rfl⟩
  split at next
  · cases next
    exact ends s.closed
  split at next
  · next lossy =>
    cases next
    rw [Bool.and_eq_true, Bool.not_eq_true'] at lossy
    have before : s.shown = s.delivered := by
      rw [shown, noHand, q]
      exact append_nil _
    refine ⟨?_, rfl, fun h => ?_⟩
    · rw [line, line, before]
      simp [shown, hand, q]
    · have shown : ∀ frame, ({ s with rawSyncLostSent := true, runner := .holding frame } :
          ClientStream).shown = s.shown ++ [frame] := by
        intro frame
        rw [before]
        show s.delivered ++ ([frame] ++ s.queue) = _
        rw [q, append_nil]
      exact .concat (shown _) (h.all (h.exclusive lossy.1) lossy.2) (.inr (.inr rfl)) h.exclusive
        fun _ => lossy.1
  split at next
  · cases next
    exact ends true
  · cases next

theorem deliver_spec (holding : s.runner = .holding frame) :
    (s.deliver frame).line = s.line ∧ (Tidy s → Tidy (s.deliver frame)) := by
  have shown : (s.deliver frame).shown = s.shown := by
    rw [shown, shown, hand, hand, holding]
    exact List.append_assoc _ _ _
  exact ⟨by rw [line, line, shown], fun h => h.mono (shown ▸ .refl _) rfl rfl rfl⟩

theorem release_spec (releasing : s.runner = .releasing frame) :
    (s.release shared frame).1.line = s.line ∧ (s.release shared frame).1.channel = s.channel ∧
      (Tidy s → Tidy (s.release shared frame).1) := by
  have same := releaseFrame_same { s with runner := .idle } shared frame
  have shown : (s.release shared frame).1.shown = s.shown := by
    refine same.shown.trans ?_
    rw [shown, shown, hand, hand, releasing]
  exact ⟨by rw [line, line, shown], same.channel, fun h => h.mono (shown ▸ .refl _)
    same.rawOverflow same.rawSyncLostSent same.terminalAfterQueue⟩

theorem giveUp_spec :
    (s.giveUp shared frame).1.line.Sublist s.line ∧
      (s.giveUp shared frame).1.channel = s.channel ∧
      (Tidy s → Tidy (s.giveUp shared frame).1) := by
  have same := releaseFrame_same { s with runner := .returned } shared frame
  have shown : (s.giveUp shared frame).1.shown.Sublist s.shown := by
    rw [giveUp, same.shown, shown, shown, hand, hand]
    exact .append_left (sublist_append_right _ _) _
  exact ⟨(shown.filter _).map _, same.channel, fun h => h.mono shown same.rawOverflow
    same.rawSyncLostSent same.terminalAfterQueue⟩

end Frames

end ClientStream

end Anytty.Client
