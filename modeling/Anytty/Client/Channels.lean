import Anytty.Client.Stream
import Anytty.Data.Update

/-!
# The channels of the protocol client

The read loop looks a frame's stream up under the registry lock and sends to it after
the lock is released. A frame whose channel has no stream waits in `pending`, or in
`reused` when the stream was closed. `Stream` and `bindApplicationAttachment` register
the stream and take the waiting frames under the lock; they replay them after it is
released.

The functions here are the parts under the registry lock. `Sorted` says that at most one
of stream, `pending` and `reused` holds the frames of a channel; so the frames that are
taken for a stream come before all that the read loop sends to it later.
-/

namespace Anytty.Client

open Function Wire Data

abbrev StreamID := Nat

inductive ResourceKind
  | unspecified
  | operation
  | subscription
  | terminalAttachment
  | historyWindow
  | fileTransfer
  | browserProxy
deriving DecidableEq, Repr

structure PeerError where
  code : ErrorCode
  message : String
deriving DecidableEq, Repr

structure ClientPendingLimits where
  channels : Nat
  frames : Nat
  framesPerChannel : Nat
  bytes : Nat
deriving DecidableEq, Repr

def defaultClientPendingLimits : ClientPendingLimits := ⟨64, 1024, 256, 8 * 2 ^ 20⟩

/-- The two maps of waiting frames. -/
inductive Shelf
  | pending
  | reused
deriving DecidableEq, Repr

/-- `EncodeErrorPayload`, and whether `DecodeErrorPayload` accepts a payload. -/
structure ErrorCodec where
  encode : ErrorEncoder
  decodes : Bytes → Bool

def validInboundStreamFrameType (typ : UInt8) : Bool :=
  typ == typeStreamReady || typ == typeSyncLost || typ == typeClosed ||
    typ == typePTYOutput || typ == typeFileData || typ == typeFileAck ||
    typ == typeFileFinish || typ == typeFileResult || typ == typeBrowserData ||
    typ == typeBrowserClosed || typ == typeError

/-- The read loop: at the transport, with a frame for a stream, with a refusal for a stream, or
at its end. -/
inductive Reader
  | ready
  | sending (stream : StreamID) (frame : StreamFrame)
  | rejecting (stream : StreamID) (message : String)
  | failing (err : PeerError)
  | stopped
deriving DecidableEq, Repr

/-- What the registry lock protects, as far as channels are concerned. -/
structure Channels where
  streams : Nat → Option StreamID
  shelves : Shelf → AList fun _ : Nat => List StreamFrame
  pendingFrameCount : Nat
  pendingByteCount : Nat
  pendingLimits : ClientPendingLimits
  dropped : Nat → Bool
  applicationAttachments : Nat → Option ResourceKind

/-- The frames that `Stream` or `bindApplicationAttachment` still has to send. -/
structure Replay where
  stream : StreamID
  frames : List StreamFrame
deriving DecidableEq, Repr

namespace Channels

def empty (limits : ClientPendingLimits) : Channels where
  streams := fun _ => none
  shelves := fun _ => ∅
  pendingFrameCount := 0
  pendingByteCount := 0
  pendingLimits := limits
  dropped := fun _ => false
  applicationAttachments := fun _ => none

section

variable (r : Channels) (shelf : Shelf) (channel : Nat)

/-- The frames of a channel on a shelf. -/
def frames : List StreamFrame :=
  ((r.shelves shelf).lookup channel).getD []

def queuePendingFrameLocked (frame : StreamFrame) : Except PeerError Channels :=
  if (r.shelves shelf).lookup channel = none ∧
      r.pendingLimits.channels ≤
        (r.shelves .pending).keys.length + (r.shelves .reused).keys.length then
    .error ⟨.resourceExhausted, "pending stream channel capacity is exhausted"⟩
  else if r.pendingLimits.framesPerChannel ≤ (r.frames shelf channel).length ∨
      r.pendingLimits.frames ≤ r.pendingFrameCount then
    .error ⟨.resourceExhausted, "pending stream frame capacity is exhausted"⟩
  else if r.pendingLimits.bytes < r.pendingByteCount + frame.payload.length then
    .error ⟨.resourceExhausted, "pending stream byte capacity is exhausted"⟩
  else
    .ok { r with
      shelves := update r.shelves shelf
        ((r.shelves shelf).insert channel (r.frames shelf channel ++ [frame]))
      pendingFrameCount := r.pendingFrameCount + 1
      pendingByteCount := r.pendingByteCount + frame.payload.length }

/-- `takePendingFramesLocked`; the frames are those the shelf had. -/
def takePendingFramesLocked : Channels :=
  { r with
    shelves := update r.shelves shelf ((r.shelves shelf).erase channel)
    pendingFrameCount := r.pendingFrameCount - (r.frames shelf channel).length
    pendingByteCount := r.pendingByteCount -
      ((r.frames shelf channel).map (·.payload.length)).sum }

end

/-- The part of `readLoop` under the lock, for a frame of a channel. -/
def receive (codec : ErrorCodec) (r : Channels) (channel : Nat) (frame : StreamFrame) :
    Channels × Reader :=
  let reject (message : String) : Channels × Reader :=
    match r.streams channel with
    | none => (r, .failing ⟨.badRequest, message⟩)
    | some stream => (r, .rejecting stream message)
  let queue (shelf : Shelf) : Channels × Reader :=
    match r.queuePendingFrameLocked shelf channel frame with
    | .error err => (r, .failing err)
    | .ok r => (r, .ready)
  if !validInboundStreamFrameType frame.typ then
    reject ("unsupported stream frame type " ++ toString frame.typ.toNat)
  else if frame.typ == typeError && !codec.decodes frame.payload then
    reject "malformed error stream frame"
  else
    match r.streams channel with
    | some stream => (r, .sending stream frame)
    | none =>
      if r.dropped channel then
        if r.applicationAttachments channel = some .browserProxy then (r, .ready)
        else queue .reused
      else queue .pending

section

variable (r : Channels) (channel : Nat)

/-- `Stream` opens a closed channel again and discards what came in between. -/
def reopen : Channels :=
  if r.dropped channel then
    { r with dropped := update r.dropped channel false }.takePendingFramesLocked
      .reused channel
  else r

/-- The part of `Stream` under the lock; `fresh` is the stream it makes when it needs one. -/
def stream (fresh : StreamID) : Channels × Replay :=
  let found :=
    match r.streams channel with
    | some id => (r, id)
    | none =>
      let reopened := r.reopen channel
      ({ reopened with streams := update reopened.streams channel (some fresh) }, fresh)
  (found.1.takePendingFramesLocked .pending channel, ⟨found.2, found.1.frames .pending channel⟩)

/-- The part of `bindApplicationAttachment` under the lock. -/
def bindApplicationAttachment (kind : ResourceKind) (fresh : StreamID) : Channels × Replay :=
  let id := (r.streams channel).getD fresh
  let bound := { r with
    streams := update r.streams channel (some id)
    applicationAttachments := update r.applicationAttachments channel (some kind)
    dropped := update r.dropped channel false }
  let taken := bound.takePendingFramesLocked .pending channel
  (taken.takePendingFramesLocked .reused channel,
    ⟨id, bound.frames .pending channel ++ taken.frames .reused channel⟩)

/-- The close function that `Stream` returns, without the close of the stream itself. -/
def closeFunc : Channels :=
  let r' :=
    match r.streams channel with
    | none => r
    | some _ =>
      { r with
        streams := update r.streams channel none
        dropped := update r.dropped channel true }
  r'.takePendingFramesLocked .pending channel

/-- A detach, a release or a cancelled transfer forgets the attachment. -/
def releaseAttachment : Channels :=
  { r with applicationAttachments := update r.applicationAttachments channel none }

end

/-- The part of `failAll` under the lock. -/
def failAll (r : Channels) : Channels :=
  { r with
    streams := fun _ => none
    shelves := fun _ => ∅
    dropped := fun _ => false
    pendingFrameCount := 0
    pendingByteCount := 0 }

/-! ### Waiting frames -/

/-- A registered channel has no waiting frames. An open channel has none in `reused`, a closed one
none in `pending`. All waiting frames came from the transport, in their order. -/
structure Sorted (inbound : Nat → List StreamFrame) (r : Channels) : Prop where
  quiet : ∀ channel id, r.streams channel = some id → ∀ shelf, r.frames shelf channel = []
  closed : ∀ channel, r.dropped channel = true →
    r.streams channel = none ∧ r.frames .pending channel = []
  opened : ∀ channel, r.dropped channel = false → r.frames .reused channel = []
  shelved : ∀ shelf channel, (r.frames shelf channel).Sublist (inbound channel)

section Shelves

variable {inbound : Nat → List StreamFrame} {r : Channels}

theorem sorted_empty (inbound : Nat → List StreamFrame) (limits : ClientPendingLimits) :
    Sorted inbound (empty limits) :=
  ⟨nofun, nofun, fun _ _ => rfl, fun _ _ => List.nil_sublist _⟩

theorem frames_take (r : Channels) (shelf shelf' : Shelf) (channel channel' : Nat) :
    (r.takePendingFramesLocked shelf channel).frames shelf' channel' =
      if shelf' = shelf ∧ channel' = channel then [] else r.frames shelf' channel' := by
  show (((update r.shelves shelf _) shelf').lookup channel').getD [] = _
  by_cases sameShelf : shelf' = shelf
  · subst sameShelf
    rw [update_self]
    by_cases same : channel' = channel
    · subst same
      rw [AList.lookup_erase, if_pos ⟨rfl, rfl⟩]
      rfl
    · rw [AList.lookup_erase_ne same, if_neg fun h => same h.2]
      rfl
  · rw [update_of_ne sameShelf, if_neg fun h => sameShelf h.1]
    rfl

/-- Taking frames leaves a part of them. -/
theorem frames_take_sublist (r : Channels) (shelf shelf' : Shelf) (channel channel' : Nat) :
    ((r.takePendingFramesLocked shelf channel).frames shelf' channel').Sublist
      (r.frames shelf' channel') := by
  rw [frames_take]
  split
  · exact List.nil_sublist _
  · exact .refl _

theorem frames_queue {r' : Channels} {shelf : Shelf} {channel : Nat} {frame : StreamFrame}
    (h : r.queuePendingFrameLocked shelf channel frame = .ok r') :
    r'.streams = r.streams ∧ r'.dropped = r.dropped ∧ ∀ shelf' channel',
      r'.frames shelf' channel' =
        if shelf' = shelf ∧ channel' = channel then r.frames shelf channel ++ [frame]
        else r.frames shelf' channel' := by
  unfold queuePendingFrameLocked at h
  split at h
  · cases h
  split at h
  · cases h
  split at h
  · cases h
  cases h
  refine ⟨rfl, rfl, fun shelf' channel' => ?_⟩
  show (((update r.shelves shelf _) shelf').lookup channel').getD [] = _
  by_cases sameShelf : shelf' = shelf
  · subst sameShelf
    rw [update_self]
    by_cases same : channel' = channel
    · subst same
      rw [AList.lookup_insert, if_pos ⟨rfl, rfl⟩]
      rfl
    · rw [AList.lookup_insert_ne same, if_neg fun h => same h.2]
      rfl
  · rw [update_of_ne sameShelf, if_neg fun h => sameShelf h.1]
    rfl

section

variable (h : Sorted inbound r)
include h

theorem Sorted.take (shelf : Shelf) (channel : Nat) :
    Sorted inbound (r.takePendingFramesLocked shelf channel) where
  quiet := fun channel' id registered shelf' =>
    List.sublist_nil.mp (h.quiet channel' id registered shelf' ▸ frames_take_sublist r ..)
  closed := fun channel' dropped =>
    ⟨(h.closed channel' dropped).1,
      List.sublist_nil.mp ((h.closed channel' dropped).2 ▸ frames_take_sublist r ..)⟩
  opened := fun channel' opened =>
    List.sublist_nil.mp (h.opened channel' opened ▸ frames_take_sublist r ..)
  shelved := fun shelf' channel' => (frames_take_sublist r ..).trans (h.shelved shelf' channel')

theorem Sorted.mono {inbound' : Nat → List StreamFrame}
    (more : ∀ channel, (inbound channel).Sublist (inbound' channel)) : Sorted inbound' r :=
  { h with shelved := fun shelf channel => (h.shelved shelf channel).trans (more channel) }

omit h in
/-- The frame goes to the stream, waits on a shelf, or nowhere. -/
theorem receive_spec (codec : ErrorCodec) (r : Channels) (channel : Nat) (frame : StreamFrame) :
    ((r.receive codec channel frame).1 = r ∧ ∀ id f,
      (r.receive codec channel frame).2 = .sending id f → r.streams channel = some id ∧ f = frame) ∨
    (∃ shelf r', r.streams channel = none ∧ (shelf = .reused ↔ r.dropped channel = true) ∧
      r.queuePendingFrameLocked shelf channel frame = .ok r' ∧
      r.receive codec channel frame = (r', .ready)) := by
  unfold receive
  dsimp only
  split
  · left
    split <;> exact ⟨rfl, nofun⟩
  split
  · left
    split <;> exact ⟨rfl, nofun⟩
  cases found : r.streams channel with
  | some id =>
    left
    refine ⟨rfl, fun id' f sending => ?_⟩
    cases sending
    exact ⟨rfl, rfl⟩
  | none =>
    dsimp only
    split
    · next dropped =>
      split
      · exact .inl ⟨rfl, nofun⟩
      cases queued : r.queuePendingFrameLocked .reused channel frame with
      | error err => exact .inl ⟨rfl, nofun⟩
      | ok r' => exact .inr ⟨.reused, r', rfl, ⟨fun _ => dropped, fun _ => rfl⟩, queued, rfl⟩
    · next opened =>
      cases queued : r.queuePendingFrameLocked .pending channel frame with
      | error err => exact .inl ⟨rfl, nofun⟩
      | ok r' =>
        exact .inr ⟨.pending, r', rfl, ⟨nofun, fun dropped => absurd dropped opened⟩, queued, rfl⟩

/-- A channel receives a frame. -/
def arrive (inbound : Nat → List StreamFrame) (channel : Nat) (frame : StreamFrame) :
    Nat → List StreamFrame :=
  update inbound channel (inbound channel ++ [frame])

omit h in
theorem sublist_arrive (inbound : Nat → List StreamFrame) (channel : Nat) (frame : StreamFrame)
    (channel' : Nat) : (inbound channel').Sublist (arrive inbound channel frame channel') := by
  unfold arrive
  by_cases same : channel' = channel
  · subst same
    rw [update_self]
    exact List.sublist_append_left _ _
  · rw [update_of_ne same]

theorem Sorted.receive (codec : ErrorCodec) (channel : Nat) (frame : StreamFrame) :
    Sorted (arrive inbound channel frame) (r.receive codec channel frame).1 := by
  rcases receive_spec codec r channel frame with ⟨same, -⟩ | ⟨shelf, r', free, which, queued, eq⟩
  · rw [same]
    exact h.mono (sublist_arrive inbound channel frame)
  rw [eq]
  obtain ⟨streams, dropped, frames⟩ := frames_queue queued
  refine ⟨fun channel' id registered shelf' => ?_, fun channel' closed => ?_,
    fun channel' opened => ?_, fun shelf' channel' => ?_⟩
  · rw [streams] at registered
    rw [frames, if_neg, h.quiet channel' id registered]
    rintro ⟨-, rfl⟩
    rw [free] at registered
    cases registered
  · rw [dropped] at closed
    rw [streams, frames, if_neg]
    · exact h.closed channel' closed
    · rintro ⟨rfl, rfl⟩
      exact absurd (which.mpr closed) nofun
  · rw [dropped] at opened
    rw [frames, if_neg]
    · exact h.opened channel' opened
    · rintro ⟨rfl, rfl⟩
      rw [which.mp rfl] at opened
      cases opened
  · rw [frames]
    split
    · next same =>
      obtain ⟨rfl, rfl⟩ := same
      unfold arrive
      rw [update_self]
      exact (h.shelved _ _).append_right _
    · exact (h.shelved shelf' channel').trans (sublist_arrive inbound channel frame channel')

/-- The frames that are taken for a stream. A registered stream gets none. -/
structure Taken (inbound : Nat → List StreamFrame) (r : Channels) (channel : Nat)
    (fresh : StreamID) (r' : Channels) (replay : Replay) : Prop where
  sorted : Sorted inbound r'
  streams : r'.streams = update r.streams channel (some replay.stream)
  inbound : replay.frames.Sublist (inbound channel)
  target : replay.stream = fresh ∧ r.streams channel = none ∨
    r.streams channel = some replay.stream ∧ replay.frames = []

/-- One channel is registered with nothing left on its shelves, the others stay. -/
theorem Sorted.settle {r' : Channels} {channel : Nat}
    (empty : ∀ shelf, r'.frames shelf channel = []) (opened : r'.dropped channel = false)
    (others : ∀ channel', channel' ≠ channel → r'.streams channel' = r.streams channel' ∧
      r'.dropped channel' = r.dropped channel' ∧
      ∀ shelf, r'.frames shelf channel' = r.frames shelf channel') : Sorted inbound r' where
  quiet := by
    intro channel' id registered shelf
    by_cases same : channel' = channel
    · rw [same, empty]
    · rw [(others channel' same).2.2]
      exact h.quiet channel' id ((others channel' same).1 ▸ registered) shelf
  closed := by
    intro channel' dropped
    by_cases same : channel' = channel
    · rw [same, opened] at dropped
      cases dropped
    · obtain ⟨streams, dropped', frames⟩ := others channel' same
      rw [streams, frames]
      exact h.closed channel' (dropped' ▸ dropped)
  opened := by
    intro channel' opened'
    by_cases same : channel' = channel
    · rw [same, empty]
    · rw [(others channel' same).2.2]
      exact h.opened channel' ((others channel' same).2.1 ▸ opened')
  shelved := by
    intro shelf channel'
    by_cases same : channel' = channel
    · rw [same, empty]
      exact List.nil_sublist _
    · rw [(others channel' same).2.2]
      exact h.shelved shelf channel'

theorem Sorted.reopen (channel : Nat) :
    Sorted inbound (r.reopen channel) ∧ (r.reopen channel).dropped channel = false ∧
      (r.reopen channel).streams = r.streams := by
  unfold Channels.reopen
  split
  · next dropped =>
    refine ⟨h.settle (fun shelf => ?_) (update_self ..) fun channel' other =>
      ⟨rfl, update_of_ne other .., fun shelf => ?_⟩, update_self .., rfl⟩
    · rw [frames_take]
      cases shelf with
      | pending => exact (h.closed channel dropped).2
      | reused => exact if_pos ⟨rfl, rfl⟩
    · rw [frames_take, if_neg fun h => other h.2]
      rfl
  · next opened => exact ⟨h, Bool.eq_false_iff.mpr opened, rfl⟩

theorem Sorted.stream (channel : Nat) (fresh : StreamID) :
    Taken inbound r channel fresh (r.stream channel fresh).1 (r.stream channel fresh).2 := by
  unfold Channels.stream
  cases found : r.streams channel with
  | some id =>
    exact ⟨h.take _ _, (update_eq_self_iff.mpr found.symm).symm, h.shelved _ _,
      .inr ⟨found, h.quiet channel id found _⟩⟩
  | none =>
    obtain ⟨h', opened, streams⟩ := h.reopen channel
    refine ⟨h'.settle (fun shelf => ?_) opened fun channel' other =>
      ⟨update_of_ne other .., rfl, fun shelf => ?_⟩, ?_, h'.shelved _ _,
      .inl ⟨rfl, found⟩⟩
    · rw [frames_take]
      cases shelf with
      | pending => exact if_pos ⟨rfl, rfl⟩
      | reused => exact h'.opened channel opened
    · rw [frames_take, if_neg fun h => other h.2]
      rfl
    · rw [← streams]
      rfl

theorem Sorted.bindApplicationAttachment (channel : Nat) (kind : ResourceKind) (fresh : StreamID) :
    Taken inbound r channel fresh (r.bindApplicationAttachment channel kind fresh).1
      (r.bindApplicationAttachment channel kind fresh).2 := by
  have frames : (r.bindApplicationAttachment channel kind fresh).2.frames =
      r.frames .pending channel ++ r.frames .reused channel := by
    refine congrArg (r.frames .pending channel ++ ·) ?_
    rfl
  refine ⟨h.settle (fun shelf => ?_) (update_self ..) fun channel' other =>
    ⟨update_of_ne other .., update_of_ne other .., fun shelf => ?_⟩, rfl, ?_, ?_⟩
  · show Channels.frames ((takePendingFramesLocked _ .pending channel).takePendingFramesLocked
      .reused channel) shelf channel = []
    rw [frames_take, frames_take]
    cases shelf with
    | pending => exact (if_neg fun h => nomatch h.1).trans (if_pos ⟨rfl, rfl⟩)
    | reused => exact if_pos ⟨rfl, rfl⟩
  · show Channels.frames ((takePendingFramesLocked _ .pending channel).takePendingFramesLocked
      .reused channel) shelf channel' = _
    rw [frames_take, if_neg fun h => other h.2, frames_take, if_neg fun h => other h.2]
    rfl
  · rw [frames]
    cases dropped : r.dropped channel with
    | true =>
      rw [(h.closed channel dropped).2]
      exact h.shelved _ _
    | false =>
      rw [h.opened channel dropped, List.append_nil]
      exact h.shelved _ _
  · rw [frames]
    show (r.streams channel).getD fresh = fresh ∧ _ ∨ _
    cases found : r.streams channel with
    | none => exact .inl ⟨rfl, rfl⟩
    | some id =>
      refine .inr ⟨?_, ?_⟩
      · show some id = some ((r.streams channel).getD fresh)
        rw [found]
        rfl
      · rw [h.quiet channel id found, h.quiet channel id found]
        rfl

theorem Sorted.closeFunc (channel : Nat) : Sorted inbound (r.closeFunc channel) := by
  unfold Channels.closeFunc
  split
  · exact h.take _ _
  next id found =>
  refine Sorted.take ?_ _ _
  refine ⟨fun channel' id' registered shelf => ?_, fun channel' dropped => ?_,
    fun channel' opened => ?_, h.shelved⟩
  · by_cases same : channel' = channel
    · rw [same]
      exact h.quiet channel id found shelf
    · exact h.quiet channel' id' ((update_of_ne same ..).symm.trans registered) shelf
  · by_cases same : channel' = channel
    · rw [same]
      exact ⟨update_self .., h.quiet channel id found _⟩
    · have old := h.closed channel' ((update_of_ne same ..).symm.trans dropped)
      exact ⟨(update_of_ne same ..).trans old.1, old.2⟩
  · by_cases same : channel' = channel
    · rw [same]
      exact h.quiet channel id found _
    · exact h.opened channel' ((update_of_ne same ..).symm.trans opened)

end

end Shelves

end Channels

end Anytty.Client
