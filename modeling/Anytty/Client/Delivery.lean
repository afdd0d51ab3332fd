import Anytty.Client.Channels

/-!
# Order of delivery on a channel

`ClientStep` interleaves the read loop, the replays of `Stream` and
`bindApplicationAttachment`, the close functions, the sweep of `failAll` and the
goroutines of the streams. Its parameter `ok` says when the read loop may send a frame
to a stream.

The read loop of the source sends whenever it likes, also before an older frame that
was waiting and is not replayed yet. When its sends are `Guarded`, every stream delivers
a subsequence of what its channel received.
-/

namespace Anytty.Client

open Function List ClientStream Channels Data

/-- The client, and what the transport delivered on each channel. -/
structure Session where
  channels : Channels
  objects : StreamID → ClientStream
  nextStream : StreamID
  /-- The payload budget that the streams share. -/
  budget : StreamPayloadBudget
  reader : Reader
  /-- The calls of `Stream` and `bindApplicationAttachment` that have released the lock. -/
  replays : Nat → Option Replay
  /-- The calls of `failAll` that have released the lock. -/
  closing : Nat → Option (List StreamID)
  inbound : Nat → List StreamFrame
  received : Nat

/-- `NewClient`. -/
def newSession (limits : ClientPendingLimits) : Session where
  channels := .empty limits
  objects := fun _ => newClientStream 0
  nextStream := 0
  budget := ⟨maxClientPayloadBytes, 0⟩
  reader := .ready
  replays := fun _ => none
  closing := fun _ => none
  inbound := fun _ => []
  received := 0

namespace Session

/-- An operation on one stream. -/
def setObject (s : Session) (id : StreamID) (changed : Shared) : Session :=
  { s with objects := update s.objects id changed.1, budget := changed.2 }

def receive (codec : ErrorCodec) (s : Session) (channel : Nat) (frame : StreamFrame) : Session :=
  let done := s.channels.receive codec channel frame
  { s with
    channels := done.1
    reader := done.2
    inbound := arrive s.inbound channel frame
    received := frame.number }

/-- The lock is released and the replay begins. A new stream gets its object. -/
def begin (s : Session) (thread channel : Nat) (taken : Channels × Replay) : Session :=
  { s with
    channels := taken.1
    objects := if s.channels.streams channel = none
      then update s.objects s.nextStream (newClientStream channel) else s.objects
    nextStream := if s.channels.streams channel = none then s.nextStream + 1 else s.nextStream
    replays := update s.replays thread (some taken.2) }

/-- The close function of a stream. -/
def closeFunc (s : Session) (channel : Nat) : Session :=
  match s.channels.streams channel with
  | none => { s with channels := s.channels.closeFunc channel }
  | some id =>
    { s with channels := s.channels.closeFunc channel }.setObject id
      ((s.objects id).close s.budget)

end Session

/-- One step of the client. -/
inductive ClientStep (codec : ErrorCodec) (ok : Session → Prop) (s : Session) : Session → Prop
  /-- The read loop takes a frame from the transport. -/
  | receive (channel : Nat) (frame : StreamFrame) : s.reader = .ready → channel ≠ 0 →
      frame.number = s.received + 1 → ClientStep codec ok s (s.receive codec channel frame)
  /-- The transport fails, or a control frame is not accepted. -/
  | stop : s.reader = .ready → ClientStep codec ok s { s with reader := .stopped }
  | send (id : StreamID) (frame : StreamFrame) : s.reader = .sending id frame → ok s →
      ClientStep codec ok s ({ s with reader := .ready }.setObject id
        ((s.objects id).send codec.encode s.budget frame))
  | reject (id : StreamID) (message : String) : s.reader = .rejecting id message →
      ClientStep codec ok s ({ s with reader := .ready }.setObject id
        ((s.objects id).fail codec.encode s.budget .badRequest message))
  | stream (thread channel : Nat) : s.replays thread = none →
      ClientStep codec ok s (s.begin thread channel (s.channels.stream channel s.nextStream))
  | bind (thread channel : Nat) (kind : ResourceKind) : s.replays thread = none → channel ≠ 0 →
      ClientStep codec ok s (s.begin thread channel
        (s.channels.bindApplicationAttachment channel kind s.nextStream))
  | replay (thread : Nat) (id : StreamID) (frame : StreamFrame) (frames : List StreamFrame) :
      s.replays thread = some ⟨id, frame :: frames⟩ →
      ClientStep codec ok s ({ s with
        replays := update s.replays thread (some ⟨id, frames⟩) }.setObject id
          ((s.objects id).send codec.encode s.budget frame))
  | replayed (thread : Nat) (id : StreamID) : s.replays thread = some ⟨id, []⟩ →
      ClientStep codec ok s { s with replays := update s.replays thread none }
  | closeFunc (channel : Nat) : ClientStep codec ok s (s.closeFunc channel)
  | releaseAttachment (channel : Nat) :
      ClientStep codec ok s { s with channels := s.channels.releaseAttachment channel }
  /-- The sweep collects the registered streams, in any order. -/
  | failAll (thread : Nat) (ids : List StreamID) : s.closing thread = none →
      (∀ id, id ∈ ids ↔ ∃ channel, s.channels.streams channel = some id) →
      ClientStep codec ok s { s with
        channels := s.channels.failAll
        closing := update s.closing thread (some ids) }
  | closeNext (thread : Nat) (id : StreamID) (ids : List StreamID) :
      s.closing thread = some (id :: ids) →
      ClientStep codec ok s ({ s with
        closing := update s.closing thread (some ids) }.setObject id
          ((s.objects id).close s.budget))
  | closedAll (thread : Nat) : s.closing thread = some [] →
      ClientStep codec ok s { s with closing := update s.closing thread none }
  | nextFrame (id : StreamID) (o : ClientStream) : (s.objects id).runner = .idle →
      (s.objects id).nextFrame = some o → ClientStep codec ok s (s.setObject id (o, s.budget))
  /-- The consumer takes the frame. -/
  | deliver (id : StreamID) (frame : RetainedStreamFrame) :
      (s.objects id).runner = .holding frame →
      ClientStep codec ok s (s.setObject id ((s.objects id).deliver frame, s.budget))
  | release (id : StreamID) (frame : RetainedStreamFrame) :
      (s.objects id).runner = .releasing frame →
      ClientStep codec ok s (s.setObject id ((s.objects id).release s.budget frame))
  | giveUp (id : StreamID) (frame : RetainedStreamFrame) :
      (s.objects id).runner = .holding frame → (s.objects id).closed = true →
      ClientStep codec ok s (s.setObject id ((s.objects id).giveUp s.budget frame))

/-- The frame that the read loop holds is sent when no older one has to be replayed. -/
def Guarded (s : Session) : Prop :=
  ∀ id frame, s.reader = .sending id frame →
    ∀ thread frames, s.replays thread = some ⟨id, frames⟩ → frames = []

namespace Session

/-- The frame that the read loop holds for a stream. -/
def hand (s : Session) (id : StreamID) : List StreamFrame :=
  match s.reader with
  | .sending id' frame => if id' = id then [frame] else []
  | _ => []

/-- The frames that some call still has to replay into a stream. -/
def Waiting (s : Session) (id : StreamID) (frames : List StreamFrame) : Prop :=
  frames = [] ∨ ∃ thread, s.replays thread = some ⟨id, frames⟩

end Session

/-- What a stream has, what is replayed into it and what the read loop holds for it follow each
other as they came. -/
structure Ordered (s : Session) : Prop where
  sorted : s.channels.Sorted s.inbound
  known : ∀ channel id, s.channels.streams channel = some id →
    id < s.nextStream ∧ (s.objects id).channel = channel
  replayKnown : ∀ thread replay, s.replays thread = some replay → replay.stream < s.nextStream
  handKnown : ∀ id frame, s.reader = .sending id frame → id < s.nextStream
  single : ∀ thread thread' id frame frame' frames frames',
    s.replays thread = some ⟨id, frame :: frames⟩ →
    s.replays thread' = some ⟨id, frame' :: frames'⟩ → thread = thread'
  line : ∀ id frames, s.Waiting id frames →
    ((s.objects id).line ++ (frames ++ s.hand id)).Sublist (s.inbound (s.objects id).channel)
  tidy : ∀ id, (s.objects id).Tidy
  numbered : ∀ channel, (s.inbound channel).Pairwise (·.number < ·.number) ∧
    ∀ frame ∈ s.inbound channel, frame.number ≤ s.received

section Steps

variable {codec : ErrorCodec} {s : Session} {s' : Session} {id : StreamID} {channel thread : Nat}
  {r : Channels} {frame : StreamFrame} {frames : List StreamFrame}

theorem ordered_new (limits : ClientPendingLimits) : Ordered (newSession limits) where
  sorted := sorted_empty _ _
  known := nofun
  replayKnown := nofun
  handKnown := nofun
  single := nofun
  line := by
    rintro id frames (rfl | ⟨thread, replay⟩)
    · exact nil_sublist _
    · cases replay
  tidy := fun _ => tidy_new 0
  numbered := fun _ => ⟨List.Pairwise.nil, nofun⟩

/-- The read loop holds nothing new. -/
theorem hand_sublist
    (reader : ∀ id frame, s'.reader = .sending id frame → s.reader = .sending id frame)
    (id : StreamID) : (s'.hand id).Sublist (s.hand id) := by
  have none : (s'.hand id) = [] ∨ s'.reader = s.reader := by
    cases h : s'.reader with
    | sending id' frame => exact .inr (reader id' frame h).symm
    | ready | rejecting | failing | stopped => exact .inl (by rw [Session.hand, h])
  rcases none with empty | same
  · rw [empty]
    exact nil_sublist _
  · rw [Session.hand, Session.hand, same]

section

variable (h : Ordered s)
include h

namespace Ordered

/-- The read loop and the replays go on with less, and one stream changes. -/
theorem put {o : ClientStream} (channels : s'.channels = s.channels)
    (inbound : s'.inbound = s.inbound) (received : s'.received = s.received)
    (nextStream : s'.nextStream = s.nextStream) (objects : s'.objects = update s.objects id o)
    (channel : o.channel = (s.objects id).channel) (tidy : o.Tidy)
    (reader : ∀ id frame, s'.reader = .sending id frame → s.reader = .sending id frame)
    (replays : ∀ thread replay, s'.replays thread = some replay →
      ∃ frames, s.replays thread = some ⟨replay.stream, frames⟩ ∧ replay.frames.Sublist frames)
    (line : ∀ frames, s'.Waiting id frames →
      (o.line ++ (frames ++ s'.hand id)).Sublist (s.inbound (s.objects id).channel)) :
    Ordered s' := by
  have channelOf : ∀ id', (s'.objects id').channel = (s.objects id').channel := by
    intro id'
    rw [objects]
    by_cases same : id' = id
    · rw [same, update_self, channel]
    · rw [update_of_ne same]
  have longer : ∀ thread id' frame frames, s'.replays thread = some ⟨id', frame :: frames⟩ →
      ∃ frame frames, s.replays thread = some ⟨id', frame :: frames⟩ := by
    intro thread id' frame frames running
    obtain ⟨old, before, sub⟩ := replays thread _ running
    cases old with
    | nil => cases sub
    | cons frame frames => exact ⟨frame, frames, before⟩
  refine ⟨?_, ?_, ?_, ?_, ?_, ?_, ?_, ?_⟩
  · rw [channels, inbound]
    exact h.sorted
  · rw [channels, nextStream]
    intro channel' id' registered
    rw [channelOf]
    exact h.known channel' id' registered
  · intro thread replay running
    obtain ⟨frames, before, -⟩ := replays thread replay running
    rw [nextStream]
    exact h.replayKnown thread ⟨replay.stream, frames⟩ before
  · intro id' frame sending
    rw [nextStream]
    exact h.handKnown id' frame (reader id' frame sending)
  · intro thread thread' id' frame frame' frames frames' running running'
    obtain ⟨_, _, before⟩ := longer thread id' frame frames running
    obtain ⟨_, _, before'⟩ := longer thread' id' frame' frames' running'
    exact h.single _ _ _ _ _ _ _ before before'
  · intro id' frames waiting
    rw [inbound, channelOf, objects]
    by_cases same : id' = id
    · subst same
      rw [update_self]
      exact line frames waiting
    rw [update_of_ne same]
    have older : ∃ frames', s.Waiting id' frames' ∧ frames.Sublist frames' := by
      rcases waiting with rfl | ⟨thread, running⟩
      · exact ⟨[], .inl rfl, .refl _⟩
      · obtain ⟨frames', before, sub⟩ := replays thread _ running
        exact ⟨frames', .inr ⟨thread, before⟩, sub⟩
    obtain ⟨frames', waiting', sub⟩ := older
    exact ((sub.append (hand_sublist reader id')).append_left _).trans (h.line id' frames' waiting')
  · intro id'
    rw [objects]
    by_cases same : id' = id
    · rw [same, update_self]
      exact tidy
    · rw [update_of_ne same]
      exact h.tidy id'
  · rw [inbound, received]
    exact h.numbered

theorem setObject {changed : Shared} (channel : changed.1.channel = (s.objects id).channel)
    (line : changed.1.line.Sublist (s.objects id).line)
    (tidy : (s.objects id).Tidy → changed.1.Tidy) : Ordered (s.setObject id changed) :=
  h.put rfl rfl rfl rfl rfl channel (tidy (h.tidy id)) (fun _ _ sending => sending)
    (fun _ replay running => ⟨replay.frames, running, .refl _⟩)
    fun frames waiting => (line.append_right _).trans (h.line id frames waiting)

/-- The read loop and the replays go on with less. -/
theorem relax (channels : s'.channels = s.channels)
    (inbound : s'.inbound = s.inbound) (received : s'.received = s.received)
    (nextStream : s'.nextStream = s.nextStream) (objects : s'.objects = s.objects)
    (reader : ∀ id frame, s'.reader = .sending id frame → s.reader = .sending id frame)
    (replays : ∀ thread replay, s'.replays thread = some replay → s.replays thread = some replay) :
    Ordered s' := by
  refine h.put channels inbound received nextStream
    (objects.trans (update_eq_self 0 _).symm) rfl (h.tidy 0) reader
    (fun thread replay running => ⟨replay.frames, replays thread replay running, .refl _⟩)
    fun frames waiting => ?_
  have waiting' : s.Waiting 0 frames :=
    waiting.imp_right fun ⟨thread, running⟩ => ⟨thread, replays thread _ running⟩
  exact (((hand_sublist reader 0).append_left _).append_left _).trans (h.line 0 frames waiting')

/-- The registry changes. -/
theorem channels (sorted : r.Sorted s.inbound)
    (known : ∀ channel id, r.streams channel = some id →
      id < s.nextStream ∧ (s.objects id).channel = channel) : Ordered { s with channels := r } :=
  { h with sorted, known }

theorem receive (ready : s.reader = .ready) (number : frame.number = s.received + 1) :
    Ordered (s.receive codec channel frame) := by
  have streams : (s.channels.receive codec channel frame).1.streams = s.channels.streams := by
    rcases receive_spec codec s.channels channel frame with
      ⟨same, -⟩ | ⟨shelf, r', -, -, queued, eq⟩
    · rw [same]
    · rw [eq]
      exact (frames_queue queued).1
  have sending : ∀ id f, (s.receive codec channel frame).reader = .sending id f →
      s.channels.streams channel = some id ∧ f = frame := by
    rcases receive_spec codec s.channels channel frame with
      ⟨-, sending⟩ | ⟨shelf, r', -, -, -, eq⟩
    · exact sending
    · intro id f sending
      have ready' : (s.receive codec channel frame).reader = .ready := congrArg Prod.snd eq
      rw [ready'] at sending
      cases sending
  have older := sublist_arrive s.inbound channel frame
  refine ⟨h.sorted.receive codec channel frame, ?_, h.replayKnown, ?_, h.single, ?_, h.tidy, ?_⟩
  · intro channel' id registered
    exact h.known channel' id (streams ▸ registered)
  · intro id f holding
    exact (h.known channel id (sending id f holding).1).1
  · intro id frames waiting
    have before := h.line id frames waiting
    have noHand : s.hand id = [] := by rw [Session.hand, ready]
    rw [noHand, append_nil] at before
    show List.Sublist _ (arrive s.inbound channel frame (s.objects id).channel)
    by_cases held : (s.receive codec channel frame).hand id = []
    · rw [held, append_nil]
      exact before.trans (older _)
    have holding : (s.receive codec channel frame).reader = .sending id frame := by
      unfold Session.hand at held
      split at held
      · next id' f holding =>
        split at held
        · next same =>
          rw [holding, ← same, (sending id' f holding).2]
        · exact absurd rfl held
      · exact absurd rfl held
    have at_channel := (h.known channel id (sending id frame holding).1).2
    rw [Session.hand, holding, at_channel, arrive, update_self]
    rw [at_channel] at before
    dsimp only
    rw [if_pos rfl, ← List.append_assoc]
    exact before.append_right _
  · intro channel'
    show List.Pairwise _ (arrive s.inbound channel frame channel') ∧
      ∀ f ∈ arrive s.inbound channel frame channel', f.number ≤ frame.number
    obtain ⟨increasing, bounded⟩ := h.numbered channel'
    by_cases same : channel' = channel
    · subst same
      rw [arrive, update_self]
      refine ⟨pairwise_append.mpr ⟨increasing, pairwise_singleton _ _, ?_⟩, ?_⟩
      · intro f mem f' mem'
        rw [mem_singleton.mp mem', number]
        exact Nat.lt_succ_of_le (bounded f mem)
      · refine forall_mem_append.mpr ⟨fun f old => ?_, forall_mem_singleton.mpr le_rfl⟩
        exact number ▸ Nat.le_succ_of_le (bounded f old)
    · rw [arrive, update_of_ne same, number]
      exact ⟨increasing, fun f mem => Nat.le_succ_of_le (bounded f mem)⟩

/-- The read loop holds nothing for the next stream. -/
theorem hand_new : s.hand s.nextStream = [] := by
  unfold Session.hand
  split
  · next id frame sending => exact if_neg (Nat.ne_of_lt (h.handKnown id frame sending))
  · rfl

theorem waiting_new (waiting : s.Waiting s.nextStream frames) : frames = [] := by
  rcases waiting with empty | ⟨thread, running⟩
  · exact empty
  · exact absurd (h.replayKnown thread _ running) (Nat.lt_irrefl _)

theorem alloc (channel : Nat) : Ordered { s with
      objects := update s.objects s.nextStream (newClientStream channel)
      nextStream := s.nextStream + 1 } := by
  refine ⟨h.sorted, ?_, fun thread replay running => Nat.lt_succ_of_lt (h.replayKnown thread _ running),
    fun id frame sending => Nat.lt_succ_of_lt (h.handKnown id frame sending), h.single, ?_, ?_,
    h.numbered⟩
  · intro channel' id registered
    obtain ⟨lt, channelOf⟩ := h.known channel' id registered
    dsimp only
    rw [update_of_ne (Nat.ne_of_lt lt)]
    exact ⟨Nat.lt_succ_of_lt lt, channelOf⟩
  · intro id frames waiting
    dsimp only
    by_cases same : id = s.nextStream
    · subst same
      rw [update_self, h.waiting_new waiting]
      show (s.hand s.nextStream).Sublist _
      rw [h.hand_new]
      exact nil_sublist _
    · rw [update_of_ne same]
      exact h.line id frames waiting
  · intro id
    dsimp only
    by_cases same : id = s.nextStream
    · rw [same, update_self]
      exact tidy_new channel
    · rw [update_of_ne same]
      exact h.tidy id

/-- A call begins to replay frames into a stream for which no other frames wait. -/
theorem begins (lt : id < s.nextStream)
    (next : frames = [] ∨ (∀ frames', s.Waiting id frames' → frames' = []) ∧
      ((s.objects id).line ++ (frames ++ s.hand id)).Sublist (s.inbound (s.objects id).channel)) :
    Ordered { s with replays := update s.replays thread (some ⟨id, frames⟩) } := by
  have alone : ∀ frame rest thread' frame' rest', frames = frame :: rest →
      s.replays thread' ≠ some ⟨id, frame' :: rest'⟩ := by
    rintro frame rest thread' frame' rest' rfl running
    rcases next with none | ⟨none, -⟩
    · cases none
    · cases none _ (.inr ⟨thread', running⟩)
  refine { h with replayKnown := ?_, single := ?_, line := ?_ }
  · intro thread' replay running
    rcases update_eq_some running with ⟨-, new⟩ | ⟨-, old⟩
    · cases new
      exact lt
    · exact h.replayKnown thread' replay old
  · intro thread₁ thread₂ id' frame₁ frame₂ frames₁ frames₂ running₁ running₂
    rcases update_eq_some running₁ with ⟨same₁, new₁⟩ | ⟨-, old₁⟩ <;>
      rcases update_eq_some running₂ with ⟨same₂, new₂⟩ | ⟨-, old₂⟩
    · exact same₁.trans same₂.symm
    · cases new₁
      exact absurd old₂ (alone _ _ _ _ _ rfl)
    · cases new₂
      exact absurd old₁ (alone _ _ _ _ _ rfl)
    · exact h.single _ _ _ _ _ _ _ old₁ old₂
  · rintro id' frames' (empty | ⟨thread', running⟩)
    · exact h.line id' frames' (.inl empty)
    · rcases update_eq_some running with ⟨-, new⟩ | ⟨-, old⟩
      · cases new
        rcases next with empty | ⟨-, line⟩
        · exact h.line id frames (.inl empty)
        · exact line
      · exact h.line id' frames' (.inr ⟨thread', old⟩)

theorem begin {taken : Channels × Replay}
    (spec : Taken s.inbound s.channels channel s.nextStream taken.1 taken.2) :
    Ordered (s.begin thread channel taken) := by
  obtain ⟨r, ⟨id, frames⟩⟩ := taken
  have registered : ∀ {channel' id'}, r.streams channel' = some id' →
      channel' = channel ∧ id' = id ∨ s.channels.streams channel' = some id' := by
    intro channel' id' found
    rcases update_eq_some (spec.streams ▸ found) with ⟨same, new⟩ | ⟨-, old⟩
    · exact .inl ⟨same, (Option.some.inj new).symm⟩
    · exact .inr old
  unfold Session.begin
  rcases spec.target with ⟨fresh, free⟩ | ⟨found, empty⟩
  · subst fresh
    have object : update s.objects s.nextStream (newClientStream channel) s.nextStream =
      newClientStream channel := update_self ..
    have made := (h.alloc channel).channels spec.sorted fun channel' id' found => by
      rcases registered found with ⟨rfl, rfl⟩ | old
      · exact ⟨Nat.lt_succ_self _, congrArg _ object⟩
      · exact (h.alloc channel).known channel' id' old
    rw [if_pos free, if_pos free]
    refine made.begins (Nat.lt_succ_self _) (.inr ⟨fun _ waiting => h.waiting_new waiting, ?_⟩)
    dsimp only
    rw [object]
    show (frames ++ s.hand s.nextStream).Sublist (s.inbound channel)
    rw [h.hand_new, append_nil]
    exact spec.inbound
  · have known : ∀ channel' id', r.streams channel' = some id' →
        s.channels.streams channel' = some id' := by
      intro channel' id' found'
      rcases registered found' with ⟨rfl, rfl⟩ | old
      · exact found
      · exact old
    have busy : ¬ s.channels.streams channel = none := by rw [found]; exact nofun
    rw [if_neg busy, if_neg busy]
    exact (h.channels spec.sorted fun channel' id' found' =>
      h.known channel' id' (known channel' id' found')).begins (h.known channel id found).1 (.inl empty)

/-- The read loop sends the frame it holds; nothing is left to be replayed before it. -/
theorem send (sending : s.reader = .sending id frame) (guarded : Guarded s) :
    Ordered ({ s with reader := .ready }.setObject id
      ((s.objects id).send codec.encode s.budget frame)) := by
  have change : Change (some frame) (s.objects id)
      ((s.objects id).send codec.encode s.budget frame).1 := send_change frame
  refine h.put rfl rfl rfl rfl rfl change.channel (change.tidy (h.tidy id)) nofun
    (fun _ replay running => ⟨replay.frames, running, .refl _⟩) fun frames waiting => ?_
  have empty : frames = [] := by
    rcases waiting with empty | ⟨thread, running⟩
    · exact empty
    · exact guarded id frame sending thread frames running
  have before := h.line id [] (.inl rfl)
  rw [Session.hand, sending] at before
  dsimp only at before
  rw [if_pos rfl] at before
  rw [empty]
  refine trans ?_ (change.line.trans before)
  exact append_nil _ ▸ List.Sublist.refl _

theorem replay (running : s.replays thread = some ⟨id, frame :: frames⟩) : Ordered ({ s with
      replays := update s.replays thread (some ⟨id, frames⟩) }.setObject id
        ((s.objects id).send codec.encode s.budget frame)) := by
  have change : Change (some frame) (s.objects id)
      ((s.objects id).send codec.encode s.budget frame).1 := send_change frame
  refine h.put rfl rfl rfl rfl rfl change.channel (change.tidy (h.tidy id))
    (fun _ _ sending => sending) (fun thread' replay running' => ?_) fun frames' waiting => ?_
  · rcases update_eq_some running' with ⟨same, new⟩ | ⟨-, old⟩
    · cases new
      exact ⟨frame :: frames, same ▸ running, sublist_cons_self _ _⟩
    · exact ⟨replay.frames, old, .refl _⟩
  · -- The other calls have nothing left for this stream.
    have fits : frames'.Sublist frames := by
      rcases waiting with rfl | ⟨thread', running'⟩
      · exact nil_sublist _
      rcases update_eq_some running' with ⟨-, new⟩ | ⟨other, old⟩
      · cases new
        exact .refl _
      · cases frames' with
        | nil => exact nil_sublist _
        | cons frame' frames' => exact absurd (h.single _ _ _ _ _ _ _ old running) other
    have before := h.line id (frame :: frames) (.inr ⟨thread, running⟩)
    refine trans ?_ before
    have moved : (s.objects id).line ++ (frame :: frames ++ s.hand id) =
        ((s.objects id).line ++ [frame]) ++ (frames ++ s.hand id) := by
      rw [List.append_assoc]
      rfl
    rw [moved]
    exact change.line.append (fits.append_right _)

theorem closeFunc (channel : Nat) : Ordered (s.closeFunc channel) := by
  have rest := h.channels (h.sorted.closeFunc channel) fun channel' id registered => by
    unfold Channels.closeFunc at registered
    split at registered
    · exact h.known channel' id registered
    rcases update_eq_some registered with ⟨-, none⟩ | ⟨-, old⟩
    · cases none
    · exact h.known channel' id old
  unfold Session.closeFunc
  split
  · exact rest
  next id found =>
  have change : Change none (s.objects id) ((s.objects id).close s.budget).1 :=
    close_change
  exact rest.setObject change.channel (by simpa using change.line) change.tidy

/-- Every step keeps the frames in order when the sends of the read loop are guarded. -/
theorem step (step : ClientStep codec Guarded s s') : Ordered s' := by
  cases step with
  | receive channel frame ready _ number => exact h.receive ready number
  | stop ready => exact h.relax rfl rfl rfl rfl rfl nofun fun _ _ running => running
  | send id frame sending guarded => exact h.send sending guarded
  | reject id message rejecting =>
    have change : Change none (s.objects id)
        ((s.objects id).fail codec.encode s.budget .badRequest message).1 :=
      fail_change .badRequest message
    have rest : Ordered { s with reader := .ready } :=
      h.relax rfl rfl rfl rfl rfl nofun fun _ _ running => running
    exact rest.setObject change.channel (by simpa using change.line) change.tidy
  | stream thread channel => exact h.begin (h.sorted.stream channel s.nextStream)
  | bind thread channel kind =>
    exact h.begin (h.sorted.bindApplicationAttachment channel kind s.nextStream)
  | replay thread id frame frames running => exact h.replay running
  | replayed thread id running =>
    refine h.relax rfl rfl rfl rfl rfl (fun _ _ sending => sending) fun thread' replay running' => ?_
    rcases update_eq_some running' with ⟨-, none⟩ | ⟨-, old⟩
    · cases none
    · exact old
  | closeFunc channel => exact h.closeFunc channel
  | releaseAttachment channel =>
    exact h.channels { h.sorted with } h.known
  | failAll thread ids =>
    have sorted := sorted_empty s.inbound s.channels.pendingLimits
    have rest := h.channels (r := s.channels.failAll) { sorted with } nofun
    exact rest.relax rfl rfl rfl rfl rfl (fun _ _ sending => sending) fun _ _ running => running
  | closeNext thread id ids =>
    have change : Change none (s.objects id) ((s.objects id).close s.budget).1 :=
      close_change
    have rest : Ordered { s with closing := update s.closing thread (some ids) } :=
      h.relax rfl rfl rfl rfl rfl (fun _ _ sending => sending) fun _ _ running => running
    exact rest.setObject change.channel (by simpa using change.line) change.tidy
  | closedAll thread =>
    exact h.relax rfl rfl rfl rfl rfl (fun _ _ sending => sending) fun _ _ running => running
  | nextFrame id o idle next =>
    obtain ⟨line, channel, tidy⟩ := nextFrame_spec idle next
    exact h.setObject channel (line ▸ .refl _) tidy
  | deliver id frame holding =>
    obtain ⟨line, tidy⟩ := deliver_spec holding
    exact h.setObject rfl (line ▸ .refl _) tidy
  | release id frame releasing =>
    obtain ⟨line, channel, tidy⟩ := @release_spec _ s.budget _ releasing
    exact h.setObject channel (line ▸ .refl _) tidy
  | giveUp id frame =>
    obtain ⟨line, channel, tidy⟩ := @giveUp_spec _ s.budget frame
    exact h.setObject channel line tidy

end Ordered

end

theorem ordered_run {limits : ClientPendingLimits}
    (run : Relation.ReflTransGen (ClientStep codec Guarded) (newSession limits) s) : Ordered s := by
  induction run with
  | refl => exact ordered_new limits
  | tail _ step ih => exact ih.step step

/-- The peer's frames among those that the consumer of a stream has received. -/
def ClientStream.fromPeer (o : ClientStream) : List StreamFrame :=
  (o.delivered.filter (·.countsAsFrame)).map (·.frame)

/-- When the read loop waits for the replay, a stream delivers a subsequence of what its channel
received, in the order of the transport. A frame that the client made itself can only be the last
one. -/
theorem delivered_in_order {limits : ClientPendingLimits}
    (run : Relation.ReflTransGen (ClientStep codec Guarded) (newSession limits) s) (id : StreamID) :
    (s.objects id).fromPeer.Sublist (s.inbound (s.objects id).channel) ∧
      (s.inbound (s.objects id).channel).Pairwise (·.number < ·.number) ∧
      (s.objects id).delivered.Pairwise fun frame _ => frame.countsAsFrame = true := by
  have h := ordered_run run
  have first : (s.objects id).delivered.Sublist (s.objects id).shown := sublist_append_left _ _
  have all := h.line id [] (.inl rfl)
  refine ⟨?_, (h.numbered _).1, (h.tidy id).front.sublist first⟩
  exact ((first.filter _).map _).trans ((sublist_append_left _ _).trans all)

end Steps

section Race

/-- Error payloads are neither made nor read here. -/
def plainCodec : ErrorCodec := ⟨fun _ _ => none, fun _ => false⟩

/-- Two pieces of terminal output on channel 1. -/
def frameA : StreamFrame := ⟨1, Wire.typePTYOutput, [97]⟩
def frameB : StreamFrame := ⟨2, Wire.typePTYOutput, [98]⟩

/-- The first frame has arrived before anyone asked for the stream, and `Stream` has taken it. -/
def streamOpened : Session :=
  let s := (newSession defaultClientPendingLimits).receive plainCodec 1 frameA
  s.begin 0 1 (s.channels.stream 1 s.nextStream)

theorem streamOpened_reachable (ok : Session → Prop) :
    Relation.ReflTransGen (ClientStep plainCodec ok) (newSession defaultClientPendingLimits)
      streamOpened :=
  .tail (.single (.receive 1 frameA rfl nofun rfl)) (.stream 0 1 rfl)

/-- The read loop sends the second frame before `Stream` has replayed the first one: the consumer
gets them in the wrong order. -/
theorem replay_overtaken : ∃ s, Relation.ReflTransGen (ClientStep plainCodec fun _ => True)
      (newSession defaultClientPendingLimits) s ∧ (s.objects 0).channel = 1 ∧
      s.inbound 1 = [frameA, frameB] ∧ (s.objects 0).fromPeer = [frameB, frameA] ∧
      ¬ (s.objects 0).fromPeer.Sublist (s.inbound (s.objects 0).channel) := by
  have opened := streamOpened_reachable fun _ => True
  have received := opened.tail (.receive 1 frameB rfl nofun rfl)
  have sent := received.tail (.send 0 frameB rfl trivial)
  have replayed := sent.tail (.replay 0 0 frameA [] rfl)
  have first := ((replayed.tail (.nextFrame 0 _ rfl rfl)).tail
    (.deliver 0 ⟨frameB, 1, true⟩ rfl)).tail (.release 0 ⟨frameB, 1, true⟩ rfl)
  have second := (first.tail (.nextFrame 0 _ rfl rfl)).tail (.deliver 0 ⟨frameA, 1, true⟩ rfl)
  refine ⟨_, second, rfl, rfl, rfl, ?_⟩
  show ¬ [frameB, frameA].Sublist [frameA, frameB]
  decide

/-- The same frames when the read loop waits: they arrive in order. -/
theorem delivered_in_order_example : ∃ s, Relation.ReflTransGen (ClientStep plainCodec Guarded)
      (newSession defaultClientPendingLimits) s ∧ (s.objects 0).fromPeer = [frameA, frameB] ∧
      (s.objects 0).fromPeer.Sublist (s.inbound (s.objects 0).channel) ∧
      (s.inbound (s.objects 0).channel).Pairwise (·.number < ·.number) ∧
      (s.objects 0).delivered.Pairwise fun frame _ => frame.countsAsFrame = true := by
  have opened := streamOpened_reachable Guarded
  have replayed := opened.tail (.replay 0 0 frameA [] rfl)
  have received := replayed.tail (.receive 1 frameB rfl nofun rfl)
  have sent := received.tail (.send 0 frameB rfl ?_)
  · have first := ((sent.tail (.nextFrame 0 _ rfl rfl)).tail
      (.deliver 0 ⟨frameA, 1, true⟩ rfl)).tail (.release 0 ⟨frameA, 1, true⟩ rfl)
    have second := (first.tail (.nextFrame 0 _ rfl rfl)).tail (.deliver 0 ⟨frameB, 1, true⟩ rfl)
    exact ⟨_, second, rfl, delivered_in_order second 0⟩
  · intro id frame _ thread frames running
    rcases update_eq_some running with ⟨-, new⟩ | ⟨other, old⟩
    · cases new
      rfl
    · rcases update_eq_some old with ⟨same, -⟩ | ⟨-, none⟩
      · exact absurd same other
      · cases none

end Race

end Anytty.Client
