import Anytty.Tui.Outbound

/-!
# Access streams on their way to the layout program

A bridge relays one access stream. Its pump receives a frame, asks the host for its current
session and hands the frame to that session's outbound writer; error reports of the other
goroutines take the same way. A restart of the program closes the bridges it finds, stops
the program and starts a new one with a new session.

`stream_data_in_order` says what is written to a program: for each stream the data that its
resource delivered, in order and from the start, and never to a session started later.
It needs two things that the code does not ensure. A data frame has to find room in the
queue, since a full queue replaces queued data of any stream. And a program may be
started only when the bridges of the one before are closed and none of their goroutines is
on its way to a session, since the session is looked up at the last moment.
-/

namespace Anytty.Tui.AccessStream

open List

abbrev Bytes := List UInt8

inductive FrameKind
  | data
  | close
  | error
deriving DecidableEq, Repr

/-- A STREAM frame to the program. -/
structure StreamFrame where
  streamID : Nat
  kind : FrameKind
  wireType : Nat
  payload : Bytes
  error : String
deriving DecidableEq, Repr

/-- What the writer of a session carries: a frame of a bridge, or anything else. -/
inductive Message
  | stream (bridge : Nat) (frame : StreamFrame)
  | other
deriving DecidableEq, Repr

/-- The goroutines that send frames of a bridge. -/
inductive Sender
  | pumpToProgram
  | pumpToResource
  /-- The frame reader, when a frame of the program makes the stream fail. -/
  | reader
deriving DecidableEq, Repr

/-- Where a goroutine is in `sendStreamFrame`. -/
inductive Phase
  | quiet
  /-- It has a frame to send; after the last one it ends. -/
  | ready (frame : StreamFrame) (last : Bool)
  /-- It has looked up the session. -/
  | handing (session : Nat) (frame : StreamFrame) (last : Bool)
  | done
deriving DecidableEq, Repr

structure Bridge where
  id : Nat
  /-- The session whose program opened the stream. -/
  session : Nat
  /-- The data frames that its stream has delivered. -/
  delivered : List (Nat × Bytes)
  cancelled : Bool
  phase : Sender → Phase

/-- A session as far as its output is concerned. -/
structure Output where
  writer : OutboundWriter Message
  /-- `Session.out` is set. -/
  attached : Bool
  /-- The program has not been stopped. -/
  pipeOpen : Bool

/-- The frame loop's way through a restart. -/
inductive Loop
  | running
  /-- `closeAllAccessStreams` with the bridges it still has to close. -/
  | closing (bridges : List Nat)
  | stopping
  | detaching
  | closingWriter
  | starting
deriving DecidableEq, Repr

structure Host where
  /-- The sessions, in the order of their start; the last is the current one. -/
  sessions : Nat → Output
  started : Nat
  accessPending : List Nat
  /-- The published bridges, by stream id. -/
  accessStreams : Nat → Option Nat
  bridges : Nat → Option Bridge
  opened : Nat
  loop : Loop

section

variable (h : Host)

def Host.currentSession : Option Nat :=
  if h.started = 0 then none else some (h.started - 1)

def newOutput : Output := ⟨newOutboundWriter, true, true⟩

def newBridge (id session : Nat) : Bridge := ⟨id, session, [], false, fun _ => .quiet⟩

/-- What `Receive` returns, by its wire type. -/
inductive Received
  | data (wireType : Nat) (payload : Bytes)
  | closed
  | syncLost
  | failed (text : String)
  | err (text : String)
deriving DecidableEq, Repr

def Bridge.frame (b : Bridge) (kind : FrameKind) (error : String) : StreamFrame :=
  ⟨b.id, kind, 0, [], error⟩

def Bridge.setPhase (b : Bridge) (sender : Sender) (phase : Phase) : Bridge :=
  { b with phase := fun s => if s = sender then phase else b.phase s }

/-- One round of `pumpToProgram` up to the frame it sends. -/
def Bridge.receive (b : Bridge) (received : Received) : Bridge :=
  match b.phase .pumpToProgram with
  | .quiet =>
    match received with
    | .data wireType payload =>
      { b with delivered := b.delivered ++ [(wireType, payload)] }.setPhase .pumpToProgram
        (.ready ⟨b.id, .data, wireType, payload, ""⟩ false)
    | .closed => b.setPhase .pumpToProgram (.ready (b.frame .close "") true)
    | .syncLost => b.setPhase .pumpToProgram (.ready (b.frame .error "stream sync lost") true)
    | .failed text => b.setPhase .pumpToProgram (.ready (b.frame .error text) true)
    | .err text =>
      -- an error after the cancellation is not reported
      b.setPhase .pumpToProgram
        (if b.cancelled then .done else .ready (b.frame .error text) true)
  | _ => b

/-- The class and key that `SendStream` gives a frame. -/
def outbound (bridge : Nat) (frame : StreamFrame) : OutboundFrame Message :=
  if frame.kind = .data then ⟨.stream bridge frame, .coalescible, "stream:data"⟩
  else ⟨.stream bridge frame, .control, "stream:control"⟩

/-- What the codec takes, and how long the queue may be. -/
structure Limits where
  marshals : StreamFrame → Bool
  outputQueue : Nat

/-- `SendStream`: `none` while the caller has to wait, else whether it went well. After
`Close` the encoder writes to the pipe itself. -/
def Output.sendStream (limits : Limits) (o : Output) (bridge : Nat) (frame : StreamFrame) :
    Option (Output × Bool) :=
  if limits.marshals frame = false then some (o, false)
  else if o.attached then
    match o.writer.enqueue limits.outputQueue (outbound bridge frame) with
    | .accepted writer => some ({ o with writer := writer }, true)
    | .closed => some (o, false)
    | .waiting => none
  else if o.pipeOpen then
    some ({ o with
      writer := { o.writer with written := o.writer.written ++ [.stream bridge frame] } }, true)
  else some (o, false)

/-- A frame of the session itself. -/
def Output.sendOther (limits : Limits) (o : Output) (outputClass : OutputClass) (key : String) :
    Output :=
  if o.attached then
    match o.writer.enqueue limits.outputQueue ⟨.other, outputClass, key⟩ with
    | .accepted writer => { o with writer := writer }
    | .closed | .waiting => o
  else o

/-- Where a sender is after its frame was taken or refused. -/
def Sender.after (sender : Sender) (last ok : Bool) : Phase :=
  match sender with
  | .reader => .quiet
  | .pumpToProgram | .pumpToResource => if ok && !last then .quiet else .done

def Host.setBridge (b : Nat) (bridge : Bridge) : Host :=
  { h with bridges := fun i => if i = b then some bridge else h.bridges i }

def Host.setSession (s : Nat) (output : Output) : Host :=
  { h with sessions := fun i => if i = s then output else h.sessions i }

/-- The bridge `b` is published. -/
def Host.published (b : Nat) (bridge : Bridge) : Bool :=
  h.accessStreams bridge.id = some b

def Host.unpublish (b : Nat) : Host :=
  match h.bridges b with
  | some bridge =>
    { h with
      accessStreams := fun id =>
        if id = bridge.id ∧ h.accessStreams id = some b then none else h.accessStreams id }
  | none => h

def Host.cancel (b : Nat) : Host :=
  match h.bridges b with
  | some bridge => h.setBridge b { bridge with cancelled := true }
  | none => h

/-- `sendStreamFrame` finds the session. -/
def Host.lookup (b : Nat) (sender : Sender) : Host :=
  match h.bridges b with
  | some bridge =>
    match bridge.phase sender with
    | .ready frame last =>
      match h.currentSession with
      | some session => h.setBridge b (bridge.setPhase sender (.handing session frame last))
      | none => h.setBridge b (bridge.setPhase sender (sender.after last false))
    | _ => h
  | none => h

/-- `sendStreamFrame` hands its frame over. -/
def Host.send (limits : Limits) (h : Host) (b : Nat) (sender : Sender) : Host :=
  match h.bridges b with
  | some bridge =>
    match bridge.phase sender with
    | .handing session frame last =>
      match (h.sessions session).sendStream limits b frame with
      | some (output, ok) =>
        (h.setSession session output).setBridge b
          (bridge.setPhase sender (sender.after last ok))
      | none => h
    | _ => h
  | none => h

inductive Event
  /-- `reserveAccessStream`. -/
  | reserve (id : Nat)
  | releaseReservation (id : Nat)
  /-- `installAccessStream` for an open that the program of `session` asked for. -/
  | install (session id : Nat)
  | receive (b : Nat) (received : Received)
  /-- The reader fails the stream, or writing to the resource fails. -/
  | fail (b : Nat) (sender : Sender) (text : String)
  | lookup (b : Nat) (sender : Sender)
  | send (b : Nat) (sender : Sender)
  /-- The two ends of `close`: the map of the host and the context. -/
  | unpublish (b : Nat)
  | cancel (b : Nat)
  | sendOther (session : Nat) (outputClass : OutputClass) (key : String)
  | take (session : Nat)
  | write (session : Nat)
  | restart
  | closeNext
  | stopProcess
  | detachWriter
  | closeWriter
  | startProgram

/-- Whether a goroutine of a bridge may come to report an error: the reader found the bridge
in the map, or writing to the resource failed before the cancellation. -/
def Host.mayFail (b : Nat) (bridge : Bridge) : Sender → Bool
  | .pumpToProgram => false
  | .pumpToResource => !bridge.cancelled
  | .reader => h.published b bridge

/-- `fail` and the error branch of `pumpToResource`. -/
def Host.fail (b : Nat) (sender : Sender) (text : String) : Host :=
  match h.bridges b with
  | some bridge =>
    if h.mayFail b bridge sender ∧ bridge.phase sender = .quiet then
      h.setBridge b (bridge.setPhase sender (.ready
        (bridge.frame .error
          (if sender = .reader ∧ text = "" then "stream failed" else text)) true))
    else h
  | none => h

def Host.install (session id : Nat) : Host :=
  if h.currentSession = some session ∧ id ∈ h.accessPending then
    { h.setBridge h.opened (newBridge id session) with
      accessPending := h.accessPending.erase id
      accessStreams := fun i => if i = id then some h.opened else h.accessStreams i
      opened := h.opened + 1 }
  else h

/-- The published bridges, as `closeAllAccessStreams` collects them. -/
def Host.publishedBridges : List Nat :=
  (List.range h.opened).filter fun b => (h.bridges b).any (h.published b)

/-- One step of the host; an event whose turn it is not changes nothing. -/
def Host.perform (limits : Limits) (h : Host) : Event → Host
  | .reserve id =>
    if id ∈ h.accessPending ∨ (h.accessStreams id).isSome then h
    else { h with accessPending := id :: h.accessPending }
  | .releaseReservation id => { h with accessPending := h.accessPending.erase id }
  | .install session id => h.install session id
  | .receive b received =>
    match h.bridges b with
    | some bridge => h.setBridge b (bridge.receive received)
    | none => h
  | .fail b sender text => h.fail b sender text
  | .lookup b sender => h.lookup b sender
  | .send b sender => h.send limits b sender
  | .unpublish b => h.unpublish b
  | .cancel b => h.cancel b
  | .sendOther session outputClass key =>
    if session < h.started then
      h.setSession session ((h.sessions session).sendOther limits outputClass key)
    else h
  | .take session =>
    h.setSession session
      { h.sessions session with writer := (h.sessions session).writer.take }
  | .write session =>
    h.setSession session
      { h.sessions session with
        writer := (h.sessions session).writer.write (h.sessions session).pipeOpen }
  | .restart =>
    if h.loop = .running then
      { h with loop := .closing h.publishedBridges, accessPending := [] }
    else h
  | .closeNext =>
    match h.loop with
    | .closing [] => { h with loop := .stopping }
    | .closing (b :: bridges) => { (h.unpublish b).cancel b with loop := .closing bridges }
    | _ => h
  | .stopProcess =>
    if h.loop = .stopping then
      { h.setSession (h.started - 1) { h.sessions (h.started - 1) with pipeOpen := false } with
        loop := .detaching }
    else h
  | .detachWriter =>
    if h.loop = .detaching then
      { h.setSession (h.started - 1) { h.sessions (h.started - 1) with attached := false } with
        loop := .closingWriter }
    else h
  | .closeWriter =>
    if h.loop = .closingWriter then
      { h.setSession (h.started - 1)
          { h.sessions (h.started - 1) with
            writer := (h.sessions (h.started - 1)).writer.close } with
        loop := .starting }
    else h
  | .startProgram =>
    if h.loop = .starting then
      { h.setSession h.started newOutput with started := h.started + 1, loop := .running }
    else h

def Host.run (limits : Limits) (h : Host) (events : List Event) : Host :=
  events.foldl (Host.perform limits) h

/-- The host before its first program. -/
def newHost : Host where
  sessions := fun _ => newOutput
  started := 0
  accessPending := []
  accessStreams := fun _ => none
  bridges := fun _ => none
  opened := 0
  loop := .starting

/-! ### What may go wrong -/

/-- A session whose queue has room for a frame, or does not take it anyway. -/
def Output.HasRoom (limits : Limits) (o : Output) : Prop :=
  o.attached → o.writer.closed = false → o.writer.queue.length < max limits.outputQueue 1

def Phase.active : Phase → Bool
  | .quiet | .done => false
  | .ready _ _ | .handing _ _ _ => true

/-- Some goroutine of the bridge may still send. -/
def Host.Live (b : Nat) (bridge : Bridge) : Prop :=
  h.published b bridge ∨ bridge.cancelled = false ∨ bridge.phase .pumpToProgram ≠ .done ∨
    ∃ sender, (bridge.phase sender).active

end

/-- The steps that lose and misdirect nothing. -/
def Careful (limits : Limits) (h : Host) : Event → Prop
  | .send b sender =>
    ∀ bridge session frame last, h.bridges b = some bridge →
      bridge.phase sender = .handing session frame last → frame.kind = .data →
      (h.sessions session).HasRoom limits
  | .sendOther session outputClass key =>
    outputClass = .coalescible →
      (h.sessions session).HasRoom limits ∨
        key ≠ "stream:data" ∧
          ∃ queued ∈ (h.sessions session).writer.queue,
            queued.isCoalescible ∧ queued.coalesce = key
  | .startProgram => ∀ b bridge, h.bridges b = some bridge → ¬ h.Live b bridge
  | _ => True

inductive Reachable (limits : Limits) : Host → Prop
  | start : Reachable limits newHost
  | step {h : Host} (e : Event) : Reachable limits h → Careful limits h e →
    Reachable limits (h.perform limits e)

/-! ### What every careful run keeps -/

/-- The data of one bridge among some messages. -/
def dataOf (b : Nat) (messages : List Message) : List (Nat × Bytes) :=
  messages.filterMap fun
    | .stream b' frame =>
      if b' = b ∧ frame.kind = .data then some (frame.wireType, frame.payload) else none
    | .other => none

@[simp]
theorem dataOf_append (b : Nat) (messages more : List Message) :
    dataOf b (messages ++ more) = dataOf b messages ++ dataOf b more :=
  filterMap_append

/-- The frame that a goroutine is sending. -/
def Phase.frame : Phase → Option StreamFrame
  | .ready frame _ | .handing _ frame _ => some frame
  | .quiet | .done => none

/-- The data frame that a goroutine is sending. -/
def Phase.pending (phase : Phase) : List (Nat × Bytes) :=
  match phase.frame with
  | some frame => if frame.kind = .data then [(frame.wireType, frame.payload)] else []
  | none => []

/-- What the session of a bridge holds of its data. While the pipe is open nothing accepted
is lost, so that as long as the pump runs only the frame in its hands is missing. -/
structure DataOK (o : Output) (b : Nat) (bridge : Bridge) : Prop where
  written : dataOf b o.writer.written <+: bridge.delivered
  piped : o.pipeOpen = true → dataOf b o.writer.pipeline <+: bridge.delivered
  flowing : o.pipeOpen = true → bridge.phase .pumpToProgram ≠ .done →
    dataOf b o.writer.pipeline ++ (bridge.phase .pumpToProgram).pending = bridge.delivered

/-- The goroutines of a bridge know their session, and only the pump sends data. -/
structure SendersOK (bridge : Bridge) : Prop where
  handing : ∀ sender session frame last,
    bridge.phase sender = .handing session frame last → session = bridge.session
  control : ∀ sender, sender ≠ .pumpToProgram → (bridge.phase sender).pending = []
  labelled : ∀ sender, ∀ frame ∈ (bridge.phase sender).frame, frame.streamID = bridge.id

structure SessionOK (bridges : Nat → Option Bridge) (s : Nat) (o : Output) : Prop where
  origin : ∀ b frame, .stream b frame ∈ o.writer.pipeline →
    ∃ bridge, bridges b = some bridge ∧ bridge.session = s ∧ frame.streamID = bridge.id
  keyed : ∀ queued ∈ o.writer.queue, queued.isCoalescible → queued.message ≠ .other →
    queued.coalesce = "stream:data"
  detached : o.attached = false → o.pipeOpen = false
  closed : o.writer.closed = true → o.pipeOpen = false

structure Delivering (h : Host) : Prop where
  known : ∀ b bridge, h.bridges b = some bridge → b < h.opened ∧ bridge.session < h.started
  current : ∀ b bridge, h.bridges b = some bridge → h.Live b bridge →
    h.currentSession = some bridge.session
  senders : ∀ b bridge, h.bridges b = some bridge → SendersOK bridge
  data : ∀ b bridge, h.bridges b = some bridge → DataOK (h.sessions bridge.session) b bridge
  sessions : ∀ s, SessionOK h.bridges s (h.sessions s)
  future : ∀ s, h.started ≤ s → h.sessions s = newOutput
  stopped : h.loop = .detaching ∨ h.loop = .closingWriter →
    (h.sessions (h.started - 1)).pipeOpen = false
  begun : h.loop ≠ .starting → 0 < h.started

theorem newHost_delivering : Delivering newHost where
  known := by simp [newHost]
  current := by simp [newHost]
  senders := by simp [newHost]
  data := by simp [newHost]
  sessions := fun s => ⟨by simp [newHost, newOutput, newOutboundWriter, OutboundWriter.pipeline],
    by simp [newHost, newOutput, newOutboundWriter], by simp [newHost, newOutput],
    by simp [newHost, newOutput, newOutboundWriter]⟩
  future := fun _ _ => rfl
  stopped := by simp [newHost]
  begun := absurd rfl

section Steps

variable {limits : Limits} {h : Host} {b : Nat} {bridge : Bridge} {bridge' : Bridge} {o : Output}
  {s : Nat} {sender : Sender} {frame : StreamFrame} {phase : Phase}

/-- A bridge changes, but not its stream and its session. -/
theorem SessionOK.setBridge {bridges : Nat → Option Bridge} (ok : SessionOK bridges s o)
    (at_b : bridges b = some bridge) (session : bridge'.session = bridge.session)
    (id : bridge'.id = bridge.id) :
    SessionOK (fun i => if i = b then some bridge' else bridges i) s o where
  origin := by
    intro i frame member
    obtain ⟨there, found, same, label⟩ := ok.origin i frame member
    by_cases here : i = b
    · subst here
      cases at_b.symm.trans found
      exact ⟨bridge', by simp, session.trans same, label.trans id.symm⟩
    · exact ⟨there, by simp [here, found], same, label⟩
  keyed := ok.keyed
  detached := ok.detached
  closed := ok.closed

/-- What holds of the new bridge and of the others. -/
theorem forall_setBridge {P : Nat → Bridge → Prop} (self : P b bridge)
    (others : ∀ i ≠ b, ∀ there, h.bridges i = some there → P i there) (i : Nat) (there : Bridge)
    (found : (h.setBridge b bridge).bridges i = some there) : P i there := by
  unfold Host.setBridge at found
  dsimp only at found
  split at found
  · next same => exact same ▸ Option.some.inj found ▸ self
  · next other => exact others i other there found

/-- A bridge and its session change together. -/
theorem Delivering.update (ok : Delivering h) (at_b : h.bridges b = some bridge)
    (session : bridge'.session = bridge.session) (id : bridge'.id = bridge.id)
    (live : h.Live b bridge' → h.Live b bridge) (senders : SendersOK bridge')
    (data : DataOK o b bridge') (output : SessionOK h.bridges bridge.session o)
    (others : ∀ i there, i ≠ b → h.bridges i = some there → there.session = bridge.session →
      DataOK o i there) (pipe : o.pipeOpen = (h.sessions bridge.session).pipeOpen) :
    Delivering ((h.setSession bridge.session o).setBridge b bridge') := by
  refine ⟨?_, ?_, ?_, ?_, ?_, ?_, ?_, ok.begun⟩
  · refine forall_setBridge ?_ fun i _ => ok.known i
    rw [session]
    exact ok.known b bridge at_b
  · refine forall_setBridge (fun alive => ?_) fun i _ => ok.current i
    rw [session]
    exact ok.current b bridge at_b (live alive)
  · exact forall_setBridge senders fun i _ => ok.senders i
  · refine forall_setBridge ?_ fun i other there found => ?_
    · change DataOK (if bridge'.session = bridge.session then o else _) b bridge'
      rw [if_pos session]
      exact data
    · change DataOK (if there.session = bridge.session then o else _) i there
      split
      · next same => exact others i there other found same
      · exact ok.data i there found
  · intro s
    refine SessionOK.setBridge ?_ at_b session id
    change SessionOK h.bridges s (if s = bridge.session then o else h.sessions s)
    split
    · next same => exact same ▸ output
    · exact ok.sessions s
  · intro s later
    have earlier := (ok.known b bridge at_b).2
    have ne : s ≠ bridge.session := fun same => absurd later (Nat.not_le.mpr (same ▸ earlier))
    change (if s = bridge.session then o else h.sessions s) = newOutput
    rw [if_neg ne]
    exact ok.future s later
  · intro phase
    have closed := ok.stopped phase
    change (if h.started - 1 = bridge.session then o else
      h.sessions (h.started - 1)).pipeOpen = false
    split
    · next same => rw [pipe, ← same, closed]
    · exact closed

theorem setSession_self (h : Host) (s : Nat) : h.setSession s (h.sessions s) = h := by
  have same : (fun i => if i = s then h.sessions s else h.sessions i) = h.sessions := by
    funext i
    split
    · next at_s => rw [at_s]
    · rfl
  unfold Host.setSession
  rw [same]

theorem Delivering.setBridge (ok : Delivering h) (at_b : h.bridges b = some bridge)
    (session : bridge'.session = bridge.session) (id : bridge'.id = bridge.id)
    (live : h.Live b bridge' → h.Live b bridge) (senders : SendersOK bridge')
    (data : DataOK (h.sessions bridge.session) b bridge') :
    Delivering (h.setBridge b bridge') := by
  rw [← setSession_self h bridge.session]
  refine ok.update at_b session id live senders data (ok.sessions _) ?_ rfl
  rintro i there - found same
  exact same ▸ ok.data i there found

/-- A session changes in a way that its bridges allow. -/
theorem Delivering.setSession (ok : Delivering h) (session : SessionOK h.bridges s o)
    (data : ∀ b bridge, h.bridges b = some bridge → bridge.session = s → DataOK o b bridge)
    (future : h.started ≤ s → o = newOutput)
    (pipe : (h.sessions s).pipeOpen = false → o.pipeOpen = false) :
    Delivering (h.setSession s o) := by
  refine ⟨ok.known, ok.current, ok.senders, ?_, ?_, ?_, ?_, ok.begun⟩
  · intro b bridge found
    change DataOK (if bridge.session = s then o else h.sessions bridge.session) b bridge
    split
    · next same => exact data b bridge found same
    · exact ok.data b bridge found
  · intro i
    change SessionOK h.bridges i (if i = s then o else h.sessions i)
    split
    · next same => exact same ▸ session
    · exact ok.sessions i
  · intro i later
    change (if i = s then o else h.sessions i) = newOutput
    split
    · next same => exact future (same ▸ later)
    · exact ok.future i later
  · intro phase
    change (if h.started - 1 = s then o else h.sessions (h.started - 1)).pipeOpen = false
    have closed := ok.stopped phase
    split
    · next same => exact pipe (same ▸ closed)
    · exact closed

/-- What is in the map of streams, pending or the loop changes; nothing is published. -/
theorem Delivering.mono {accessPending : List Nat} {accessStreams : Nat → Option Nat} {loop : Loop}
    (ok : Delivering h)
    (published : ∀ b bridge, h.bridges b = some bridge →
      accessStreams bridge.id = some b → h.accessStreams bridge.id = some b)
    (stopped : loop = .detaching ∨ loop = .closingWriter →
      (h.sessions (h.started - 1)).pipeOpen = false)
    (begun : loop ≠ .starting → 0 < h.started) :
    Delivering { h with
      accessPending := accessPending, accessStreams := accessStreams, loop := loop } := by
  refine { ok with current := ?_, stopped, begun }
  intro b bridge found live
  refine ok.current b bridge found (live.imp_left fun there => ?_)
  simpa [Host.published] using published b bridge found (by simpa [Host.published] using there)

theorem SendersOK.setPhase (ok : SendersOK bridge)
    (handing : ∀ session frame last, phase = .handing session frame last →
      session = bridge.session) (control : sender ≠ .pumpToProgram → phase.pending = [])
    (labelled : ∀ frame ∈ phase.frame, frame.streamID = bridge.id) :
    SendersOK (bridge.setPhase sender phase) := by
  refine ⟨?_, ?_, ?_⟩
  · intro other session frame last found
    change (if other = sender then phase else bridge.phase other) = _ at found
    split at found
    · exact handing session frame last found
    · exact ok.handing other session frame last found
  · intro other notPump
    change (if other = sender then phase else bridge.phase other).pending = []
    split
    · next same => exact control (same ▸ notPump)
    · exact ok.control other notPump
  · intro other frame member
    change frame ∈ (if other = sender then phase else bridge.phase other).frame at member
    split at member
    · exact labelled frame member
    · exact ok.labelled other frame member

/-- A goroutine reports something other than data. -/
theorem SendersOK.report {kind : FrameKind} {text : String} (ok : SendersOK bridge)
    (control : kind ≠ .data) :
    SendersOK (bridge.setPhase sender (.ready (bridge.frame kind text) true)) := by
  refine ok.setPhase ?_ (fun _ => if_neg control) ?_
  · rintro _ _ _ ⟨⟩
  · rintro frame ⟨⟩
    rfl

theorem SendersOK.idle (ok : SendersOK bridge) (none : phase.frame = none) :
    SendersOK (bridge.setPhase sender phase) := by
  refine ok.setPhase ?_ ?_ ?_
  · rintro session frame last rfl
    cases none
  · intro _
    rw [Phase.pending, none]
  · intro frame member
    rw [none] at member
    cases member

/-- A goroutine other than the pump moves on. -/
theorem DataOK.setPhase (ok : DataOK o b bridge) (notPump : sender ≠ .pumpToProgram) :
    DataOK o b (bridge.setPhase sender phase) := by
  have pump : (bridge.setPhase sender phase).phase .pumpToProgram =
      bridge.phase .pumpToProgram := if_neg (Ne.symm notPump)
  exact ⟨ok.written, ok.piped, fun pipe running => by
    rw [pump] at running ⊢
    exact ok.flowing pipe running⟩

/-- The pump takes or passes on a frame without changing what is pending, or ends. -/
theorem DataOK.pump (ok : DataOK o b bridge)
    (next : phase = .done ∨ bridge.phase .pumpToProgram ≠ .done ∧
      phase.pending = (bridge.phase .pumpToProgram).pending) :
    DataOK o b (bridge.setPhase .pumpToProgram phase) := by
  refine ⟨ok.written, ok.piped, fun pipe running => ?_⟩
  change dataOf b o.writer.pipeline ++ phase.pending = bridge.delivered
  rcases next with ended | ⟨was, same⟩
  · exact absurd ended running
  · rw [same]
    exact ok.flowing pipe was

theorem live_of_active (active : (bridge.phase sender).active) :
    h.Live b bridge := .inr (.inr (.inr ⟨sender, active⟩))

theorem Delivering.receive (ok : Delivering h) (at_b : h.bridges b = some bridge)
    (received : Received) : Delivering (h.setBridge b (bridge.receive received)) := by
  have senders := ok.senders b bridge at_b
  have data := ok.data b bridge at_b
  unfold Bridge.receive
  split
  · next quiet =>
    have running : bridge.phase .pumpToProgram ≠ .done := by
      rw [quiet]
      rintro ⟨⟩
    have live : ∀ {bridge' : Bridge}, h.Live b bridge' → h.Live b bridge :=
      fun _ => .inr (.inr (.inl running))
    have report : ∀ {kind : FrameKind} {text : String}, kind ≠ .data →
        Delivering (h.setBridge b
          (bridge.setPhase .pumpToProgram (.ready (bridge.frame kind text) true))) := by
      intro kind text control
      refine ok.setBridge at_b rfl rfl live (senders.report control) (data.pump (.inr ⟨running, ?_⟩))
      rw [quiet]
      exact if_neg control
    cases received with
    | data wireType payload =>
      refine ok.setBridge at_b rfl rfl live ?_ ⟨?_, ?_, ?_⟩
      · refine SendersOK.setPhase ⟨senders.handing, senders.control, senders.labelled⟩ ?_ ?_ ?_
        · rintro _ _ _ ⟨⟩
        · intro notPump
          exact absurd rfl notPump
        · rintro frame ⟨⟩
          rfl
      · exact data.written.trans (prefix_append _ _)
      · intro pipe
        exact (data.piped pipe).trans (prefix_append _ _)
      · intro pipe _
        have flowing := data.flowing pipe running
        rw [quiet] at flowing
        change dataOf b _ ++ [(wireType, payload)] = bridge.delivered ++ [(wireType, payload)]
        rw [← flowing]
        simp [Phase.pending, Phase.frame]
    | closed | syncLost | failed text => exact report nofun
    | err text =>
      dsimp only
      split
      · exact ok.setBridge at_b rfl rfl live (senders.idle rfl) (data.pump (.inl rfl))
      · exact report nofun
  · exact ok.setBridge at_b rfl rfl id senders data

theorem Delivering.fail (ok : Delivering h) (sender : Sender) (text : String) :
    Delivering (h.fail b sender text) := by
  unfold Host.fail
  split
  · next bridge at_b =>
    split
    · next guarded =>
      have notPump : sender ≠ .pumpToProgram := by
        rintro rfl
        cases guarded.1
      have live : h.Live b bridge := by
        cases sender with
        | pumpToProgram => exact absurd rfl notPump
        | pumpToResource =>
          have open' : (!bridge.cancelled) = true := guarded.1
          exact .inr (.inl (by simpa using open'))
        | reader => exact .inl guarded.1
      exact ok.setBridge at_b rfl rfl (fun _ => live) ((ok.senders b bridge at_b).report nofun)
        ((ok.data b bridge at_b).setPhase notPump)
    · exact ok
  · exact ok

theorem Delivering.lookup (ok : Delivering h) (sender : Sender) :
    Delivering (h.lookup b sender) := by
  unfold Host.lookup
  split
  · next bridge at_b =>
    have senders := ok.senders b bridge at_b
    have data := ok.data b bridge at_b
    split
    · next frame last ready =>
      have active : h.Live b bridge := live_of_active (by rw [ready]; rfl)
      have current := ok.current b bridge at_b active
      have labelled : frame.streamID = bridge.id :=
        senders.labelled sender frame (by rw [ready]; rfl)
      rw [current]
      refine ok.setBridge at_b rfl rfl (fun _ => active) (senders.setPhase ?_ ?_ ?_) ?_
      · rintro _ _ _ ⟨⟩
        rfl
      · intro notPump
        have control := senders.control sender notPump
        rw [ready] at control
        exact control
      · rintro _ ⟨⟩
        exact labelled
      · by_cases pump : sender = .pumpToProgram
        · subst pump
          refine data.pump (.inr ⟨?_, ?_⟩)
          · rw [ready]
            rintro ⟨⟩
          · rw [ready]
            rfl
        · exact data.setPhase pump
    · exact ok
  · exact ok

/-! #### Handing over -/

/-- What a session accepts: in careful steps it appends the frame. -/
theorem sendStream_accepted {output : Output} (ok : SessionOK h.bridges s o)
    (room : frame.kind = .data → o.HasRoom limits)
    (sent : o.sendStream limits b frame = some (output, true)) :
    output = { o with
      writer := { o.writer with queue := o.writer.queue ++ [outbound b frame] } } := by
  unfold Output.sendStream at sent
  split at sent
  · cases sent
  split at sent
  · next attached =>
    split at sent
    · next writer accepted =>
      cases sent
      obtain ⟨opened, appended | ⟨coalescible, full, -⟩⟩ := enqueue_accepted accepted
      · rw [appended]
      -- a full queue coalesces data only, and data has room
      have data : frame.kind = .data := by
        by_contra control
        simp [outbound, control, OutboundFrame.isCoalescible] at coalescible
      exact absurd (room data attached opened) full
    · cases sent
    · cases sent
  · next detached =>
    split at sent
    · next pipe =>
      rw [ok.detached (by simpa using detached)] at pipe
      cases pipe
    · cases sent

theorem sendStream_refused {output : Output}
    (sent : o.sendStream limits b frame = some (output, false)) : output = o := by
  unfold Output.sendStream at sent
  split at sent
  · cases sent
    rfl
  · split at sent
    · split at sent <;> cases sent
      rfl
    · split at sent <;> cases sent
      rfl

theorem dataOf_outbound (i : Nat) (frame : StreamFrame) :
    dataOf i [(outbound b frame).message] =
      if b = i ∧ frame.kind = .data then [(frame.wireType, frame.payload)] else [] := by
  have message : (outbound b frame).message = .stream b frame := by
    unfold outbound
    split <;> rfl
  rw [message]
  by_cases mine : b = i ∧ frame.kind = .data <;> simp [dataOf, mine]

theorem SessionOK.append (ok : SessionOK h.bridges bridge.session o)
    (at_b : h.bridges b = some bridge) (label : frame.streamID = bridge.id) :
    SessionOK h.bridges bridge.session
      { o with writer := { o.writer with queue := o.writer.queue ++ [outbound b frame] } } where
  origin := by
    intro i f member
    rw [pipeline_append] at member
    rcases mem_append.mp member with member | member
    · exact ok.origin i f member
    have same : Message.stream i f = .stream b frame := by
      rw [mem_singleton.mp member]
      unfold outbound
      split <;> rfl
    cases same
    exact ⟨bridge, at_b, rfl, label⟩
  keyed := by
    intro queued member coalescible notOther
    rcases mem_append.mp member with member | member
    · exact ok.keyed queued member coalescible notOther
    rw [mem_singleton.mp member] at coalescible ⊢
    unfold outbound at coalescible ⊢
    split
    · rfl
    · next control => simp [control, OutboundFrame.isCoalescible] at coalescible
  detached := ok.detached
  closed := ok.closed

theorem Sender.after_frame (sender : Sender) (last ok : Bool) :
    (sender.after last ok).frame = none := by
  cases sender <;> cases last <;> cases ok <;> rfl

/-- A frame without data of this bridge enters the queue. -/
theorem DataOK.append_other {frame : OutboundFrame Message} (ok : DataOK o b bridge)
    (nothing : dataOf b [frame.message] = []) :
    DataOK { o with writer := { o.writer with queue := o.writer.queue ++ [frame] } } b bridge := by
  have same : dataOf b ({ o.writer with queue := o.writer.queue ++ [frame] } :
      OutboundWriter Message).pipeline = dataOf b o.writer.pipeline := by
    rw [pipeline_append, dataOf_append, nothing, append_nil]
  exact ⟨ok.written, fun pipe => same ▸ ok.piped pipe, fun pipe running => by
    rw [same]
    exact ok.flowing pipe running⟩

/-- The frame in the hands of a goroutine enters the queue. -/
theorem DataOK.sent {session : Nat} {last : Bool} (ok : DataOK o b bridge)
    (senders : SendersOK bridge) (handing : bridge.phase sender = .handing session frame last) :
    DataOK
      { o with writer := { o.writer with queue := o.writer.queue ++ [outbound b frame] } }
      b (bridge.setPhase sender (sender.after last true)) := by
  have pending : (bridge.phase sender).pending = dataOf b [(outbound b frame).message] := by
    rw [dataOf_outbound, handing]
    simp [Phase.pending, Phase.frame]
  by_cases pump : sender = .pumpToProgram
  · subst pump
    have running : bridge.phase .pumpToProgram ≠ .done := by
      rw [handing]
      rintro ⟨⟩
    have all : o.pipeOpen = true →
        dataOf b (o.writer.pipeline ++ [(outbound b frame).message]) = bridge.delivered := by
      intro pipe
      rw [dataOf_append, ← pending]
      exact ok.flowing pipe running
    refine ⟨ok.written, ?_, ?_⟩
    · intro pipe
      rw [pipeline_append, all pipe]
      exact prefix_refl _
    · intro pipe _
      change _ ++ (Sender.pumpToProgram.after last true).pending = bridge.delivered
      rw [pipeline_append, all pipe, Phase.pending, Sender.after_frame, append_nil]
  · exact (ok.setPhase pump).append_other (pending.symm.trans (senders.control sender pump))

section

variable (ok : Delivering h)
include ok

theorem Delivering.send (sender : Sender)
    (careful : Careful limits h (.send b sender)) : Delivering (h.send limits b sender) := by
  unfold Host.send
  split
  · next bridge at_b =>
    have senders := ok.senders b bridge at_b
    have data := ok.data b bridge at_b
    split
    · next session frame last handing =>
      have active : h.Live b bridge := live_of_active (by rw [handing]; rfl)
      have labelled : frame.streamID = bridge.id :=
        senders.labelled sender frame (by rw [handing]; rfl)
      have room := careful bridge session frame last at_b handing
      cases senders.handing sender session frame last handing
      split
      · next output accepted sent =>
        cases accepted with
        | false =>
          cases sendStream_refused sent
          rw [setSession_self]
          refine ok.setBridge at_b rfl rfl (fun _ => active) (senders.idle (sender.after_frame last false)) ?_
          by_cases pump : sender = .pumpToProgram
          · subst pump
            exact data.pump (.inl rfl)
          · exact data.setPhase pump
        | true =>
          have output_eq := sendStream_accepted (ok.sessions _) room sent
          subst output_eq
          refine ok.update at_b rfl rfl (fun _ => active) (senders.idle (sender.after_frame last true))
            (data.sent senders handing) ((ok.sessions _).append at_b labelled) ?_ rfl
          rintro i there other found same
          refine (same ▸ ok.data i there found).append_other ?_
          rw [dataOf_outbound, if_neg fun both => other both.1.symm]
      · exact ok
    · exact ok
  · exact ok

/-! #### Sessions -/

namespace Delivering

/-- The messages of a session stay the same while its pipe is open, and lose only some when
it is closed. -/
theorem output (started : h.started ≤ s → o = newOutput)
    (pipe : o.pipeOpen = true → (h.sessions s).pipeOpen = true)
    (same : o.pipeOpen = true → o.writer.pipeline = (h.sessions s).writer.pipeline)
    (written : o.pipeOpen = false → o.writer.written = (h.sessions s).writer.written)
    (subset : ∀ m ∈ o.writer.pipeline, m ∈ (h.sessions s).writer.pipeline)
    (queue : ∀ queued ∈ o.writer.queue, queued ∈ (h.sessions s).writer.queue)
    (detached : o.attached = false → o.pipeOpen = false)
    (closed : o.writer.closed = true → o.pipeOpen = false) :
    Delivering (h.setSession s o) := by
  have session := ok.sessions s
  refine ok.setSession ⟨?_, ?_, detached, closed⟩ ?_ started ?_
  · intro b frame member
    exact session.origin b frame (subset _ member)
  · intro queued member
    exact session.keyed queued (queue queued member)
  · rintro b bridge found rfl
    have data := ok.data b bridge found
    cases open' : o.pipeOpen with
    | false =>
      refine ⟨written open' ▸ data.written, ?_, ?_⟩ <;> simp [open']
    | true =>
      have pipeline := same open'
      have piped := data.piped (pipe open')
      refine ⟨?_, fun _ => pipeline ▸ piped, fun _ running => ?_⟩
      · refine List.IsPrefix.trans ?_ (pipeline ▸ piped)
        exact (written_prefix_pipeline o.writer).filterMap _
      · rw [pipeline]
        exact data.flowing (pipe open') running
  · intro was
    by_contra now
    rw [pipe (by simpa using now)] at was
    cases was

theorem take (s : Nat) : Delivering (h.setSession s
      { h.sessions s with writer := (h.sessions s).writer.take }) := by
  have session := ok.sessions s
  refine ok.output ?_ id (fun _ => pipeline_take _) (fun _ => written_take _) ?_
    (queue_take_subset _) session.detached ?_
  · intro later
    rw [ok.future s later]
    rfl
  · intro m member
    rwa [pipeline_take] at member
  · intro closed
    exact session.closed (closed_take _ ▸ closed)

theorem write (s : Nat) : Delivering (h.setSession s
      { h.sessions s with
        writer := (h.sessions s).writer.write (h.sessions s).pipeOpen }) := by
  have session := ok.sessions s
  refine ok.output ?_ id ?_ ?_ (pipeline_write_subset _ _) ?_ session.detached ?_
  · intro later
    rw [ok.future s later]
    rfl
  · intro pipe
    change (h.sessions s).pipeOpen = true at pipe
    rw [pipe]
    exact pipeline_write _
  · intro pipe
    change (h.sessions s).pipeOpen = false at pipe
    rw [pipe]
    exact written_write_closed _
  · intro queued member
    rwa [queue_write] at member
  · intro closed
    exact session.closed (closed_write _ _ ▸ closed)

/-- A frame of the session itself takes a free place, or the place of one of its own kind. -/
theorem sendOther {outputClass : OutputClass} {key : String}
    (started : s < h.started) (careful : Careful limits h (.sendOther s outputClass key)) :
    Delivering (h.setSession s ((h.sessions s).sendOther limits outputClass key)) := by
  have session := ok.sessions s
  unfold Output.sendOther
  split
  · next attached =>
    split
    · next writer accepted =>
      obtain ⟨opened, rfl | ⟨coalescible, full, rfl⟩⟩ := enqueue_accepted accepted
      · refine ok.setSession ⟨?_, ?_, session.detached, session.closed⟩ ?_
          (fun later => absurd later (Nat.not_le.mpr started)) id
        · intro b frame member
          rw [pipeline_append] at member
          rcases mem_append.mp member with member | member
          · exact session.origin b frame member
          · cases mem_singleton.mp member
        · intro queued member coalescible notOther
          rcases mem_append.mp member with member | member
          · exact session.keyed queued member coalescible notOther
          · rw [mem_singleton.mp member] at notOther
            exact absurd rfl notOther
        · rintro b bridge found rfl
          exact (ok.data b bridge found).append_other rfl
      · -- the queue is full: a frame of the same key gives way, and that is not stream data
        have class_eq : outputClass = .coalescible := by
          simpa [OutboundFrame.isCoalescible] using coalescible
        rcases careful class_eq with room | ⟨notData, same⟩
        · exact absurd (room attached opened) full
        have unchanged : coalesced (h.sessions s).writer.queue ⟨.other, outputClass, key⟩ =
            (h.sessions s).writer.queue := by
          obtain ⟨before, q, after, split, ⟨coalesces, sameKey⟩, result⟩ :=
            @coalesced_same _ _ ⟨.other, outputClass, key⟩ same
          have other : q.message = .other := by
            by_contra notOther
            have member : q ∈ (h.sessions s).writer.queue := by simp [split]
            exact notData (sameKey.symm.trans (session.keyed q member coalesces notOther))
          rw [result, split, ← other]
        rw [unchanged]
        exact (setSession_self h s).symm ▸ ok
    · rw [setSession_self]
      exact ok
    · rw [setSession_self]
      exact ok
  · rw [setSession_self]
    exact ok

theorem stopProcess (s : Nat) (started : s < h.started) :
    Delivering (h.setSession s { h.sessions s with pipeOpen := false }) := by
  refine ok.output (fun later => absurd later (Nat.not_le.mpr started)) ?_ ?_ (fun _ => rfl)
    (fun _ => id) (fun _ => id) (fun _ => rfl) (fun _ => rfl)
  · rintro ⟨⟩
  · rintro ⟨⟩

theorem detachWriter (s : Nat) (started : s < h.started)
    (stopped : (h.sessions s).pipeOpen = false) :
    Delivering (h.setSession s { h.sessions s with attached := false }) :=
  ok.output (fun later => absurd later (Nat.not_le.mpr started)) id (fun _ => rfl)
    (fun _ => rfl) (fun _ => id) (fun _ => id) (fun _ => stopped) (ok.sessions s).closed

theorem closeWriter (s : Nat) (started : s < h.started)
    (stopped : (h.sessions s).pipeOpen = false) : Delivering (h.setSession s
      { h.sessions s with writer := (h.sessions s).writer.close }) := by
  refine ok.output (fun later => absurd later (Nat.not_le.mpr started)) id ?_ (fun _ => rfl)
    ?_ ?_ (fun _ => stopped) (fun _ => stopped)
  · intro pipe
    rw [stopped] at pipe
    cases pipe
  · intro m member
    rw [pipeline_close] at member
    exact mem_append_left _ member
  · intro queued member
    cases member

end Delivering

/-! #### The host -/

theorem Delivering.startProgram
    (careful : ∀ b bridge, h.bridges b = some bridge → ¬ h.Live b bridge) :
    Delivering { h.setSession h.started newOutput with
      started := h.started + 1, loop := .running } := by
  have same : h.setSession h.started newOutput = h := by
    rw [← ok.future h.started (Nat.le_refl _)]
    exact setSession_self h h.started
  rw [same]
  refine ⟨?_, ?_, ok.senders, ok.data, ok.sessions, ?_, ?_, fun _ => Nat.succ_pos _⟩
  · intro b bridge found
    obtain ⟨known, earlier⟩ := ok.known b bridge found
    exact ⟨known, Nat.lt_succ_of_lt earlier⟩
  · intro b bridge found live
    exact absurd live (careful b bridge found)
  · intro s later
    exact ok.future s (Nat.le_of_succ_le later)
  · simp

theorem Delivering.install (session id : Nat) : Delivering (h.install session id) := by
  unfold Host.install
  split
  · next guarded =>
    obtain ⟨current, -⟩ := guarded
    have started : session < h.started := by
      unfold Host.currentSession at current
      split at current
      · cases current
      next some =>
      cases current
      exact Nat.sub_lt (Nat.pos_of_ne_zero some) Nat.one_pos
    have unused : h.bridges h.opened = none := by
      cases found : h.bridges h.opened with
      | none => rfl
      | some bridge => exact absurd (ok.known _ _ found).1 (Nat.lt_irrefl _)
    have silent : ∀ s, dataOf h.opened (h.sessions s).writer.pipeline = [] := by
      intro s
      refine filterMap_eq_nil_iff.mpr fun m member => ?_
      cases m with
      | other => rfl
      | stream b frame =>
        obtain ⟨bridge, found, -⟩ := (ok.sessions s).origin b frame member
        have ne : b ≠ h.opened := Nat.ne_of_lt (ok.known b bridge found).1
        simp [ne]
    refine ⟨?_, ?_, ?_, ?_, ?_, ok.future, ok.stopped, ok.begun⟩
    · refine forall_setBridge ⟨Nat.lt_succ_self _, started⟩ fun i _ there found => ?_
      obtain ⟨known, earlier⟩ := ok.known i there found
      exact ⟨Nat.lt_succ_of_lt known, earlier⟩
    · refine forall_setBridge (fun _ => current) fun i other there found live => ?_
      refine ok.current i there found (live.imp_left fun published => ?_)
      have hit : (if there.id = id then some h.opened else h.accessStreams there.id) =
          some i := by simpa [Host.published] using published
      split at hit
      · exact absurd (Option.some.inj hit).symm other
      · simpa [Host.published] using hit
    · refine forall_setBridge ⟨?_, fun _ _ => rfl, ?_⟩ fun i _ => ok.senders i
      · rintro _ _ _ _ ⟨⟩
      · rintro _ _ ⟨⟩
    · refine forall_setBridge ?_ fun i _ => ok.data i
      have pipeline := silent session
      have written : dataOf h.opened (h.sessions session).writer.written <+:
          dataOf h.opened (h.sessions session).writer.pipeline :=
        (written_prefix_pipeline _).filterMap _
      rw [pipeline] at written
      exact ⟨written, fun _ => pipeline ▸ prefix_refl _, fun _ _ => by
        change dataOf h.opened (h.sessions session).writer.pipeline ++ [] = []
        rw [pipeline]
        rfl⟩
    · intro s
      have session := ok.sessions s
      refine ⟨?_, session.keyed, session.detached, session.closed⟩
      intro b frame member
      obtain ⟨bridge, found, same, label⟩ := session.origin b frame member
      have ne : b ≠ h.opened := Nat.ne_of_lt (ok.known b bridge found).1
      exact ⟨bridge, (if_neg ne).trans found, same, label⟩
  · exact ok

theorem Delivering.unpublish (b : Nat) : Delivering (h.unpublish b) := by
  unfold Host.unpublish
  split
  · refine ok.mono ?_ ok.stopped ok.begun
    intro i there _ hit
    split at hit
    · cases hit
    · exact hit
  · exact ok

theorem Delivering.cancel (b : Nat) : Delivering (h.cancel b) := by
  unfold Host.cancel
  split
  · next bridge at_b =>
    have senders := ok.senders b bridge at_b
    have data := ok.data b bridge at_b
    refine ok.setBridge at_b rfl rfl ?_ ⟨senders.handing, senders.control, senders.labelled⟩
      ⟨data.written, data.piped, data.flowing⟩
    rintro (published | ⟨⟨⟩⟩ | sending)
    · exact .inl published
    · exact .inr (.inr sending)
  · exact ok

omit ok in
theorem unpublish_started (h : Host) (b : Nat) : (h.unpublish b).started = h.started := by
  unfold Host.unpublish
  split <;> rfl

omit ok in
theorem cancel_started (h : Host) (b : Nat) : (h.cancel b).started = h.started := by
  unfold Host.cancel
  split <;> rfl

theorem Delivering.loop {loop : Loop} (stopped : loop = .detaching ∨ loop = .closingWriter →
      (h.sessions (h.started - 1)).pipeOpen = false)
    (begun : loop ≠ .starting → 0 < h.started) : Delivering { h with loop := loop } :=
  ok.mono (fun _ _ _ hit => hit) stopped begun

omit ok in
/-- The restart goes on with the current session. -/
theorem Delivering.restart_step {loop : Loop} (running : h.loop ≠ .starting) (ok : Delivering h)
    (output : h.started - 1 < h.started → Delivering (h.setSession (h.started - 1) o))
    (stopped : o.pipeOpen = false) :
    Delivering { h.setSession (h.started - 1) o with loop := loop } := by
  have started : h.started - 1 < h.started := Nat.sub_lt (ok.begun running) Nat.one_pos
  refine (output started).loop (fun _ => ?_) fun _ => ok.begun running
  change (if h.started - 1 = h.started - 1 then o else
    h.sessions (h.started - 1)).pipeOpen = false
  rw [if_pos rfl]
  exact stopped

theorem Delivering.perform (e : Event) (careful : Careful limits h e) :
    Delivering (h.perform limits e) := by
  cases e <;> simp only [Host.perform]
  case reserve id =>
    split
    · exact ok
    · exact ok.mono (fun _ _ _ hit => hit) ok.stopped ok.begun
  case releaseReservation id => exact ok.mono (fun _ _ _ hit => hit) ok.stopped ok.begun
  case install session id => exact ok.install session id
  case receive b received =>
    split
    · next bridge at_b => exact ok.receive at_b received
    · exact ok
  case fail b sender text => exact ok.fail sender text
  case lookup b sender => exact ok.lookup sender
  case send b sender => exact ok.send sender careful
  case unpublish b => exact ok.unpublish b
  case cancel b => exact ok.cancel b
  case sendOther session outputClass key =>
    split
    · next started => exact ok.sendOther started careful
    · exact ok
  case take session => exact ok.take session
  case write session => exact ok.write session
  case restart =>
    split
    · next running =>
      refine ok.mono (fun _ _ _ hit => hit) ?_ fun _ => ok.begun (by rw [running]; rintro ⟨⟩)
      rintro (same | same) <;> cases same
    · exact ok
  case closeNext =>
    split
    · next closing =>
      refine ok.loop ?_ fun _ => ok.begun (by rw [closing]; rintro ⟨⟩)
      rintro (same | same) <;> cases same
    · next b bridges closing =>
      have closed := (ok.unpublish b).cancel b
      refine closed.loop ?_ fun _ => ?_
      · rintro (same | same) <;> cases same
      · rw [cancel_started, unpublish_started]
        exact ok.begun (by rw [closing]; rintro ⟨⟩)
    · exact ok
  case stopProcess =>
    split
    · next stopping =>
      exact ok.restart_step (by rw [stopping]; rintro ⟨⟩) (ok.stopProcess _) rfl
    · exact ok
  case detachWriter =>
    split
    · next detaching =>
      have stopped := ok.stopped (.inl detaching)
      exact ok.restart_step (by rw [detaching]; rintro ⟨⟩)
        (fun started => ok.detachWriter _ started stopped) stopped
    · exact ok
  case closeWriter =>
    split
    · next closing =>
      have stopped := ok.stopped (.inr closing)
      exact ok.restart_step (by rw [closing]; rintro ⟨⟩)
        (fun started => ok.closeWriter _ started stopped) stopped
    · exact ok
  case startProgram =>
    split
    · exact ok.startProgram careful
    · exact ok

end

end Steps

theorem Reachable.delivering {limits : Limits} {h : Host} (reached : Reachable limits h) :
    Delivering h := by
  induction reached with
  | start => exact newHost_delivering
  | step e _ careful ih => exact ih.perform e careful

/-- In every careful run the data written for a stream to the session that opened it is what
its resource delivered, in order and from the start; and every frame of a stream is
written to that session, with the stream's id. -/
theorem stream_data_in_order {limits : Limits} {h : Host} (reached : Reachable limits h) :
    (∀ b bridge, h.bridges b = some bridge →
      dataOf b (h.sessions bridge.session).writer.written <+: bridge.delivered) ∧
    ∀ s b frame, .stream b frame ∈ (h.sessions s).writer.written →
      ∃ bridge, h.bridges b = some bridge ∧ bridge.session = s ∧ frame.streamID = bridge.id := by
  have ok := reached.delivering
  refine ⟨fun b bridge found => (ok.data b bridge found).written, ?_⟩
  intro s b frame member
  exact (ok.sessions s).origin b frame ((written_prefix_pipeline _).subset member)

section Example

/-- The host's queue length; every frame keeps to the message limit. -/
def hostLimits : Limits := ⟨fun _ => true, 256⟩

/-- The program opens a stream. -/
def opening (id : Nat) : List Event := [.reserve id, .install 0 id]

/-- A pump relays one data frame. -/
def relayed (b : Nat) (payload : UInt8) : List Event :=
  [.receive b (.data 5 [payload]), .lookup b .pumpToProgram, .send b .pumpToProgram]

def writtenOut (session : Nat) : List Event := [.take session, .write session]

theorem stream_data_in_order_one :
    let h := newHost.run hostLimits
      ([.startProgram] ++ opening 1 ++ relayed 0 7 ++ writtenOut 0)
    dataOf 0 (h.sessions 0).writer.written = [(5, [7])] ∧
      ∃ bridge, h.bridges 0 = some bridge ∧
        dataOf 0 (h.sessions bridge.session).writer.written <+: bridge.delivered := by
  intro h
  have reached : Reachable hostLimits h := by
    have opened : Reachable hostLimits (newHost.run hostLimits ([.startProgram] ++ opening 1)) :=
      .step (.install 0 1) (.step (.reserve 1) (.step .startProgram .start (by rintro b _ ⟨⟩))
        trivial) trivial
    refine .step (.write 0) (.step (.take 0) (.step (.send 0 .pumpToProgram)
      (.step (.lookup 0 .pumpToProgram) (.step (.receive 0 (.data 5 [7])) opened trivial)
      trivial) ?_) trivial) trivial
    rintro bridge session frame last ⟨⟩ ⟨⟩ - - -
    decide
  exact ⟨rfl, _, rfl, (stream_data_in_order reached).1 0 _ rfl⟩

/-- Two streams while the program does not read: the first fills the queue, the second has one
frame. -/
def flooded : List Event :=
  [.startProgram] ++ opening 1 ++ opening 2 ++
    (List.range 256).flatMap (fun i => relayed 0 (UInt8.ofNat i)) ++ relayed 1 7 ++
    (List.range 256).flatMap (fun _ => writtenOut 0) ++ relayed 0 9 ++ writtenOut 0

/-- A restart while the pump has a frame in its hands. -/
def restarted : List Event :=
  [.startProgram] ++ opening 1 ++ [.receive 0 (.data 5 [7]), .restart, .closeNext, .closeNext,
    .stopProcess, .detachWriter, .closeWriter, .startProgram, .lookup 0 .pumpToProgram,
    .send 0 .pumpToProgram] ++ writtenOut 1

/-- The data of the second stream takes the place of the last frame of the first, whose later
frames are written all the same. And a frame of a stream is written to the session
after the one that opened it. -/
theorem stream_data_lost :
    (∃ bridge, (newHost.run hostLimits flooded).bridges 0 = some bridge ∧
      ¬ dataOf 0 ((newHost.run hostLimits flooded).sessions bridge.session).writer.written <+:
        bridge.delivered) ∧
    ∃ bridge, (newHost.run hostLimits restarted).bridges 0 = some bridge ∧
      bridge.session = 0 ∧
      .stream 0 ⟨1, .data, 5, [7], ""⟩ ∈
        ((newHost.run hostLimits restarted).sessions 1).writer.written := by
  refine ⟨?_, _, rfl, rfl, by decide⟩
  have lossy : ((newHost.run hostLimits flooded).bridges 0).any (fun bridge =>
      !(dataOf 0 ((newHost.run hostLimits flooded).sessions
        bridge.session).writer.written).isPrefixOf bridge.delivered) = true := by
    decide +kernel
  obtain ⟨bridge, found, lost⟩ := (Option.any_eq_true _ _).mp lossy
  refine ⟨bridge, found, fun whole => ?_⟩
  rw [List.isPrefixOf_iff_prefix.mpr whole] at lost
  cases lost

end Example

end Anytty.Tui.AccessStream
