import Mathlib

/-!
# The remote PTY of the terminal client

`RemotePTY` is the client's view of one daemon terminal. These goroutines share it:

* binds: `Start` through `attachRemote`, and `rebindOne`, called by `rebindAll` after a
  reconnect and by `rebindNow` after `Reattach` or a lost stream. A bind opens an attachment
  over several requests and hands it to the view with `setPending`;
* releases: `Detach` and `Close`;
* the loop `run`, which pumps the frames of one attachment after the other into the buffer;
* `Terminal.pump`, which reads the buffer and feeds the parser.

A function on `RemotePTY` is one region under `p.mu`. An event of `Host` is one such region, one
region under the manager's lock, or one request to the daemon with its answer. An event whose turn
it is not changes nothing.
-/

namespace Anytty.Tui.Remote

/-! ### The view -/

/-- What ends the read stream. -/
inductive ReadError
  | eof
  | noLongerExists
  deriving DecidableEq

/-- Attachments are numbered in the order in which they were opened. -/
structure RemotePTY where
  started : Bool
  closed : Bool
  detached : Bool
  exited : Bool
  readErr : Option ReadError
  buf : List UInt8
  pending : Option Nat
  att : Option Nat
  /-- The one token of the channel `notify`. -/
  notify : Bool
  snapshotResetPending : Bool
  snapshotResetDone : Bool
  readInFlight : Bool
  readHasData : Bool
  readSnapshot : Bool
  deriving DecidableEq

def newRemotePTY : RemotePTY where
  started := false
  closed := false
  detached := false
  exited := false
  readErr := none
  buf := []
  pending := none
  att := none
  notify := false
  snapshotResetPending := false
  snapshotResetDone := false
  readInFlight := false
  readHasData := false
  readSnapshot := false

namespace RemotePTY

section

variable (p : RemotePTY)

/-- `Detach` up to the request: the attachment that it has to detach. -/
def detach : RemotePTY × Option Nat :=
  if p.closed || p.detached then (p, none)
  else ({ p with detached := true, att := none, pending := none }, p.att)

/-- `Reattach`: whether it starts a rebind; none is `ErrClosed`. -/
def reattach : Option (RemotePTY × Bool) :=
  if p.closed then none
  else some ({ p with detached := false }, p.started && p.detached)

/-- The checks of `Start`; none is an error. -/
def start : Option RemotePTY :=
  if p.started || p.closed then none else some { p with started := true }

/-- `Close` up to its first request; none if it was closed before. -/
def close : Option (RemotePTY × Option Nat) :=
  if p.closed then none else some ({ p with closed := true }, p.att)

def fail (err : ReadError) : RemotePTY :=
  { p with
    readErr := if p.readErr.isNone && !p.closed then some err else p.readErr
    pending := none }

def finish : RemotePTY :=
  { p with
    exited := true
    readErr := if p.readErr.isNone then some .eof else p.readErr }

def setPending (a : Nat) : RemotePTY :=
  { p with pending := some a, att := some a, notify := true }

/-- The region at the top of the loop `run`. -/
def take : RemotePTY :=
  { p with pending := none, att := if p.pending.isSome then p.pending else p.att }

def feed (data : List UInt8) : RemotePTY :=
  if p.closed || p.readErr.isSome then p else { p with buf := p.buf ++ data }

end

/-- The failures of `Write` and `Resize` before the request. -/
inductive WriteError
  | closed
  | offline
  deriving DecidableEq

section

variable (p : RemotePTY)

/-- The attachment that `Write` and `Resize` use. -/
def target : Except WriteError Nat :=
  if p.closed then .error .closed
  else match p.att with
    | none => .error .offline
    | some a => .ok a

/-- What `seedSnapshot` does after its region. -/
inductive Late
  | nothing
  | reset
  | barrier
  deriving DecidableEq

/-- `seedSnapshot`; nothing is rendered for a missing screen. -/
def seedSnapshot (rendered : List UInt8) : RemotePTY × Late :=
  if rendered.isEmpty || p.closed || p.readErr.isSome then (p, .nothing)
  else
    ({ p with buf := rendered, snapshotResetPending := true, snapshotResetDone := false },
      if p.readInFlight then
        if p.readHasData && !p.readSnapshot then .barrier else .nothing
      else .reset)

/-- The start of `Read`. -/
def readBegin : RemotePTY :=
  { p with readInFlight := true, readHasData := false, readSnapshot := false }

/-- The buffer of `Terminal.pump`. -/
def readSize : Nat := 32 * 1024

inductive ReadResult
  /-- The bytes read and whether `Read` calls the reset hook. -/
  | chunk (data : List UInt8) (reset : Bool)
  | failed
  deriving DecidableEq

/-- The end of `Read`; none while it waits. -/
def readReturn : Option (RemotePTY × ReadResult) :=
  if p.buf ≠ [] then
    let snapshotRead := p.snapshotResetPending && !p.snapshotResetDone
    some ({ p with
      buf := p.buf.drop readSize
      readHasData := true
      readSnapshot := snapshotRead
      snapshotResetDone := p.snapshotResetDone || snapshotRead },
      .chunk (p.buf.take readSize) snapshotRead)
  else if p.closed || p.readErr.isSome then
    some ({ p with readInFlight := false }, .failed)
  else none

def readDone : RemotePTY :=
  { p with readInFlight := false, readHasData := false, readSnapshot := false }

end

end RemotePTY

/-! ### Goroutines -/

/-- Where a bind is, by what it does next. -/
inductive Stage
  /-- `attachRemote` waits for a client. -/
  | connecting
  | registering (conn : Nat)
  /-- `rebindOne` before `currentClient`. -/
  | begun
  | checkClosed (conn : Nat)
  | checkDetached (conn : Nat)
  | opening (conn : Nat)
  /-- Before `liveScreen` and `seedSnapshot`. -/
  | fetching (a : Nat)
  /-- In the barrier, before `readMu`. -/
  | fencing (a : Nat)
  /-- Before the reset that `seedSnapshot` makes itself. -/
  | resetting (a : Nat)
  /-- Before `startStream` and `claimOwner`. -/
  | starting (a : Nat)
  /-- Before the `detach` of a failed attachment. -/
  | aborting (a : Nat) (notFound : Bool)
  /-- Before `setPending`. -/
  | ready (a : Nat)
  | failed (notFound : Bool)
  | unstarting
  | unregistering
  deriving DecidableEq

/-- A bind; `initial` is the one of `Start`. -/
structure Bind where
  initial : Bool
  stage : Stage
  deriving DecidableEq

/-- The attachment that the bind has opened and neither handed over nor detached. -/
def Stage.attachment : Stage → Option Nat
  | .fetching a | .fencing a | .resetting a | .starting a | .aborting a _ | .ready a => some a
  | .connecting | .registering _ | .begun | .checkClosed _ | .checkDetached _ | .opening _
  | .failed _ | .unstarting | .unregistering => none

/-- A `Detach` or `Close` between its region and its return. -/
inductive Release
  | idle
  /-- `superseded` says that a `Reattach` came in between. -/
  | detaching (a : Nat) (superseded : Bool)
  | closing (a : Option Nat)
  deriving DecidableEq

/-- The attachment whose detach request is still to be sent. -/
def Release.attachment : Release → Option Nat
  | .idle => none
  | .detaching a _ => some a
  | .closing a => a

def Release.supersede : Release → Release
  | .detaching a _ => .detaching a true
  | r => r

/-- The loop `run`. -/
inductive Runner
  | unstarted
  | polling
  /-- In the select on `notify` and `closeCh`. -/
  | awaiting
  | pumping (a : Nat)
  /-- A frame was received, `feed` is next. -/
  | feeding (a : Nat) (data : List UInt8)
  | finishing
  | leaving
  | returned
  deriving DecidableEq

/-- The attachment that `pump` reads. -/
def Runner.attachment : Runner → Option Nat
  | .pumping a | .feeding a _ => some a
  | .unstarted | .polling | .awaiting | .finishing | .leaving | .returned => none

/-- The ways in which `RemotePTY.pump` returns. -/
inductive PumpEnd
  | terminalClosed
  | attachmentDetached
  | eof
  | syncLost
  | transient
  deriving DecidableEq

/-- The loop `Terminal.pump`. -/
inductive Reader
  | idle
  /-- `readMu` is held, `Read` is next. -/
  | locked
  | waiting
  | hook (chunk : List UInt8)
  | parse (chunk : List UInt8)
  | parsed (failed : Bool)
  | unlocking (failed : Bool)
  | ended
  deriving DecidableEq

def Reader.holdsReadMu : Reader → Bool
  | .idle | .ended => false
  | .locked | .waiting | .hook _ | .parse _ | .parsed _ | .unlocking _ => true

/-- The bytes read and not yet parsed. -/
def Reader.chunk : Reader → Option (List UInt8)
  | .hook chunk | .parse chunk => some chunk
  | .idle | .locked | .waiting | .parsed _ | .unlocking _ | .ended => none

def Reader.isHook : Reader → Bool
  | .hook _ => true
  | _ => false

/-- The calls of the parser. -/
inductive ParserOp
  | reset
  | write (data : List UInt8)
  deriving DecidableEq

/-! ### The host -/

structure Host where
  pty : RemotePTY
  /-- The client of the endpoint and whether its connection has not ended. -/
  client : Option Nat
  alive : Bool
  connections : Nat
  /-- The view is in the endpoint's registry. -/
  registered : Bool
  /-- The attachments of the view that the daemon holds on the connection. -/
  daemon : List Nat
  opened : Nat
  binds : Nat → Option Bind
  releases : Nat → Release
  runner : Runner
  reader : Reader
  /-- What the parser was called with. -/
  parser : List ParserOp
  /-- The output frames that `pump` has fed, with their attachments. -/
  fed : List (Nat × List UInt8)
  /-- The last call of `seedSnapshot`: its attachment and what was rendered. -/
  seeded : Option (Nat × List UInt8)
  /-- A `Detach` has returned with no later `Reattach`. -/
  detachReturned : Bool
  closeReturned : Bool

def newHost : Host where
  pty := newRemotePTY
  client := none
  alive := false
  connections := 0
  registered := false
  daemon := []
  opened := 0
  binds := fun _ => none
  releases := fun _ => .idle
  runner := .unstarted
  reader := .idle
  parser := []
  fed := []
  seeded := none
  detachReturned := false
  closeReturned := false

def Host.setBind (h : Host) (i : Nat) (b : Option Bind) : Host :=
  { h with binds := Function.update h.binds i b }

def Host.setStage (h : Host) (i : Nat) (initial : Bool) (stage : Stage) : Host :=
  h.setBind i (some ⟨initial, stage⟩)

def Host.setRelease (h : Host) (i : Nat) (r : Release) : Host :=
  { h with releases := Function.update h.releases i r }

/-- The daemon carries out a detach request, or the request fails. -/
def Host.send (h : Host) (a : Nat) (ok : Bool) : Host :=
  { h with daemon := if ok then h.daemon.erase a else h.daemon }

inductive Event
  /-- The supervisor dials and sets the client. -/
  | connect
  /-- The connection ends, and with it its attachments. -/
  | lost
  | clearClient
  /-- `rebindAll` finds the view in the registry. -/
  | rebindAll (i : Nat)
  | start (i : Nat)
  | detach (i : Nat)
  | detachSent (i : Nat) (ok : Bool)
  | reattach (i : Nat)
  | close (i : Nat)
  | closeSent (i : Nat) (ok : Bool)
  | closeReturns (i : Nat)
  /-- A region of the bind with no input of its own. -/
  | step (i : Nat)
  | timeout (i : Nat)
  /-- The daemon answers; a failure may be `NOT_FOUND`. -/
  | openAttachment (i : Nat) (failure : Option Bool)
  /-- `liveScreen` answers; none is an error. -/
  | liveScreen (i : Nat) (rendered : Option (List UInt8))
  | passFence (i : Nat)
  | lateReset (i : Nat)
  | startStream (i : Nat) (failure : Option Bool)
  | abort (i : Nat) (ok : Bool)
  | publish (i : Nat)
  | take
  | notified
  | closeSeen
  | recv (data : List UInt8)
  | feed
  /-- `pump` returns; a lost stream starts a rebind. -/
  | pumpEnds (reason : PumpEnd) (i : Nat)
  | finish
  | leave
  | lockRead
  | read
  | wake
  | resetHook
  | parse
  | readDone
  | unlockRead

/-- The regions of a bind with no input: the client, the registry, the checks of `rebindOne` and
what follows a failure. -/
def Host.stepBind (h : Host) (i : Nat) (b : Bind) : Host :=
  match b.stage with
  | .connecting =>
    match h.client with
    | none => h
    | some conn => h.setStage i b.initial (.registering conn)
  | .registering conn => { h with registered := true }.setStage i b.initial (.opening conn)
  | .begun =>
    match h.client with
    | none => h.setBind i none
    | some conn => h.setStage i b.initial (.checkClosed conn)
  | .checkClosed conn =>
    if h.pty.closed then h.setBind i none else h.setStage i b.initial (.checkDetached conn)
  | .checkDetached conn =>
    if h.pty.detached then h.setBind i none else h.setStage i b.initial (.opening conn)
  | .failed notFound =>
    if b.initial then { h with registered := false }.setStage i b.initial .unstarting
    else if notFound then
      { h with pty := h.pty.fail .noLongerExists }.setStage i b.initial .unregistering
    else h.setBind i none
  | .unstarting => { h with pty := { h.pty with started := false } }.setBind i none
  | .unregistering => { h with registered := false }.setBind i none
  | .opening _ | .fetching _ | .fencing _ | .resetting _ | .starting _ | .aborting _ _
  | .ready _ => h

/-- The stage after `seedSnapshot`. -/
def lateStage (a : Nat) : RemotePTY.Late → Stage
  | .nothing => .starting a
  | .reset => .resetting a
  | .barrier => .fencing a

theorem attachment_lateStage (a : Nat) (late : RemotePTY.Late) :
    (lateStage a late).attachment = some a := by
  cases late <;> rfl

namespace Host

section

variable (h : Host) (i : Nat)

/-- The requests of a bind and what it does with the answers. -/
def openAttachment (failure : Option Bool) : Host :=
  match h.binds i with
  | some ⟨initial, .opening conn⟩ =>
    match failure with
    | some notFound => h.setStage i initial (.failed notFound)
    | none =>
      if h.client = some conn ∧ h.alive then
        { h with daemon := h.opened :: h.daemon, opened := h.opened + 1 }.setStage i initial
          (.fetching h.opened)
      else h
  | _ => h

def liveScreen (rendered : Option (List UInt8)) : Host :=
  match h.binds i with
  | some ⟨initial, .fetching a⟩ =>
    match rendered with
    | none => h.setStage i initial (.starting a)
    | some bytes =>
      { h with pty := (h.pty.seedSnapshot bytes).1, seeded := some (a, bytes) }.setStage i
        initial (lateStage a (h.pty.seedSnapshot bytes).2)
  | _ => h

def passFence : Host :=
  match h.binds i with
  | some ⟨initial, .fencing a⟩ =>
    if h.reader.holdsReadMu then h else h.setStage i initial (.resetting a)
  | _ => h

def lateReset : Host :=
  match h.binds i with
  | some ⟨initial, .resetting a⟩ =>
    { h with parser := h.parser ++ [ParserOp.reset] }.setStage i initial (.starting a)
  | _ => h

def startStream (failure : Option Bool) : Host :=
  match h.binds i with
  | some ⟨initial, .starting a⟩ =>
    match failure with
    | some notFound => h.setStage i initial (.aborting a notFound)
    | none => h.setStage i initial (.ready a)
  | _ => h

def abort (ok : Bool) : Host :=
  match h.binds i with
  | some ⟨initial, .aborting a notFound⟩ => (h.send a ok).setStage i initial (.failed notFound)
  | _ => h

/-- `setPending`; after it `Start` starts the loop `run`. -/
def publish : Host :=
  match h.binds i with
  | some ⟨initial, .ready a⟩ =>
    { h with
      pty := h.pty.setPending a
      runner := if initial then .polling else h.runner }.setBind i none
  | _ => h

end

/-- The calls on the view. -/
def detach (h : Host) (i : Nat) : Host :=
  if h.releases i ≠ .idle then h
  else match h.pty.detach with
    | (p, none) => { h with pty := p, detachReturned := true }
    | (p, some a) => { h with pty := p }.setRelease i (.detaching a false)

section

variable (h : Host)

def detachSent (i : Nat) (ok : Bool) : Host :=
  match h.releases i with
  | .detaching a superseded =>
    { h.send a ok with detachReturned := h.detachReturned || !superseded }.setRelease i .idle
  | _ => h

def reattach (h : Host) (i : Nat) : Host :=
  if (h.binds i).isSome then h
  else match h.pty.reattach with
    | none => h
    | some (p, rebind) =>
      { h with
        pty := p
        detachReturned := false
        releases := fun j => (h.releases j).supersede }.setBind i
          (if rebind then some ⟨false, .begun⟩ else none)

def close (h : Host) (i : Nat) : Host :=
  if h.releases i ≠ .idle then h
  else match h.pty.close with
    | none => { h with closeReturned := true }
    | some (p, a) => { h with pty := p }.setRelease i (.closing a)

def closeSent (i : Nat) (ok : Bool) : Host :=
  match h.releases i with
  | .closing (some a) => (h.send a ok).setRelease i (.closing none)
  | _ => h

def closeReturns (i : Nat) : Host :=
  match h.releases i with
  | .closing none => { h with registered := false, closeReturned := true }.setRelease i .idle
  | _ => h

def start (h : Host) (i : Nat) : Host :=
  if (h.binds i).isSome then h
  else match h.pty.start with
    | none => h
    | some p => { h with pty := p }.setStage i true .connecting

def rebindAll (i : Nat) : Host :=
  if (h.binds i).isNone ∧ h.registered then h.setStage i false .begun else h

/-- The loop `run`. -/
def take (h : Host) : Host :=
  match h.runner with
  | .polling =>
    { h with
      pty := h.pty.take
      runner :=
        if h.pty.closed then .returned
        else match h.pty.pending with
          | none => .awaiting
          | some a => .pumping a }
  | _ => h

def feed (h : Host) : Host :=
  match h.runner with
  | .feeding a data =>
    { h with pty := h.pty.feed data, fed := h.fed ++ [(a, data)], runner := .pumping a }
  | _ => h

/-- What `run` does when `pump` returns, and the bind that a lost stream starts. -/
def pumpEnds (reason : PumpEnd) (i : Nat) : Host :=
  match h.runner with
  | .pumping _ =>
    match reason with
    | .terminalClosed => { h with runner := .finishing }
    | .attachmentDetached => { h with runner := .awaiting }
    | .eof => { h with runner := if h.pty.detached then .awaiting else .finishing }
    | .transient => { h with runner := if h.pty.closed then .returned else .awaiting }
    | .syncLost =>
      if h.pty.closed then { h with runner := .returned }
      else if (h.binds i).isSome then h
      else { h with runner := .awaiting }.setStage i false .begun
  | _ => h

/-- The end of `Read` in `Terminal.pump`; `Read` may go on waiting. -/
def readReturn (h : Host) : Host :=
  match h.pty.readReturn with
  | none => { h with reader := .waiting }
  | some (p, .chunk data true) => { h with pty := p, reader := .hook data }
  | some (p, .chunk data false) => { h with pty := p, reader := .parse data }
  | some (p, .failed) => { h with pty := p, reader := .parsed true }

def perform : Event → Host
  | .connect =>
    if h.client.isSome then h
    else { h with client := some h.connections, alive := true, connections := h.connections + 1 }
  | .lost => { h with alive := false, daemon := [] }
  | .clearClient => if h.alive then h else { h with client := none }
  | .rebindAll i => h.rebindAll i
  | .start i => h.start i
  | .detach i => h.detach i
  | .detachSent i ok => h.detachSent i ok
  | .reattach i => h.reattach i
  | .close i => h.close i
  | .closeSent i ok => h.closeSent i ok
  | .closeReturns i => h.closeReturns i
  | .step i => match h.binds i with
    | some b => h.stepBind i b
    | none => h
  | .timeout i => match h.binds i with
    | some ⟨initial, .connecting⟩ => h.setStage i initial .unstarting
    | _ => h
  | .openAttachment i failure => h.openAttachment i failure
  | .liveScreen i rendered => h.liveScreen i rendered
  | .passFence i => h.passFence i
  | .lateReset i => h.lateReset i
  | .startStream i failure => h.startStream i failure
  | .abort i ok => h.abort i ok
  | .publish i => h.publish i
  | .take => h.take
  | .notified =>
    if h.runner = .awaiting ∧ h.pty.notify then
      { h with pty := { h.pty with notify := false }, runner := .polling }
    else h
  | .closeSeen =>
    if h.runner = .awaiting ∧ h.pty.closed then { h with runner := .returned } else h
  | .recv data => match h.runner with
    | .pumping a => { h with runner := .feeding a data }
    | _ => h
  | .feed => h.feed
  | .pumpEnds reason i => h.pumpEnds reason i
  | .finish =>
    if h.runner = .finishing then { h with pty := h.pty.finish, runner := .leaving } else h
  | .leave =>
    if h.runner = .leaving then { h with registered := false, runner := .returned } else h
  | .lockRead => if h.reader = .idle then { h with reader := .locked } else h
  | .read =>
    if h.reader = .locked then { h with pty := h.pty.readBegin }.readReturn else h
  | .wake => if h.reader = .waiting then h.readReturn else h
  | .resetHook => match h.reader with
    | .hook chunk => { h with parser := h.parser ++ [ParserOp.reset], reader := .parse chunk }
    | _ => h
  | .parse => match h.reader with
    | .parse chunk =>
      { h with parser := h.parser ++ [ParserOp.write chunk], reader := .parsed false }
    | _ => h
  | .readDone => match h.reader with
    | .parsed failed => { h with pty := h.pty.readDone, reader := .unlocking failed }
    | _ => h
  | .unlockRead => match h.reader with
    | .unlocking failed => { h with reader := if failed then .ended else .idle }
    | _ => h

def run (events : List Event) : Host := events.foldl perform h

end

/-- Every event of the run keeps to the rule in the state in which it happens. -/
def Obeys (rule : Host → Event → Prop) (h : Host) : List Event → Prop
  | [] => True
  | e :: events => rule h e ∧ (h.perform e).Obeys rule events

end Host

instance decidableObeys (rule : Host → Event → Prop) [∀ h e, Decidable (rule h e)] :
    ∀ (h : Host) (events : List Event), Decidable (h.Obeys rule events)
  | _, [] => isTrue trivial
  | h, e :: events =>
    have := decidableObeys rule (h.perform e) events
    inferInstanceAs (Decidable (rule h e ∧ (h.perform e).Obeys rule events))

theorem run_invariant {rule : Host → Event → Prop} {inv : Host → Prop}
    (step : ∀ h e, inv h → rule h e → inv (h.perform e)) {h : Host} {events : List Event}
    (holds : inv h) (obeys : h.Obeys rule events) : inv (h.run events) := by
  induction events generalizing h with
  | nil => exact holds
  | cons e events ih => exact ih (step h e holds obeys.1) obeys.2

theorem setBind_self (h : Host) (i : Nat) (b : Option Bind) : (h.setBind i b).binds i = b :=
  Function.update_self ..

theorem setBind_of_ne (h : Host) {i j : Nat} (ne : j ≠ i) (b : Option Bind) :
    (h.setBind i b).binds j = h.binds j :=
  Function.update_of_ne ne ..

/-! ### What an event can do -/

/-- The part of the state that says who holds which attachment. -/
structure Custody where
  daemon : List Nat
  binds : Nat → Option Bind
  releases : Nat → Release
  pending : Option Nat
  att : Option Nat
  detached : Bool
  closed : Bool
  detachReturned : Bool
  closeReturned : Bool

def Host.custody (h : Host) : Custody where
  daemon := h.daemon
  binds := h.binds
  releases := h.releases
  pending := h.pty.pending
  att := h.pty.att
  detached := h.pty.detached
  closed := h.pty.closed
  detachReturned := h.detachReturned
  closeReturned := h.closeReturned

/-- The unread bytes, what `Terminal.pump` does with them and what came before. -/
structure Bytes where
  buf : List UInt8
  snapshotResetPending : Bool
  snapshotResetDone : Bool
  readSnapshot : Bool
  reader : Reader
  parser : List ParserOp
  fed : List (Nat × List UInt8)
  seeded : Option (Nat × List UInt8)

def Host.bytes (h : Host) : Bytes where
  buf := h.pty.buf
  snapshotResetPending := h.pty.snapshotResetPending
  snapshotResetDone := h.pty.snapshotResetDone
  readSnapshot := h.pty.readSnapshot
  reader := h.reader
  parser := h.parser
  fed := h.fed
  seeded := h.seeded

/-- The events that touch the buffer, the parser or the pump of the terminal. -/
def Event.touchesBytes : Event → Bool
  | .liveScreen _ _ | .lateReset _ | .feed | .lockRead | .read | .wake | .resetHook | .parse
  | .readDone | .unlockRead => true
  | _ => false

/-- No attachment changes hands; the view may drop a pending one, and the loop the one it pumps. -/
structure Host.Quiet (h : Host) (e : Event) (k : Host) : Prop where
  custody : k.custody = { h.custody with pending := k.pty.pending }
  pending : ∀ a, k.pty.pending = some a → h.pty.pending = some a
  runner : ∀ a, k.runner.attachment = some a → h.runner.attachment = some a
  opened : k.opened = h.opened
  fed : k.fed = h.fed
  bytes : e.touchesBytes = false → k.bytes = h.bytes

def heldBy (b : Option Bind) : Option Nat := b.bind fun b => b.stage.attachment

/-- The events that move an attachment, and what all the others come to. -/
inductive Host.Effect (h : Host) : Event → Host → Prop
  | quiet {e : Event} {k : Host} : h.Quiet e k → h.Effect e k
  /-- A bind begins, goes on or ends with the attachment it has. -/
  | bind {e : Event} {k : Host} {i : Nat} {old new : Option Bind} :
      h.binds i = old → h.Quiet e k → heldBy new = heldBy old → h.Effect e (k.setBind i new)
  | lost : h.Effect .lost { h with alive := false, daemon := [] }
  | opened {i conn : Nat} {initial : Bool} : h.binds i = some ⟨initial, .opening conn⟩ →
      h.Effect (.openAttachment i none) ({ h with
        daemon := h.opened :: h.daemon, opened := h.opened + 1 }.setStage i initial
          (.fetching h.opened))
  | aborted {i a : Nat} {initial notFound ok : Bool} :
      h.binds i = some ⟨initial, .aborting a notFound⟩ →
      h.Effect (.abort i ok) ((h.send a ok).setStage i initial (.failed notFound))
  | published {i a : Nat} {initial : Bool} : h.binds i = some ⟨initial, .ready a⟩ →
      h.Effect (.publish i) ({ h with
        pty := h.pty.setPending a
        runner := if initial then .polling else h.runner }.setBind i none)
  | take : h.Effect .take h.take
  | feed : h.Effect .feed h.feed
  | detach (i : Nat) : h.Effect (.detach i) (h.detach i)
  | detachSent (i : Nat) (ok : Bool) : h.Effect (.detachSent i ok) (h.detachSent i ok)
  | reattach (i : Nat) : h.Effect (.reattach i) (h.reattach i)
  | close (i : Nat) : h.Effect (.close i) (h.close i)
  | closeSent (i : Nat) (ok : Bool) : h.Effect (.closeSent i ok) (h.closeSent i ok)
  | closeReturns (i : Nat) : h.Effect (.closeReturns i) (h.closeReturns i)

section Effect

variable {h k : Host} {e : Event}

theorem Host.Quiet.frame
    (same : (k.custody, k.runner, k.opened, k.fed) = (h.custody, h.runner, h.opened, h.fed))
    (bytes : e.touchesBytes = false → k.bytes = h.bytes) : h.Quiet e k := by
  simp only [Prod.mk.injEq] at same
  obtain ⟨custody, runner, opened, fed⟩ := same
  have pending : k.pty.pending = h.pty.pending := congrArg Custody.pending custody
  refine ⟨?_, fun _ => pending.symm.trans, fun _ out => runner ▸ out, opened, fed, bytes⟩
  rw [custody, pending]
  rfl

theorem Host.Effect.unchanged : h.Effect e h := .quiet (.frame rfl fun _ => rfl)

/-- The loop goes on with no other attachment. -/
theorem Host.Effect.runner {p : RemotePTY} {registered : Bool} {runner : Runner}
    (custody : ({ h with pty := p } : Host).custody = h.custody)
    (bytes : ({ h with pty := p } : Host).bytes = h.bytes)
    (same : ∀ a, runner.attachment = some a → h.runner.attachment = some a) :
    h.Effect e { h with pty := p, registered := registered, runner := runner } := by
  have quiet : h.Quiet e { h with pty := p } := .frame (by rw [custody]) fun _ => bytes
  exact .quiet { quiet with runner := same }

theorem Host.stepBind_effect {i : Nat} {b : Bind} (at_i : h.binds i = some b) :
    h.Effect e (h.stepBind i b) := by
  obtain ⟨initial, stage⟩ := b
  cases stage <;> simp only [stepBind]
  case connecting =>
    split
    · exact .unchanged
    · exact .bind at_i (.frame rfl fun _ => rfl) rfl
  case begun | checkClosed conn | checkDetached conn =>
    split <;> exact .bind at_i (.frame rfl fun _ => rfl) rfl
  case registering conn | unregistering | unstarting => exact .bind at_i (.frame rfl fun _ => rfl) rfl
  case failed notFound =>
    split
    · exact .bind at_i (.frame rfl fun _ => rfl) rfl
    split
    · -- `fail` drops what is pending.
      exact .bind at_i ⟨rfl, by rintro a ⟨⟩, fun _ out => out, rfl, rfl, fun _ => rfl⟩ rfl
    · exact .bind at_i (.frame rfl fun _ => rfl) rfl
  all_goals exact .unchanged

theorem Host.liveScreen_effect (i : Nat) (rendered : Option (List UInt8)) :
    h.Effect (.liveScreen i rendered) (h.liveScreen i rendered) := by
  unfold liveScreen
  split
  · next initial a at_i =>
    cases rendered with
    | none => exact .bind at_i (.frame rfl fun _ => rfl) rfl
    | some bytes =>
      refine .bind at_i (.frame ?_ nofun) (attachment_lateStage a _)
      unfold RemotePTY.seedSnapshot
      split <;> rfl
  · exact .unchanged

theorem Host.pumpEnds_effect (reason : PumpEnd) (i : Nat) : h.Effect e (h.pumpEnds reason i) := by
  unfold pumpEnds
  split
  · cases reason with
    | terminalClosed | attachmentDetached => exact .runner rfl rfl (by rintro a ⟨⟩)
    | eof | transient =>
      refine .runner rfl rfl fun a out => ?_
      revert out
      split <;> rintro ⟨⟩
    | syncLost =>
      dsimp only
      split
      · exact .runner rfl rfl (by rintro a ⟨⟩)
      split
      · exact .unchanged
      next free =>
      exact .bind (Option.not_isSome_iff_eq_none.mp free)
        ⟨rfl, fun _ out => out, by rintro a ⟨⟩, rfl, rfl, fun _ => rfl⟩ rfl
  · exact .unchanged

theorem Host.readReturn_quiet (h : Host) (touches : e.touchesBytes = true) :
    h.Quiet e h.readReturn := by
  have bytes (k : Host) : e.touchesBytes = false → k.bytes = h.bytes := by simp [touches]
  unfold readReturn RemotePTY.readReturn
  by_cases some : h.pty.buf ≠ []
  · simp only [if_pos some]
    cases h.pty.snapshotResetPending && !h.pty.snapshotResetDone <;> exact .frame rfl (bytes _)
  · simp only [if_neg some]
    cases h.pty.closed || h.pty.readErr.isSome <;> exact .frame rfl (bytes _)

theorem Host.perform_effect (h : Host) (e : Event) : h.Effect e (h.perform e) := by
  cases e <;> simp only [perform, Host.rebindAll, Host.start, RemotePTY.start,
    Host.openAttachment, Host.passFence, Host.lateReset, Host.startStream, Host.abort,
    Host.publish]
  case connect | clearClient =>
    split <;> exact .quiet (.frame rfl fun _ => rfl)
  case resetHook | parse | readDone | unlockRead | lockRead =>
    split <;> exact .quiet (.frame rfl nofun)
  case lost => exact .lost
  case rebindAll i =>
    split
    · next free => exact .bind (Option.isNone_iff_eq_none.mp free.1) (.frame rfl fun _ => rfl) rfl
    · exact .unchanged
  case start i =>
    split
    · exact .unchanged
    next free =>
    cases h.pty.started || h.pty.closed with
    | true => exact .unchanged
    | false => exact .bind (Option.not_isSome_iff_eq_none.mp free) (.frame rfl fun _ => rfl) rfl
  case detach i => exact .detach i
  case detachSent i ok => exact .detachSent i ok
  case reattach i => exact .reattach i
  case close i => exact .close i
  case closeSent i ok => exact .closeSent i ok
  case closeReturns i => exact .closeReturns i
  case step i =>
    split
    · next at_i => exact h.stepBind_effect at_i
    · exact .unchanged
  case timeout i | lateReset i =>
    split
    · next at_i => exact .bind at_i (.frame rfl (by simp [Event.touchesBytes, Host.bytes])) rfl
    · exact .unchanged
  case openAttachment i failure =>
    split
    · next at_i =>
      cases failure with
      | some notFound => exact .bind at_i (.frame rfl fun _ => rfl) rfl
      | none =>
        dsimp only
        split
        · exact .opened at_i
        · exact .unchanged
    · exact .unchanged
  case liveScreen i rendered => exact h.liveScreen_effect i rendered
  case passFence i =>
    split
    · next at_i =>
      split
      · exact .unchanged
      · exact .bind at_i (.frame rfl fun _ => rfl) rfl
    · exact .unchanged
  case startStream i failure =>
    split
    · next at_i => cases failure <;> exact .bind at_i (.frame rfl fun _ => rfl) rfl
    · exact .unchanged
  case abort i ok =>
    split
    · next at_i => exact .aborted at_i
    · exact .unchanged
  case publish i =>
    split
    · next at_i => exact .published at_i
    · exact .unchanged
  case take => exact .take
  case feed => exact .feed
  case pumpEnds reason i => exact h.pumpEnds_effect reason i
  case recv data =>
    split
    · next runner => exact .runner rfl rfl fun _ out => runner ▸ out
    · exact .unchanged
  case notified | closeSeen | finish | leave =>
    split
    · exact .runner rfl rfl (by rintro a ⟨⟩)
    · exact .unchanged
  case read =>
    split
    · have begun := readReturn_quiet { h with pty := h.pty.readBegin } (e := .read) rfl
      exact .quiet ⟨begun.custody, begun.pending, begun.runner, begun.opened, begun.fed, nofun⟩
    · exact .unchanged
  case wake =>
    split
    · exact .quiet (h.readReturn_quiet rfl)
    · exact .unchanged

end Effect

/-- No bind is in progress. -/
def Host.Settled (h : Host) : Prop := ∀ i, h.binds i = none

/-- The output of an attachment. -/
def Host.output (h : Host) (a : Nat) : List UInt8 :=
  (h.fed.filter fun frame => frame.1 = a).flatMap Prod.snd

end Anytty.Tui.Remote
