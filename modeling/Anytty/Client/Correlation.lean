import Anytty.Client.Channels

/-!
# Requests and responses of the protocol client

`doApplicationRequest` takes an id, registers a waiter under the registry lock, sends its
frame and waits for its response, for its context or, in the terminal variant, a little
longer. The read loop delivers responses under the lock. A cancelled request leaves its
id in `abandonedWaiters`, so that a late response is recognised. A failure of the peer
takes all waiters out of the map under the lock and notifies them afterwards.

`RequestStep` interleaves any number of requests, cancellations and failures with the
read loop and `Close`. Its parameter says which frames the transport takes: `Heard`
excludes the frame of a request that registered after the last sweep of the read loop,
which nobody would answer.
-/

namespace Anytty.Client

open Function Data

/-- Why a peer has failed. -/
inductive Failure
  | peer (err : PeerError)
  /-- A protocol error without a request. -/
  | request (code : Nat) (message : String)
  | transport
deriving DecidableEq, Repr

inductive Reply
  | payload (payload : Bytes)
  | error (code : Nat) (message : String)
deriving DecidableEq, Repr

/-- What a request receives: a response or an error that came with the id `id`, or the failure
of the peer. -/
inductive Result
  | reply (id : Nat) (reply : Reply)
  | failure (err : Failure)
deriving DecidableEq, Repr

/-- A result that may go to the request `id`. -/
def Result.BelongsTo (id : Nat) : Result → Prop
  | .reply id' _ => id' = id
  | .failure _ => True

/-- Where a call of `doApplicationRequest` is. -/
inductive Phase
  /-- It has its id. -/
  | numbered
  /-- Its waiter is registered. -/
  | registered
  /-- Its frame is sent; it waits for its response or its context. -/
  | waiting
  /-- Cancelled, it waits for the terminal response. -/
  | lingering
  /-- It waits in `Close`. -/
  | closing
  /-- It is about to run `removeWaiter`. -/
  | leaving (abandoned : Bool)
  /-- `removeWaiter` fails the peer. -/
  | failing
  | returned (abandoned : Bool)
deriving DecidableEq, Repr

structure Call where
  phase : Phase
  waitTerminalOnCancel : Bool
  /-- The channel `response`. -/
  response : Option Result
  /-- The transport took the request. -/
  sent : Bool
  /-- A response with this id was accepted. -/
  answered : Bool
  /-- What the call took from `response`. -/
  received : List Result
deriving DecidableEq, Repr

/-- A run of `failAll`, within `failPeer` or not. -/
inductive Failing
  | begun (err : Failure)
  | notifying (err : Failure) (ids : List Nat)
  | notified
  | closed
deriving DecidableEq, Repr

inductive Loop
  | receiving
  /-- With `failPeer`, which closes the transport, or with `failAll` alone. -/
  | failing (closes : Bool)
  /-- `done` is closed. -/
  | finished
deriving DecidableEq, Repr

def maxAbandonedWaiters : Nat := 256

/-- The client, as far as requests are concerned. -/
structure Correlator where
  nextID : Nat
  calls : Nat → Option Call
  /-- The registered waiters, with their flag `delivered`. -/
  waiters : Nat → Option Bool
  abandonedWaiters : Finset Nat
  helloReceived : Bool
  /-- `helloCh` is full. -/
  helloResult : Bool
  loop : Loop
  /-- The runs of `failAll`: number 0 is the read loop's, the others are those of requests. -/
  failures : Nat → Option Failing
  transportOpen : Bool
  /-- Someone has decided to fail the peer. -/
  failed : Bool
  /-- The read loop has taken the waiters out of the map. -/
  swept : Bool

def newCorrelator : Correlator where
  nextID := 0
  calls := fun _ => none
  waiters := fun _ => none
  abandonedWaiters := ∅
  helloReceived := false
  helloResult := false
  loop := .receiving
  failures := fun _ => none
  transportOpen := true
  failed := false
  swept := false

def newCall (waitTerminalOnCancel : Bool) : Call where
  phase := .numbered
  waitTerminalOnCancel := waitTerminalOnCancel
  response := none
  sent := false
  answered := false
  received := []

def wireVersion : Nat := 7

/-- A frame of channel 0; `none` when its payload cannot be decoded. -/
inductive ControlFrame
  | hello (version : Option Nat)
  /-- An event, with what `publishApplicationEvent` makes of it. -/
  | event (err : Option PeerError)
  | response (decoded : Option (Nat × Bytes))
  | binaryResponse (decoded : Option (Nat × Bytes))
  | error (decoded : Option (Nat × Nat × String))
  | unsupported (typ : Nat)
deriving DecidableEq, Repr

namespace Correlator

variable (s : Correlator)

def setCall (id : Nat) (call : Call) : Correlator :=
  { s with calls := update s.calls id (some call) }

/-- A response with this id was accepted. -/
def answer (id : Nat) (response : Option Result) : Correlator :=
  match s.calls id with
  | none => s
  | some call => s.setCall id
      { call with answered := true, response := response.or call.response }

def deliverResponse (id : Nat) (reply : Reply) : Except Failure Correlator :=
  if id = 0 then .error (.peer ⟨.badRequest, "protocol response ID is required"⟩)
  else if id ∈ s.abandonedWaiters then
    .ok ({ s with abandonedWaiters := s.abandonedWaiters.erase id }.answer id none)
  else
    match s.waiters id with
    | none => .error (.peer ⟨.badRequest, "unsolicited protocol response " ++ toString id⟩)
    | some true => .error (.peer ⟨.badRequest, "duplicate protocol response " ++ toString id⟩)
    | some false =>
      .ok ({ s with waiters := update s.waiters id (some true) }.answer id
        (some (.reply id reply)))

def handleControlFrame (frame : ControlFrame) : Except Failure Correlator :=
  let early : Except Failure Correlator :=
    .error (.peer ⟨.badRequest, "control frame received before Hello"⟩)
  match frame with
  | .hello version =>
    if s.helloReceived then .error (.peer ⟨.badRequest, "duplicate protocol Hello"⟩)
    else
      match version with
      | none => .error (.peer ⟨.badRequest, "malformed protocol Hello"⟩)
      | some version =>
        if version ≠ wireVersion then
          .error (.peer ⟨.badRequest, "unsupported wire version " ++ toString version⟩)
        else if s.helloResult then
          .error (.peer ⟨.badRequest, "duplicate protocol Hello result"⟩)
        else .ok { s with helloReceived := true, helloResult := true }
  | .event err =>
    if !s.helloReceived then early
    else
      match err with
      | none => .ok s
      | some err => .error (.peer err)
  | .response decoded =>
    if !s.helloReceived then early
    else
      match decoded with
      | none => .error (.peer ⟨.badRequest, "malformed protocol response"⟩)
      | some (id, payload) => s.deliverResponse id (.payload payload)
  | .binaryResponse decoded =>
    if !s.helloReceived then early
    else
      match decoded with
      | none => .error (.peer ⟨.badRequest, "malformed binary protocol response"⟩)
      | some (id, payload) => s.deliverResponse id (.payload payload)
  | .error decoded =>
    match decoded with
    | none => .error (.peer ⟨.badRequest, "malformed protocol error"⟩)
    | some (id, code, message) =>
      if id = 0 then .error (.request code message)
      else s.deliverResponse id (.error code message)
  | .unsupported typ =>
    if !s.helloReceived then early
    else .error (.peer ⟨.badRequest, "unsupported control frame type " ++ toString typ⟩)

/-- Number `thread` begins to fail the peer. -/
def beginFailure (thread : Nat) (err : Failure) : Correlator :=
  { s with failures := update s.failures thread (some (.begun err)), failed := true }

/-- The read loop gives up. -/
def stopReading (closes : Bool) (err : Failure) : Correlator :=
  { s with loop := .failing closes }.beginFailure 0 err

/-- The read loop handles a control frame. -/
def control (frame : ControlFrame) : Correlator :=
  match s.handleControlFrame frame with
  | .ok s => s
  | .error err => s.stopReading true err

/-- `removeWaiter` under the lock, and whether it has to fail the peer. -/
def removeWaiter (id : Nat) (abandoned : Bool) : Correlator × Bool :=
  let removed := { s with waiters := update s.waiters id none }
  if abandoned ∧ s.waiters id = some false then
    if maxAbandonedWaiters ≤ s.abandonedWaiters.card then (removed, true)
    else ({ removed with abandonedWaiters := insert id s.abandonedWaiters }, false)
  else (removed, false)

/-- `removeWaiter`, up to the failure it may begin. -/
def leave (id : Nat) (call : Call) (abandoned : Bool) : Correlator :=
  let done := s.removeWaiter id abandoned
  if done.2 then
    (done.1.setCall id { call with phase := .failing }).beginFailure id
      (.peer ⟨.resourceExhausted, "abandoned response capacity is exhausted"⟩)
  else done.1.setCall id { call with phase := .returned abandoned }

/-- `failAll` under the lock. -/
def sweep (thread : Nat) (err : Failure) (ids : List Nat) : Correlator :=
  { s with
    waiters := fun _ => none
    abandonedWaiters := ∅
    failures := update s.failures thread (some (.notifying err ids))
    swept := s.swept || thread = 0 }

/-- `failAll` notifies a waiter whose channel is not full. -/
def notify (thread : Nat) (err : Failure) (id : Nat) (ids : List Nat) : Correlator :=
  let next := { s with
    failures := update s.failures thread (some (.notifying err ids)) }
  match s.calls id with
  | none => next
  | some call => next.setCall id { call with response := call.response.or (some (.failure err)) }

end Correlator

/-- One step of the client. `heard` says whether the transport may take the frame of a request. -/
inductive RequestStep (heard : Correlator → Nat → Prop) (s : Correlator) : Correlator → Prop
  | start (waitTerminalOnCancel : Bool) : RequestStep heard s
      ({ s with nextID := s.nextID + 1 }.setCall (s.nextID + 1) (newCall waitTerminalOnCancel))
  /-- The request cannot be encoded. -/
  | refuse {id : Nat} {call : Call} : s.calls id = some call → call.phase = .numbered →
      RequestStep heard s (s.setCall id { call with phase := .returned false })
  | register {id : Nat} {call : Call} : s.calls id = some call → call.phase = .numbered →
      RequestStep heard s ({ s with waiters := update s.waiters id (some false) }.setCall id
        { call with phase := .registered })
  | sendFails {id : Nat} {call : Call} : s.calls id = some call → call.phase = .registered →
      RequestStep heard s (s.setCall id { call with phase := .leaving false })
  | send {id : Nat} {call : Call} : s.calls id = some call → call.phase = .registered →
      s.transportOpen = true → heard s id →
      RequestStep heard s (s.setCall id { call with phase := .waiting, sent := true })
  | cancel {id : Nat} {call : Call} : s.calls id = some call → call.phase = .waiting →
      call.waitTerminalOnCancel = false →
      RequestStep heard s (s.setCall id { call with phase := .leaving true })
  | linger {id : Nat} {call : Call} : s.calls id = some call → call.phase = .waiting →
      call.waitTerminalOnCancel = true →
      RequestStep heard s (s.setCall id { call with phase := .lingering })
  | take {id : Nat} {call : Call} {result : Result} : s.calls id = some call →
      call.phase = .waiting ∨ call.phase = .lingering → call.response = some result →
      RequestStep heard s (s.setCall id { call with
        phase := .leaving false, response := none, received := call.received ++ [result] })
  | seeDone {id : Nat} {call : Call} : s.calls id = some call → call.phase = .lingering →
      s.loop = .finished →
      RequestStep heard s (s.setCall id { call with phase := .leaving false })
  | expire {id : Nat} {call : Call} : s.calls id = some call → call.phase = .lingering →
      RequestStep heard s (s.setCall id { call with phase := .closing })
  | closed {id : Nat} {call : Call} : s.calls id = some call → call.phase = .closing →
      s.loop = .finished →
      RequestStep heard s (s.setCall id { call with phase := .leaving false })
  | leave {id : Nat} {call : Call} {abandoned : Bool} : s.calls id = some call →
      call.phase = .leaving abandoned → RequestStep heard s (s.leave id call abandoned)
  /-- `Close` closes the transport. -/
  | close : RequestStep heard s { s with transportOpen := false }
  /-- `Hello` takes its result. -/
  | takeHello : RequestStep heard s { s with helloResult := false }
  | control (frame : ControlFrame) : s.loop = .receiving → RequestStep heard s (s.control frame)
  /-- The transport fails. -/
  | recvFails : s.loop = .receiving → RequestStep heard s (s.stopReading false .transport)
  /-- A frame of another channel is not accepted. -/
  | streamFails (err : PeerError) : s.loop = .receiving →
      RequestStep heard s (s.stopReading true (.peer err))
  | sweep (thread : Nat) (err : Failure) (ids : List Nat) :
      s.failures thread = some (.begun err) → (∀ id, id ∈ ids ↔ (s.waiters id).isSome) →
      RequestStep heard s (s.sweep thread err ids)
  | notify (thread : Nat) (err : Failure) (id : Nat) (ids : List Nat) :
      s.failures thread = some (.notifying err (id :: ids)) →
      RequestStep heard s (s.notify thread err id ids)
  | notified (thread : Nat) (err : Failure) : s.failures thread = some (.notifying err []) →
      RequestStep heard s { s with
        failures := update s.failures thread (some .notified), helloResult := true }
  | closeTransport (thread : Nat) : s.failures thread = some .notified →
      (thread = 0 → s.loop = .failing true) →
      RequestStep heard s { s with
        failures := update s.failures thread (some .closed), transportOpen := false }
  | finish (closes : Bool) : s.loop = .failing closes →
      s.failures 0 = some (if closes then .closed else .notified) →
      RequestStep heard s { s with
        failures := update s.failures 0 none, loop := .finished }
  | failedPeer {id : Nat} {call : Call} : s.calls id = some call → call.phase = .failing →
      s.failures id = some .closed →
      RequestStep heard s ({ s with failures := update s.failures id none }.setCall id
        { call with phase := .returned true })

/-- After its last sweep the read loop leaves no waiter of a request that is sent. -/
def Heard (s : Correlator) (id : Nat) : Prop := s.swept = true → s.waiters id = none

/-- The frame is a response or an error for the request `id`. -/
def ControlFrame.Carries (id : Nat) : ControlFrame → Prop
  | .response decoded | .binaryResponse decoded => ∃ payload, decoded = some (id, payload)
  | .error decoded => ∃ code message, decoded = some (id, code, message)
  | _ => False

/-! ### What is true of one request -/

/-- Its waiter is in the map, unless the peer has failed. -/
def Phase.isRegistered : Phase → Bool
  | .registered | .waiting | .lingering | .closing | .leaving _ => true
  | _ => false

/-- It may still take a result. -/
def Phase.isOpen : Phase → Bool
  | .registered | .waiting | .lingering => true
  | _ => false

/-- The waiters a run of `failAll` has yet to notify. -/
def Failing.ids : Failing → List Nat
  | .notifying _ ids => ids
  | _ => []

namespace Correlator

def toNotify (s : Correlator) (thread : Nat) : List Nat := ((s.failures thread).map (·.ids)).getD []

/-- Some run of `failAll` has yet to notify the request. -/
def Notifying (s : Correlator) (id : Nat) : Prop := ∃ thread, id ∈ s.toNotify thread

end Correlator

/-- What the client knows about one id. -/
structure View where
  waiter : Option Bool
  abandoned : Prop
  failed : Bool
  swept : Bool
  notifying : Prop

def Correlator.view (s : Correlator) (id : Nat) : View where
  waiter := s.waiters id
  abandoned := id ∈ s.abandonedWaiters
  failed := s.failed
  swept := s.swept
  notifying := s.Notifying id

/-- A request and what the client knows about its id. -/
structure CallOK (v : View) (id : Nat) (call : Call) : Prop where
  numbered : call.phase = .numbered → v.waiter = none ∧ ¬ v.notifying ∧ call.response = none ∧
    call.sent = false ∧ call.received = []
  unread : call.phase.isOpen = true → call.received = []
  atMostOne : call.received.length ≤ 1
  own : ∀ result ∈ call.received, result.BelongsTo id
  ownResponse : ∀ result, call.response = some result → result.BelongsTo id
  empty : v.waiter = some false → call.response = none
  delivered : v.waiter = some true → call.answered = true ∧
    (call.phase.isOpen = true → call.response ≠ none)
  removed : v.notifying → v.waiter = none
  registered : v.failed = false → call.phase.isRegistered = true → v.waiter ≠ none
  reached : call.phase.isOpen = true →
    v.waiter ≠ none ∨ call.response ≠ none ∨ v.notifying
  remembered : v.failed = false → call.phase = .returned true → v.abandoned ∨ call.answered = true
  swept : v.swept = true → call.sent = true → v.waiter = none

theorem callOK_new {v : View} (id : Nat) (waitTerminalOnCancel : Bool) (waiter : v.waiter = none)
    (notifying : ¬ v.notifying) : CallOK v id (newCall waitTerminalOnCancel) where
  numbered := fun _ => ⟨waiter, notifying, rfl, rfl, rfl⟩
  unread := nofun
  atMostOne := Nat.zero_le _
  own := nofun
  ownResponse := nofun
  empty := fun _ => rfl
  delivered := by
    rw [waiter]
    exact nofun
  removed := fun _ => waiter
  registered := nofun
  reached := nofun
  remembered := nofun
  swept := nofun

section Calls

variable {v : View} {id : Nat} {call : Call}

section

variable (h : CallOK v id call)
include h

namespace CallOK

theorem fail : CallOK { v with failed := true } id call :=
  { h with registered := nofun, remembered := nofun }

/-- Moving on without a result. -/
theorem move {phase : Phase} (numbered : phase ≠ .numbered)
    (returned : phase ≠ .returned true) (registered : phase.isRegistered = true →
      call.phase.isRegistered = true) (opened : phase.isOpen = true → call.phase.isOpen = true) :
    CallOK v id { call with phase := phase } :=
  { h with
    numbered := fun h => absurd h numbered
    unread := fun h' => h.unread (opened h')
    delivered := fun h' => ⟨(h.delivered h').1, fun h'' => (h.delivered h').2 (opened h'')⟩
    registered := fun ok h' => h.registered ok (registered h')
    reached := fun h' => h.reached (opened h')
    remembered := fun _ h => absurd h returned }

theorem giveUp (failed : v.failed = true) : CallOK v id { call with phase := .returned true } :=
  { h with
    numbered := nofun
    unread := nofun
    delivered := fun h' => ⟨(h.delivered h').1, nofun⟩
    registered := nofun
    reached := nofun
    remembered := fun alive => absurd (failed.symm.trans alive) nofun }

theorem register (numbered : call.phase = .numbered) :
    CallOK { v with waiter := some false } id { call with phase := .registered } := by
  obtain ⟨waiter, notifying, response, sent, received⟩ := h.numbered numbered
  exact { h with
    numbered := nofun
    unread := fun _ => received
    empty := fun _ => response
    delivered := nofun
    removed := fun h => absurd h notifying
    registered := fun _ _ => nofun
    reached := fun _ => .inl nofun
    remembered := nofun
    swept := fun _ h => absurd (sent.symm.trans h) nofun }

theorem send (registered : call.phase = .registered)
    (heard : v.swept = true → v.waiter = none) :
    CallOK v id { call with phase := .waiting, sent := true } := by
  have opened : call.phase.isOpen = true := by rw [registered]; rfl
  exact { h with
    numbered := nofun
    unread := fun _ => h.unread opened
    delivered := fun h' => ⟨(h.delivered h').1, fun _ => (h.delivered h').2 opened⟩
    registered := fun ok _ => h.registered ok (by rw [registered]; rfl)
    reached := fun _ => h.reached opened
    remembered := nofun
    swept := fun swept _ => heard swept }

theorem take (opened : call.phase.isOpen = true) {result : Result}
    (full : call.response = some result) (registered : call.phase.isRegistered = true) :
    CallOK v id { call with
      phase := .leaving false, response := none, received := call.received ++ [result] } := by
  have unread := h.unread opened
  exact { h with
    numbered := nofun
    unread := nofun
    atMostOne := by
      rw [unread]
      exact Nat.le_refl 1
    own := by
      rw [unread]
      exact List.forall_mem_singleton.mpr (h.ownResponse result full)
    ownResponse := nofun
    empty := fun _ => rfl
    delivered := fun h' => ⟨(h.delivered h').1, nofun⟩
    registered := fun ok _ => h.registered ok registered
    reached := nofun
    remembered := nofun }

theorem remove {phase : Phase} {abandoned : Prop}
    (closed : phase.isRegistered = false) (opened : phase.isOpen = false)
    (numbered : phase ≠ .numbered)
    (remembered : v.failed = false → phase = .returned true → abandoned ∨ call.answered = true) :
    CallOK { v with waiter := none, abandoned := abandoned } id { call with phase := phase } :=
  { h with
    numbered := fun h => absurd h numbered
    unread := fun h => absurd (opened.symm.trans h) nofun
    empty := nofun
    delivered := nofun
    removed := fun _ => rfl
    registered := fun _ h => absurd (closed.symm.trans h) nofun
    reached := fun h => absurd (opened.symm.trans h) nofun
    remembered := remembered
    swept := fun _ _ => rfl }

theorem forget : CallOK { v with abandoned := False } id { call with answered := true } :=
  { h with
    delivered := fun h' => ⟨rfl, (h.delivered h').2⟩
    remembered := fun _ _ => .inr rfl }

theorem deliver (waiter : v.waiter = some false) (reply : Reply) :
    CallOK { v with waiter := some true } id
      { call with answered := true, response := some (.reply id reply) } :=
  { h with
    numbered := fun h' => absurd ((h.numbered h').1.symm.trans waiter) nofun
    ownResponse := fun result h => by
      cases h
      exact rfl
    empty := nofun
    delivered := fun _ => ⟨rfl, fun _ => nofun⟩
    removed := fun h' => absurd ((h.removed h').symm.trans waiter) nofun
    registered := fun _ _ => nofun
    reached := fun _ => .inl nofun
    remembered := fun _ _ => .inr rfl
    swept := fun swept sent => absurd ((h.swept swept sent).symm.trans waiter) nofun }

/-- `failAll` takes the waiter out of the map and will notify it. -/
theorem sweep (failed : v.failed = true) {notifying : Prop}
    {swept : Bool} (collected : notifying ↔ v.notifying ∨ v.waiter ≠ none) :
    CallOK ⟨none, False, v.failed, swept, notifying⟩ id call :=
  { h with
    numbered := fun h' => by
      obtain ⟨waiter, quiet, rest⟩ := h.numbered h'
      refine ⟨rfl, fun h'' => ?_, rest⟩
      rcases collected.mp h'' with old | new
      · exact quiet old
      · exact new waiter
    empty := nofun
    delivered := nofun
    removed := fun _ => rfl
    registered := fun ok => absurd (failed.symm.trans ok) nofun
    reached := fun h' => by
      rcases h.reached h' with registered | full | notified
      · exact .inr (.inr (collected.mpr (.inr registered)))
      · exact .inr (.inl full)
      · exact .inr (.inr (collected.mpr (.inl notified)))
    remembered := fun ok => absurd (failed.symm.trans ok) nofun
    swept := fun _ _ => rfl }

theorem notify (notifying : v.notifying) (err : Failure) {notifying' : Prop} :
    CallOK { v with notifying := notifying' } id
      { call with response := call.response.or (some (.failure err)) } := by
  have waiter := h.removed notifying
  have full : call.response.or (some (.failure err)) ≠ none := by
    cases call.response <;> exact nofun
  exact { h with
    numbered := fun h' => absurd notifying (h.numbered h').2.1
    ownResponse := fun result h' => by
      cases old : call.response with
      | some other =>
        rw [old] at h'
        cases h'
        exact h.ownResponse _ old
      | none =>
        rw [old] at h'
        cases h'
        exact trivial
    empty := fun h' => absurd (waiter.symm.trans h') nofun
    delivered := fun h' => absurd (waiter.symm.trans h') nofun
    removed := fun _ => waiter
    reached := fun _ => .inr (.inl full) }

end CallOK

end

end Calls

/-! ### What is true of the client -/

/-- The runs of `failAll`. -/
structure FailuresOK (s : Correlator) : Prop where
  failed : ∀ thread failing, s.failures thread = some failing → s.failed = true
  idle : s.loop = .receiving → s.failures 0 = none
  swept : ∀ failing, s.failures 0 = some failing → (∃ err, failing = .begun err) ∨ s.swept = true
  finished : s.loop = .finished → s.swept = true
  owner : ∀ id failing, id ≠ 0 → s.failures id = some failing →
    ∃ call, s.calls id = some call ∧ call.phase = .failing

structure Correlated (s : Correlator) : Prop where
  failures : FailuresOK s
  zero : s.calls 0 = none
  unused : ∀ id, s.nextID < id → s.calls id = none
  absent : ∀ id, s.calls id = none → s.waiters id = none ∧ ¬ s.Notifying id
  call : ∀ id call, s.calls id = some call → CallOK (s.view id) id call

theorem correlated_new : Correlated newCorrelator where
  failures := ⟨nofun, fun _ => rfl, nofun, nofun, nofun⟩
  zero := rfl
  unused := fun _ _ => rfl
  absent := fun _ _ => ⟨rfl, fun ⟨_, mem⟩ => nomatch mem⟩
  call := nofun

section Requests

open Correlator

variable {s s' : Correlator} {id thread : Nat} {call call' : Call}

section

variable (h : Correlated s)
include h

theorem Correlated.known (found : s.calls id = some call) : id ≠ 0 ∧ id ≤ s.nextID := by
  refine ⟨?_, Nat.le_of_not_lt fun lt => ?_⟩
  · rintro rfl
    exact absurd (h.zero.symm.trans found) nofun
  · exact absurd ((h.unused id lt).symm.trans found) nofun

/-- A request that sees at most that the peer has failed. -/
theorem Correlated.other
    (view : s'.view id = s.view id ∨ s'.view id = { s.view id with failed := true }) :
    (s.calls id = none → s'.waiters id = none ∧ ¬ s'.Notifying id) ∧
      ∀ call, s.calls id = some call → CallOK (s'.view id) id call := by
  have same : s'.waiters id = s.waiters id ∧ s'.Notifying id = s.Notifying id := by
    rcases view with same | same
    · exact ⟨congrArg View.waiter same, congrArg View.notifying same⟩
    · exact ⟨congrArg View.waiter same, congrArg View.notifying same⟩
  refine ⟨fun none => ?_, fun call found => ?_⟩
  · rw [same.1, same.2]
    exact h.absent id none
  · rcases view with view | view
    · rw [view]
      exact h.call id call found
    · rw [view]
      exact (h.call id call found).fail

/-- One request moves, the others see at most that the peer has failed. -/
theorem Correlated.put (failures : FailuresOK s')
    (calls : s'.calls = update s.calls id (some call)) (next : s.nextID ≤ s'.nextID)
    (known : id ≠ 0 ∧ id ≤ s'.nextID) (others : ∀ other, other ≠ id →
      s'.view other = s.view other ∨ s'.view other = { s.view other with failed := true })
    (self : CallOK (s'.view id) id call) : Correlated s' := by
  have old : ∀ other, other ≠ id → s'.calls other = s.calls other := fun other ne => by
    rw [calls, update_of_ne ne]
  refine ⟨failures, ?_, ?_, ?_, ?_⟩
  · rw [old 0 known.1.symm, h.zero]
  · intro other lt
    have ne : other ≠ id := fun same => absurd lt (Nat.not_lt.mpr (same ▸ known.2))
    rw [old other ne]
    exact h.unused other (Nat.lt_of_le_of_lt next lt)
  · intro other none
    have ne : other ≠ id := by
      rintro rfl
      rw [calls, update_self] at none
      cases none
    exact (h.other (others other ne)).1 ((old other ne).symm.trans none)
  · intro other call' found
    by_cases same : other = id
    · subst same
      rw [calls, update_self] at found
      cases found
      exact self
    · exact (h.other (others other same)).2 call' ((old other same).symm.trans found)

omit h in
theorem FailuresOK.setCall (h : FailuresOK s) (found : s.calls id = some call)
    (keeps : call.phase = .failing → call'.phase = .failing) : FailuresOK (s.setCall id call') := by
  refine { h with owner := fun other failing ne running => ?_ }
  obtain ⟨owner, owned, phase⟩ := h.owner other failing ne running
  by_cases same : other = id
  · subst same
    rw [found] at owned
    cases owned
    exact ⟨call', update_self .., keeps phase⟩
  · exact ⟨owner, (update_of_ne same ..).trans owned, phase⟩

/-- A request moves on alone. -/
theorem Correlated.setCall (found : s.calls id = some call)
    (keeps : call.phase = .failing → call'.phase = .failing)
    (self : CallOK (s.view id) id call') : Correlated (s.setCall id call') :=
  h.put (h.failures.setCall found keeps) rfl (Nat.le_refl _) (h.known found)
    (fun _ _ => .inl rfl) self

theorem Correlated.move (found : s.calls id = some call) {phase phase' : Phase}
    (at_phase : call.phase = phase) (quiet : phase ≠ .failing) (numbered : phase' ≠ .numbered)
    (returned : phase' ≠ .returned true)
    (registered : phase'.isRegistered = true → phase.isRegistered = true)
    (opened : phase'.isOpen = true → phase.isOpen = true) :
    Correlated (s.setCall id { call with phase := phase' }) := by
  subst at_phase
  exact h.setCall found (fun h => absurd h quiet)
    ((h.call id call found).move numbered returned registered opened)

theorem Correlated.start (waitTerminalOnCancel : Bool) :
    Correlated ({ s with nextID := s.nextID + 1 }.setCall (s.nextID + 1)
      (newCall waitTerminalOnCancel)) := by
  have free := h.unused (s.nextID + 1) (Nat.lt_succ_self _)
  obtain ⟨waiter, quiet⟩ := h.absent _ free
  refine h.put { h.failures with owner := ?_ } rfl
    (Nat.le_succ _) ⟨nofun, Nat.le_refl _⟩ (fun _ _ => .inl rfl)
    (callOK_new _ waitTerminalOnCancel waiter quiet)
  intro other failing ne running
  obtain ⟨owner, owned, phase⟩ := h.failures.owner other failing ne running
  have ne' : other ≠ s.nextID + 1 := by
    rintro rfl
    exact absurd (free.symm.trans owned) nofun
  exact ⟨owner, (update_of_ne ne' ..).trans owned, phase⟩

omit h in
theorem view_waiter_self (s : Correlator) (id : Nat) (waiter : Option Bool) :
    view { s with waiters := update s.waiters id waiter } id =
      { s.view id with waiter := waiter } := by
  unfold view
  dsimp only
  rw [update_self]
  rfl

omit h in
theorem view_waiter_other (s : Correlator) {id other : Nat} (ne : other ≠ id)
    (waiter : Option Bool) :
    view { s with waiters := update s.waiters id waiter } other =
      s.view other := by
  unfold view
  dsimp only
  rw [update_of_ne ne]
  rfl

/-- A request changes its entry in the map of waiters. -/
theorem Correlated.setWaiter (found : s.calls id = some call)
    (keeps : call.phase = .failing → call'.phase = .failing) {waiter : Option Bool}
    (self : CallOK { s.view id with waiter := waiter } id call') :
    Correlated ({ s with waiters := update s.waiters id waiter }.setCall id call') := by
  refine h.put (FailuresOK.setCall { h.failures with } found keeps) rfl (Nat.le_refl _) (h.known found)
    (fun other ne => .inl (view_waiter_other s ne waiter)) ?_
  rw [← view_waiter_self] at self
  exact self

theorem Correlated.forget (id : Nat) :
    Correlated ({ s with abandonedWaiters := s.abandonedWaiters.erase id }.answer id none) := by
  have others : ∀ other, other ≠ id → view
      { s with abandonedWaiters := s.abandonedWaiters.erase id } other = s.view other := by
    intro other ne
    unfold view
    rw [Finset.mem_erase, eq_true ne, true_and]
    rfl
  have self : view { s with abandonedWaiters := s.abandonedWaiters.erase id } id =
      { s.view id with abandoned := False } := by
    unfold view
    rw [Finset.mem_erase, eq_false fun h : id ≠ id ∧ _ => h.1 rfl]
    rfl
  unfold answer
  split
  · next free =>
    refine ⟨{ h.failures with }, h.zero, h.unused, h.absent, fun other call found => ?_⟩
    have ne : other ≠ id := by
      rintro rfl
      exact absurd (free.symm.trans found) nofun
    rw [others other ne]
    exact h.call other call found
  · next call found =>
    refine h.put (FailuresOK.setCall { h.failures with } found fun h => h) rfl (Nat.le_refl _) (h.known found)
      (fun other ne => .inl (others other ne)) ?_
    have ok := (h.call id call found).forget
    rw [← self] at ok
    exact ok

theorem Correlated.deliver (waiter : s.waiters id = some false) (reply : Reply) :
    Correlated ({ s with waiters := update s.waiters id (some true) }.answer id
      (some (.reply id reply))) := by
  unfold answer
  split
  · next free => exact absurd ((h.absent id free).1.symm.trans waiter) nofun
  next call found =>
  refine h.setWaiter found ?_ ((h.call id call found).deliver waiter reply)
  exact fun failing => failing

/-- Accepting a response keeps the requests correlated. -/
theorem Correlated.deliverResponse {reply : Reply}
    (accepted : s.deliverResponse id reply = .ok s') : Correlated s' := by
  unfold Correlator.deliverResponse at accepted
  split at accepted
  · cases accepted
  split at accepted
  · cases accepted
    exact h.forget id
  split at accepted
  · cases accepted
  · cases accepted
  next waiter =>
  cases accepted
  exact h.deliver waiter reply

theorem Correlated.handleControlFrame {frame : ControlFrame}
    (accepted : s.handleControlFrame frame = .ok s') : Correlated s' := by
  have hello : ∀ received result,
      Correlated { s with helloReceived := received, helloResult := result } := fun _ _ =>
    { h with failures := { h.failures with } }
  unfold Correlator.handleControlFrame at accepted
  cases frame with
  | hello version =>
    dsimp only at accepted
    split at accepted
    · cases accepted
    split at accepted
    · cases accepted
    split at accepted
    · cases accepted
    split at accepted
    · cases accepted
    · cases accepted
      exact hello true true
  | event err =>
    dsimp only at accepted
    split at accepted
    · cases accepted
    split at accepted
    · cases accepted
      exact h
    · cases accepted
  | response decoded | binaryResponse decoded | error decoded =>
    dsimp only at accepted
    split at accepted
    · cases accepted
    split at accepted
    · cases accepted
    · exact h.deliverResponse accepted
  | unsupported typ =>
    dsimp only at accepted
    split at accepted
    · cases accepted
    · cases accepted

/-! ### Failures of the peer -/

/-- All requests see at most that the peer has failed. -/
theorem Correlated.same (failures : FailuresOK s') (calls : s'.calls = s.calls)
    (next : s'.nextID = s.nextID)
    (views : ∀ id, s'.view id = s.view id ∨ s'.view id = { s.view id with failed := true }) :
    Correlated s' := by
  refine ⟨failures, calls ▸ h.zero, ?_, ?_, ?_⟩
  · rw [calls, next]
    exact h.unused
  · exact fun other none => (h.other (views other)).1 (calls ▸ none)
  · exact fun other call found => (h.other (views other)).2 call (calls ▸ found)

omit h in
theorem toNotify_set (s : Correlator) (thread : Nat) (failing : Option Failing) (thread' : Nat) :
    toNotify { s with failures := update s.failures thread failing } thread' =
      if thread' = thread then (failing.map (·.ids)).getD [] else s.toNotify thread' := by
  unfold toNotify
  dsimp only
  by_cases same : thread' = thread
  · rw [same, update_self, if_pos rfl]
  · rw [update_of_ne same, if_neg same]

omit h in
/-- A run of `failAll` goes on without touching a waiter. -/
theorem view_failures (failing : Option Failing) {old : Option Failing}
    (running : s.failures thread = old)
    (same : (failing.map (·.ids)).getD [] = (old.map (·.ids)).getD []) (id : Nat) :
    view { s with failures := update s.failures thread failing } id =
      s.view id := by
  have kept : ∀ thread', toNotify
      { s with failures := update s.failures thread failing } thread' =
        s.toNotify thread' := by
    intro thread'
    rw [toNotify_set]
    split
    · next eq => rw [same, eq, toNotify, running]
    · rfl
  unfold view Notifying
  simp only [kept]

omit h in
/-- A run of `failAll` changes, together with the request that owns it. -/
theorem FailuresOK.set (h : FailuresOK s) {new : Option Failing}
    (failures : s'.failures = update s.failures thread new) (failed : s'.failed = true)
    (idle : s'.loop = .receiving → s.loop = .receiving ∧ 0 ≠ thread)
    (more : s.swept = true → s'.swept = true)
    (mine : thread = 0 → (∃ err, new = some (.begun err)) ∨ s'.swept = true)
    (finished : s'.loop = .finished → s'.swept = true)
    (calls : ∀ id, id ≠ thread → s'.calls id = s.calls id)
    (owner : thread ≠ 0 → ∀ failing, new = some failing →
      ∃ call, s'.calls thread = some call ∧ call.phase = .failing) : FailuresOK s' := by
  refine ⟨fun _ _ _ => failed, fun receiving => ?_, fun failing running => ?_, finished,
    fun id failing ne running => ?_⟩
  · obtain ⟨receiving, ne⟩ := idle receiving
    rw [failures, update_of_ne ne, h.idle receiving]
  · rw [failures] at running
    rcases update_eq_some running with ⟨same, is⟩ | ⟨-, old⟩
    · exact (mine same.symm).imp_left fun ⟨err, begun⟩ =>
        ⟨err, Option.some.inj (is.symm.trans begun)⟩
    · exact (h.swept failing old).imp_right more
  · rw [failures] at running
    rcases update_eq_some running with ⟨same, is⟩ | ⟨ne', old⟩
    · subst same
      exact owner ne failing is
    · rw [calls id ne']
      exact h.owner id failing ne old

omit h in
theorem FailuresOK.swept_of (h : FailuresOK s) {failing : Failing}
    (running : s.failures 0 = some failing) (begun : ∀ err, failing ≠ .begun err) :
    s.swept = true :=
  (h.swept failing running).resolve_left fun ⟨err, same⟩ => begun err same

omit h in
/-- A run of `failAll` goes on after its sweep. -/
theorem FailuresOK.advance (h : FailuresOK s) {failing : Failing} {swept : Bool}
    (running : s.failures thread = some failing) (failing' : Failing)
    (more : s.swept = true → swept = true) (mine : thread = 0 → swept = true) :
    FailuresOK { s with
      failures := update s.failures thread (some failing'), swept := swept } := by
  refine h.set rfl (h.failed thread failing running) (fun receiving => ⟨receiving, ?_⟩) more
    (fun zero => .inr (mine zero)) (fun finished => more (h.finished finished)) (fun _ _ => rfl)
    fun ne _ _ => h.owner thread failing ne running
  rintro rfl
  exact absurd ((h.idle receiving).symm.trans running) nofun

namespace Correlated

theorem stopReading (receiving : s.loop = .receiving) (closes : Bool)
    (err : Failure) : Correlated (s.stopReading closes err) := by
  have idle := h.failures.idle receiving
  refine h.same (h.failures.set rfl rfl nofun id (fun _ => .inl ⟨err, rfl⟩) nofun (fun _ _ => rfl)
    (absurd rfl)) rfl rfl fun id => .inr ?_
  exact congrArg (fun v : View => { v with failed := true })
    (view_failures (some (.begun err)) idle rfl id)

theorem control (receiving : s.loop = .receiving)
    (frame : ControlFrame) : Correlated (s.control frame) := by
  unfold Correlator.control
  split
  · next accepted => exact h.handleControlFrame accepted
  · exact h.stopReading receiving _ _

section

variable (found : s.calls id = some call)

include found

theorem abandon (quiet : call.phase ≠ .failing)
    (self : CallOK { s.view id with waiter := none, abandoned := True } id call') :
    Correlated ({ s with
      waiters := update s.waiters id none
      abandonedWaiters := insert id s.abandonedWaiters }.setCall id call') := by
  refine h.put (FailuresOK.setCall { h.failures with } found fun failing => absurd failing quiet) rfl
    (Nat.le_refl _) (h.known found) (fun other ne => .inl ?_) ?_
  · refine Eq.trans ?_ (view_waiter_other s ne none)
    unfold view Correlator.setCall
    rw [Finset.mem_insert, eq_false ne, false_or]
    rfl
  · unfold view Correlator.setCall
    dsimp only
    rw [update_self, eq_true (Finset.mem_insert_self id s.abandonedWaiters)]
    exact self

/-- Too many cancelled requests: the peer fails. -/
theorem overflow
    (unowned : s.failures id = none) (err : Failure) :
    Correlated (({ s with waiters := update s.waiters id none }.setCall id
      { call with phase := .failing }).beginFailure id err) := by
  have known := h.known found
  have views : ∀ other, view (({ s with
      waiters := update s.waiters id none }.setCall id
        { call with phase := .failing }).beginFailure id err) other =
      { view { s with waiters := update s.waiters id none } other with
        failed := true } := fun other =>
    congrArg (fun v : View => { v with failed := true })
      (view_failures (s := { s with waiters := update s.waiters id none }) (some (.begun err))
        unowned rfl other)
  refine h.put ?_ rfl (Nat.le_refl _) known (fun other ne => .inr ?_) ?_
  · exact h.failures.set rfl rfl (fun receiving => ⟨receiving, known.1.symm⟩) (fun swept => swept)
      (fun zero => absurd zero known.1) h.failures.finished (fun _ ne => update_of_ne ne ..)
      fun _ _ _ => ⟨_, update_self .., rfl⟩
  · rw [views, view_waiter_other s ne]
  · rw [views, view_waiter_self]
    exact CallOK.fail ((h.call id call found).remove rfl rfl nofun nofun)

/-- The waiter is removed; an abandoned request that cannot be remembered fails the peer. -/
theorem leave {abandoned : Bool}
    (leaving : call.phase = .leaving abandoned) : Correlated (s.leave id call abandoned) := by
  have ok := h.call id call found
  have registered : call.phase.isRegistered = true := by rw [leaving]; rfl
  have quiet : call.phase ≠ .failing := by rw [leaving]; exact nofun
  have unowned : s.failures id = none := by
    cases running : s.failures id with
    | none => rfl
    | some failing =>
      obtain ⟨owner, owned, phase⟩ := h.failures.owner id failing (h.known found).1 running
      rw [found] at owned
      cases owned
      exact absurd phase quiet
  unfold Correlator.leave Correlator.removeWaiter
  split
  · next asked =>
    split
    · exact h.overflow found unowned _
    have self : CallOK { s.view id with waiter := none, abandoned := True } id
        { call with phase := .returned abandoned } :=
      ok.remove rfl rfl nofun fun _ _ => .inl trivial
    exact h.abandon found quiet self
  · next plain =>
    have remembered : (s.view id).failed = false → Phase.returned abandoned = .returned true →
        (s.view id).abandoned ∨ call.answered = true := by
      intro alive phase
      cases phase
      cases waiter : s.waiters id with
      | none => exact absurd waiter (ok.registered alive registered)
      | some delivered =>
        cases delivered with
        | false => exact absurd ⟨rfl, waiter⟩ plain
        | true => exact .inr (ok.delivered waiter).1
    have self : CallOK { s.view id with waiter := none } id
        { call with phase := .returned abandoned } := ok.remove rfl rfl nofun remembered
    exact h.setWaiter found (fun failing => absurd failing quiet) self

end

theorem sweep {err : Failure} {ids : List Nat}
    (begun : s.failures thread = some (.begun err)) (all : ∀ id, id ∈ ids ↔ (s.waiters id).isSome) :
    Correlated (s.sweep thread err ids) := by
  have failed := h.failures.failed thread _ begun
  have nothing : s.toNotify thread = [] := by
    unfold toNotify
    rw [begun]
    rfl
  have notify : ∀ thread', (s.sweep thread err ids).toNotify thread' =
      if thread' = thread then ids else s.toNotify thread' :=
    toNotify_set s thread (some (.notifying err ids))
  have collected : ∀ id, (s.sweep thread err ids).Notifying id ↔
      s.Notifying id ∨ s.waiters id ≠ none := by
    intro id
    rw [← Option.isSome_iff_ne_none, ← all id]
    constructor
    · rintro ⟨thread', mem⟩
      rw [notify] at mem
      split at mem
      · exact .inr mem
      · exact .inl ⟨thread', mem⟩
    · rintro (⟨thread', mem⟩ | mem)
      · have other : thread' ≠ thread := by
          rintro rfl
          rw [nothing] at mem
          cases mem
        exact ⟨thread', by rw [notify, if_neg other]; exact mem⟩
      · exact ⟨thread, by rw [notify, if_pos rfl]; exact mem⟩
  have more : s.swept = true → (s.swept || thread = 0) = true := fun swept => by rw [swept]; rfl
  have failures := h.failures.advance begun (.notifying err ids) more fun zero => by simp [zero]
  refine ⟨?_, h.zero, h.unused, fun other free => ⟨rfl, fun notifying => ?_⟩,
    fun other call found => ?_⟩
  · exact { failures with }
  · obtain ⟨waiter, quiet⟩ := h.absent other free
    rcases (collected other).mp notifying with old | new
    · exact quiet old
    · exact new waiter
  · show CallOK ⟨_, other ∈ (∅ : Finset Nat), _, _, _⟩ _ _
    rw [eq_false (Finset.notMem_empty other)]
    exact (h.call other call found).sweep failed (collected other)

theorem notify {err : Failure} {ids : List Nat}
    (running : s.failures thread = some (.notifying err (id :: ids))) :
    Correlated (s.notify thread err id ids) := by
  have mine : s.toNotify thread = id :: ids := by
    unfold toNotify
    rw [running]
    rfl
  have notifying : s.Notifying id := ⟨thread, by rw [mine]; exact List.mem_cons_self⟩
  unfold Correlator.notify
  split
  · next free => exact absurd notifying (h.absent id free).2
  next call found =>
  have swept : thread = 0 → s.swept = true := by
    rintro rfl
    exact h.failures.swept_of running nofun
  have failures := h.failures.advance running (.notifying err ids) (fun swept => swept) swept
  have others : ∀ other, other ≠ id → Notifying { s with
      failures := update s.failures thread (some (.notifying err ids)) } other =
        s.Notifying other := by
    intro other ne
    unfold Notifying
    simp only [toNotify_set]
    refine propext (exists_congr fun thread' => ?_)
    split
    · next same =>
      subst same
      rw [mine, List.mem_cons, eq_false ne, false_or]
      rfl
    · rfl
  refine h.put (failures.setCall found fun failing => failing) rfl (Nat.le_refl _) (h.known found)
    (fun other ne => .inl ?_) ?_
  · exact congrArg (fun p => { s.view other with notifying := p }) (others other ne)
  · exact (h.call id call found).notify notifying err

/-- A run of `failAll` ends, or closes the transport. -/
theorem advance {failing failing' : Failing}
    (running : s.failures thread = some failing) (begun : ∀ err, failing ≠ .begun err)
    (nothing : failing.ids = []) (nothing' : failing'.ids = []) :
    Correlated { s with failures := update s.failures thread (some failing') } := by
  have swept : thread = 0 → s.swept = true := fun zero =>
    h.failures.swept_of (zero ▸ running) begun
  exact h.same (h.failures.advance running failing' (fun swept => swept) swept) rfl rfl
    fun id => .inl (view_failures (some failing') running (nothing'.trans nothing.symm) id)

theorem elsewhere (helloResult transportOpen : Bool) :
    Correlated { s with helloResult := helloResult, transportOpen := transportOpen } :=
  { h with failures := { h.failures with } }

theorem finish {failing : Failing}
    (running : s.failures 0 = some failing) (begun : ∀ err, failing ≠ .begun err)
    (nothing : failing.ids = []) :
    Correlated { s with failures := update s.failures 0 none, loop := .finished } := by
  have swept := h.failures.swept_of running begun
  exact h.same (h.failures.set rfl (h.failures.failed 0 _ running) nofun id (fun _ => .inr swept)
    (fun _ => swept) (fun _ _ => rfl) nofun) rfl rfl
    fun id => .inl (view_failures none running nothing.symm id)

theorem failedPeer (found : s.calls id = some call)
    (running : s.failures id = some .closed) :
    Correlated ({ s with failures := update s.failures id none }.setCall id
      { call with phase := .returned true }) := by
  have failed := h.failures.failed id _ running
  have known := h.known found
  refine h.put ?_ rfl (Nat.le_refl _) known
    (fun other _ => .inl (view_failures none running rfl other)) ?_
  · exact h.failures.set rfl failed (fun receiving => ⟨receiving, known.1.symm⟩) (fun swept => swept)
      (fun zero => absurd zero known.1) h.failures.finished (fun _ ne => update_of_ne ne ..) nofun
  have ok := (h.call id call found).giveUp failed
  rw [← view_failures none running rfl id] at ok
  exact ok

/-- Every step keeps the requests correlated when nobody is left unheard. -/
theorem step (step : RequestStep Heard s s') : Correlated s' := by
  cases step with
  | start waitTerminalOnCancel => exact h.start waitTerminalOnCancel
  | refuse found numbered =>
    exact h.move found numbered nofun nofun nofun nofun nofun
  | @register id call found numbered =>
    refine h.setWaiter found ?_ ((h.call id call found).register numbered)
    exact fun failing => absurd (numbered.symm.trans failing) nofun
  | sendFails found registered =>
    exact h.move found registered nofun nofun nofun (fun _ => rfl) nofun
  | @send id call found registered _ heard =>
    refine h.setCall found ?_ ((h.call id call found).send registered heard)
    exact fun failing => absurd (registered.symm.trans failing) nofun
  | cancel found waiting =>
    exact h.move found waiting nofun nofun nofun (fun _ => rfl) nofun
  | linger found waiting =>
    exact h.move found waiting nofun nofun nofun (fun _ => rfl) fun _ => rfl
  | @take id call result found waits full =>
    have opened : call.phase.isOpen = true := by
      rcases waits with waits | waits <;> rw [waits] <;> rfl
    have registered : call.phase.isRegistered = true := by
      rcases waits with waits | waits <;> rw [waits] <;> rfl
    refine h.setCall found (fun failing => ?_) ((h.call id call found).take opened full registered)
    rw [failing] at opened
    cases opened
  | seeDone found lingering | expire found lingering =>
    exact h.move found lingering nofun nofun nofun (fun _ => rfl) nofun
  | closed found closing =>
    exact h.move found closing nofun nofun nofun (fun _ => rfl) nofun
  | leave found leaving => exact h.leave found leaving
  | close => exact h.elsewhere s.helloResult false
  | takeHello => exact h.elsewhere false s.transportOpen
  | control frame receiving => exact h.control receiving frame
  | recvFails receiving | streamFails err receiving => exact h.stopReading receiving _ _
  | sweep thread err ids begun all => exact h.sweep begun all
  | notify thread err id ids running => exact h.notify running
  | notified thread err running =>
    have next : Correlated { s with
        failures := update s.failures thread (some .notified) } :=
      h.advance running nofun rfl rfl
    exact next.elsewhere true s.transportOpen
  | closeTransport thread running =>
    have next : Correlated { s with failures := update s.failures thread (some .closed) } :=
      h.advance running nofun rfl rfl
    exact next.elsewhere s.helloResult false
  | finish closes _ running =>
    cases closes with
    | true | false => exact h.finish running nofun rfl
  | failedPeer found _ running => exact h.failedPeer found running

end Correlated

end

theorem correlated_run (run : Relation.ReflTransGen (RequestStep Heard) newCorrelator s) :
    Correlated s := by
  induction run with
  | refl => exact correlated_new
  | tail _ step ih => exact ih.step step

/-- Every request takes at most one result, its own. The response of a cancelled request is accepted
and touches no other request. Once `done` is closed a request that was sent is no longer
registered, and if it still waits, it has its result or is about to be notified. -/
structure RequestContract (s : Correlator) : Prop where
  own : ∀ id call, s.calls id = some call →
    call.received.length ≤ 1 ∧ ∀ result ∈ call.received, result.BelongsTo id
  late : ∀ id call frame, s.calls id = some call →
    call.phase = .leaving true ∨ call.phase = .returned true → call.answered = false →
    s.failed = false → s.helloReceived = true → frame.Carries id →
    ∃ s', s.handleControlFrame frame = .ok s' ∧ s'.loop = s.loop ∧ s'.failed = false ∧
      ∀ other, other ≠ id → s'.calls other = s.calls other ∧ s'.waiters other = s.waiters other
  heard : s.loop = .finished → ∀ id call, s.calls id = some call → call.sent = true →
    s.waiters id = none ∧ (call.phase.isOpen = true → call.response ≠ none ∨ s.Notifying id)

theorem answer_spec (s : Correlator) (id : Nat) (response : Option Result) :
    (s.answer id response).loop = s.loop ∧ (s.answer id response).failed = s.failed ∧
      (s.answer id response).waiters = s.waiters ∧
      ∀ other, other ≠ id → (s.answer id response).calls other = s.calls other := by
  unfold answer
  split
  · exact ⟨rfl, rfl, rfl, fun _ _ => rfl⟩
  · exact ⟨rfl, rfl, rfl, fun _ ne => update_of_ne ne ..⟩

/-- A response to a cancelled request that was not answered before is accepted. -/
theorem Correlated.late (h : Correlated s) (found : s.calls id = some call)
    (cancelled : call.phase = .leaving true ∨ call.phase = .returned true)
    (unanswered : call.answered = false) (alive : s.failed = false) (reply : Reply) :
    ∃ s', s.deliverResponse id reply = .ok s' ∧ s'.loop = s.loop ∧ s'.failed = false ∧
      ∀ other, other ≠ id → s'.calls other = s.calls other ∧ s'.waiters other = s.waiters other := by
  have ok := h.call id call found
  have known := h.known found
  unfold Correlator.deliverResponse
  rw [if_neg known.1]
  split
  · obtain ⟨loop, failed, waiters, calls⟩ := answer_spec
      { s with abandonedWaiters := s.abandonedWaiters.erase id } id none
    exact ⟨_, rfl, loop, failed.trans alive, fun other ne =>
      ⟨calls other ne, congrFun waiters other⟩⟩
  next notAbandoned =>
  have waiter : s.waiters id = some false := by
    rcases cancelled with leaving | returned
    · cases waiter : s.waiters id with
      | none => exact absurd waiter (ok.registered alive (by rw [leaving]; rfl))
      | some delivered =>
        cases delivered with
        | false => rfl
        | true => exact absurd ((ok.delivered waiter).1.symm.trans unanswered) nofun
    · rcases ok.remembered alive returned with abandoned | answered
      · exact absurd abandoned notAbandoned
      · exact absurd (answered.symm.trans unanswered) nofun
  rw [waiter]
  obtain ⟨loop, failed, waiters, calls⟩ := answer_spec
    { s with waiters := update s.waiters id (some true) } id (some (.reply id reply))
  refine ⟨_, rfl, loop, failed.trans alive, fun other ne => ⟨calls other ne, ?_⟩⟩
  rw [waiters]
  exact update_of_ne ne ..

/-- The contract holds in every run in which nobody is left unheard. -/
theorem request_contract (run : Relation.ReflTransGen (RequestStep Heard) newCorrelator s) :
    RequestContract s := by
  have h := correlated_run run
  refine ⟨?_, ?_, ?_⟩
  · intro id call found
    exact ⟨(h.call id call found).atMostOne, (h.call id call found).own⟩
  · intro id call frame found cancelled unanswered alive hello carries
    have late := h.late found cancelled unanswered alive
    have known := (h.known found).1
    cases frame with
    | response decoded | binaryResponse decoded =>
      obtain ⟨payload, rfl⟩ := carries
      unfold handleControlFrame
      rw [hello]
      exact late (.payload payload)
    | error decoded =>
      obtain ⟨code, message, rfl⟩ := carries
      unfold handleControlFrame
      dsimp only
      rw [if_neg known]
      exact late (.error code message)
    | hello | event | unsupported => exact carries.elim
  · intro finished id call found sent
    have ok := h.call id call found
    have waiter : s.waiters id = none := ok.swept (h.failures.finished finished) sent
    refine ⟨waiter, fun opened => ?_⟩
    rcases ok.reached opened with registered | full
    · exact absurd waiter registered
    · exact full

end Requests

/-- A request is sent, cancelled and abandoned; its response is still to come. -/
theorem request_contract_example : ∃ s call,
    Relation.ReflTransGen (RequestStep Heard) newCorrelator s ∧ s.calls 1 = some call ∧
      call.phase = .returned true ∧ call.sent = true ∧ s.abandonedWaiters = {1} ∧
      RequestContract s := by
  have hello : Relation.ReflTransGen (RequestStep Heard) newCorrelator _ :=
    .single (.control (.hello (some 7)) rfl)
  have started := hello.tail (.start false)
  have registered := started.tail (@RequestStep.register _ _ 1 _ rfl rfl)
  have sent := registered.tail (@RequestStep.send _ _ 1 _ rfl rfl rfl nofun)
  have cancelled := sent.tail (@RequestStep.cancel _ _ 1 _ rfl rfl rfl)
  have left := cancelled.tail (@RequestStep.leave _ _ 1 _ true rfl rfl)
  exact ⟨_, _, left, rfl, rfl, rfl, rfl, request_contract left⟩

/-- The read loop has swept the waiters and not yet closed the transport. A request that registers
now is sent; it stays registered and nobody answers it. -/
theorem request_never_answered : ∃ s call,
    Relation.ReflTransGen (RequestStep fun _ _ => True) newCorrelator s ∧ s.loop = .finished ∧
      s.calls 1 = some call ∧ call.phase = .waiting ∧ call.sent = true ∧ call.response = none ∧
      s.waiters 1 = some false ∧ ¬ RequestContract s := by
  have failing : Relation.ReflTransGen (RequestStep fun _ _ => True) newCorrelator _ :=
    .single (.streamFails ⟨.badRequest, "unsupported stream frame type 1"⟩ rfl)
  have swept := failing.tail (.sweep 0 _ [] rfl fun _ => ⟨nofun, nofun⟩)
  have started := swept.tail (.start false)
  have registered := started.tail (@RequestStep.register _ _ 1 _ rfl rfl)
  have sent := registered.tail (@RequestStep.send _ _ 1 _ rfl rfl rfl trivial)
  have notified := sent.tail (.notified 0 _ rfl)
  have closed := notified.tail (.closeTransport 0 rfl fun _ => rfl)
  have finished := closed.tail (.finish true rfl rfl)
  refine ⟨_, _, finished, rfl, rfl, rfl, rfl, rfl, rfl, fun contract => ?_⟩
  exact absurd (contract.heard rfl 1 _ rfl rfl).1 nofun

end Anytty.Client
