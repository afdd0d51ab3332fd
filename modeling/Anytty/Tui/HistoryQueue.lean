import Anytty.Data.SortedMap

/-!
# Program requests and the history queue of a terminal

A layout program calls methods of the host with RESULT frames. `Session.reserve` is the part
of `HandleResult` before the handler: it refuses a frame or reserves its request as in
flight. The handler either returns the outcome, which `Session.finish` sends, or leaves the
answer to a worker, which ends in `Session.completeForEpoch`.

History methods are the second kind. `terminalHistory` puts a closure into the terminal's
bounded queue, and one worker per terminal runs the closures. A scroll goes ahead of the
queue, cancels the running scroll and replaces the queued ones.

The text and the data of an outcome come from the provider; here they are inputs.
-/

namespace Anytty.Tui

open Anytty.Data (SortedMap)

/-! ### Frames -/

/-- The parameters of a method call. -/
structure Params where
  endpoint : String
  id : String
  view : String
  delta : Int
  /-- The other fields, which only `validateParams` reads here. -/
  others : List (String × String)
deriving DecidableEq, Repr

/-- A RESULT frame. -/
structure ResultFrame where
  epoch : Nat
  requestID : Nat
  method : String
  params : Params
deriving DecidableEq, Repr

structure Outcome (δ : Type) where
  ok : Bool
  data : Option δ
  error : String
deriving DecidableEq, Repr

def Outcome.failed {δ : Type} (error : String) : Outcome δ := ⟨false, none, error⟩

structure Response (δ : Type) where
  requestID : Nat
  epoch : Nat
  ok : Bool
  data : Option δ
  error : String
deriving DecidableEq, Repr

/-- The message of `sendResponseLocked`. -/
def response {δ : Type} (epoch requestID : Nat) (outcome : Outcome δ) : Response δ where
  requestID := requestID
  epoch := epoch
  ok := outcome.ok
  data := outcome.data
  error :=
    if outcome.ok then "" else if outcome.error = "" then "rejected" else outcome.error

/-- What a history worker passes to `CompleteForEpoch`: an error text makes it a failure. -/
def historyCompletion {δ : Type} (outcome : Outcome δ) : Outcome δ :=
  let errMsg := if !outcome.ok && outcome.error = "" then "rejected" else outcome.error
  ⟨errMsg = "", outcome.data, errMsg⟩

/-- What `completeAsync` passes on: the data of a success or the text of a failure. -/
def asyncCompletion {δ : Type} (outcome : Outcome δ) : Outcome δ :=
  if outcome.ok then ⟨true, outcome.data, ""⟩
  else .failed (if outcome.error = "" then "rejected" else outcome.error)

/-! ### The session's request table -/

/-- What a session is configured with, as far as requests are concerned. -/
structure SessionOptions (δ : Type) where
  lookupMethod : String → Bool
  /-- The empty text accepts the parameters. -/
  validateParams : String → Params → String
  maxInflightRequests : Nat
  /-- The frame of a response keeps to the message limit. -/
  marshals : Response δ → Bool

/-- The request table of a session. -/
structure Session (δ : Type) where
  epoch : Nat
  answered : List Nat
  /-- The requests in flight, with their epochs. -/
  inflight : SortedMap Nat Nat
  /-- The RESULT frames that were not refused. -/
  accepted : List ResultFrame
  /-- The responses to accepted frames, in the order they were written. -/
  answers : List (Response δ)
  /-- The responses to refused frames. -/
  refusals : List (Response δ)

variable {δ : Type}

section

variable (options : SessionOptions δ) (s : Session δ)

/-- Why a RESULT is refused, in the order of the tests. -/
def Session.refusal (r : ResultFrame) : Option String :=
  if r.epoch ≠ s.epoch then some "epoch reset"
  else if r.requestID ∈ s.answered then some "duplicate request_id"
  else if !options.lookupMethod r.method then some ("unknown method: " ++ r.method)
  else if options.validateParams r.method r.params ≠ "" then
    some (options.validateParams r.method r.params)
  else if 0 < options.maxInflightRequests ∧
      options.maxInflightRequests ≤ s.inflight.entries.length then
    some "throttled"
  else none

/-- Write the answer to an accepted frame; a message over the limit is not written. -/
def Session.answer (message : Response δ) : Session δ :=
  if options.marshals message then { s with answers := s.answers ++ [message] } else s

def Session.refuse (message : Response δ) : Session δ :=
  if options.marshals message then { s with refusals := s.refusals ++ [message] } else s

end

def Session.accept (s : Session δ) (r : ResultFrame) : Session δ :=
  { s with answered := r.requestID :: s.answered, accepted := s.accepted ++ [r] }

section

variable (options : SessionOptions δ) (s : Session δ)

/-- `HandleResult` up to the handler. `input.forward` is answered under the same lock; the
others are reserved, since their worker may finish before the handler returns. -/
def Session.reserve (r : ResultFrame) (forwarded : Outcome δ) : Session δ × Bool :=
  match s.refusal options r with
  | some error => (s.refuse options (response r.epoch r.requestID (.failed error)), false)
  | none =>
    if r.method = "input.forward" then
      ((s.accept r).answer options (response r.epoch r.requestID forwarded), false)
    else
      ({ s.accept r with inflight := s.inflight.insert r.requestID r.epoch }, true)

/-- `HandleResult` after the handler. -/
def Session.finish (r : ResultFrame) (outcome : Outcome δ) (pending : Bool) : Session δ :=
  if r.epoch ≠ s.epoch then s
  else if pending then s
  else
    answer options { s with inflight := s.inflight.erase r.requestID }
      (response r.epoch r.requestID outcome)

/-- `CompleteForEpoch`; epoch 0 is any epoch. -/
def Session.completeForEpoch (epoch requestID : Nat) (outcome : Outcome δ) : Session δ :=
  match s.inflight.lookup requestID with
  | none => s
  | some reserved =>
    if epoch ≠ 0 ∧ reserved ≠ epoch then s
    else
      let s := { s with inflight := s.inflight.erase requestID }
      if reserved ≠ s.epoch then s
      else s.answer options (response reserved requestID outcome)

end

/-! ### The terminal's queue -/

/-- The scroll state of one pane, as far as routing reads it. -/
structure PaneView where
  historyActive : Bool
  pinned : Bool
  historyRouting : Bool
  historyRoutingSeq : Nat
deriving DecidableEq, Repr

def PaneView.routingActive (v : PaneView) : Bool :=
  v.historyActive || v.pinned || v.historyRouting

/-- `BeginHistoryScroll`; the token is the new `historyRoutingSeq`. -/
def PaneView.beginScroll (v : PaneView) (delta : Int) : PaneView :=
  { v with
    historyRoutingSeq := v.historyRoutingSeq + 1
    historyRouting := decide (0 < delta) || v.routingActive }

def PaneView.endScroll (v : PaneView) (token : Nat) : PaneView :=
  if token = v.historyRoutingSeq then { v with historyRouting := false } else v

/-- The first region of `HistoryRelease`. -/
def PaneView.release (v : PaneView) : PaneView :=
  { v with historyRoutingSeq := v.historyRoutingSeq + 1, historyRouting := false }

/-- A closure in the queue, with what it captured. -/
structure Work where
  request : ResultFrame
  token : Nat
  latest : Bool
  generation : Nat
deriving DecidableEq, Repr

/-- How far the worker is with a closure. -/
inductive Stage
  /-- Taken from the queue. -/
  | taken
  /-- The epoch was right; the provider is asked. -/
  | calling
  /-- Before the deferred `EndHistoryScroll`. -/
  | ending
  /-- The closure has returned. -/
  | returned
deriving DecidableEq, Repr

structure Terminal where
  historyQueue : List Work
  historyRunning : Bool
  worker : Option (Stage × Work)
  /-- `historyContext` is cancelled. -/
  historyClosed : Bool
  historyScrollGeneration : Nat
  /-- The context of the running scroll: whether it was cancelled. -/
  historyScroll : Option Bool
  hasPersistentHistory : Bool
  views : String → PaneView

def historyQueueLimit : Nat := 64

section

variable (t : Terminal)

/-- `enqueueHistory`; `none` when the queue is full or the terminal closed. -/
def Terminal.enqueueHistory (work : Work) : Option Terminal :=
  if historyQueueLimit ≤ t.historyQueue.length ∨ t.historyClosed then none
  else if work.latest then
    let generation := t.historyScrollGeneration + 1
    some { t with
      historyScrollGeneration := generation
      historyScroll := t.historyScroll.map fun _ => true
      historyQueue :=
        { work with generation := generation } :: t.historyQueue.filter fun w => !w.latest
      historyRunning := true }
  else some { t with historyQueue := t.historyQueue ++ [work], historyRunning := true }

/-- The head of the loop of `runHistoryQueue`. -/
def Terminal.takeWork : Terminal :=
  if t.historyRunning ∧ t.worker = none then
    match t.historyQueue with
    | [] => { t with historyRunning := false }
    | work :: queue =>
      { t with
        historyQueue := queue
        worker := some (.taken, work)
        historyScroll := if work.latest then some false else t.historyScroll }
  else t

/-- After the closure: a scroll gives up its context. -/
def Terminal.clearWork : Terminal :=
  match t.worker with
  | some (.returned, work) =>
    { t with worker := none, historyScroll := if work.latest then none else t.historyScroll }
  | _ => t

def Terminal.setView (view : String) (f : PaneView → PaneView) : Terminal :=
  { t with views := fun v => if v = view then f (t.views v) else t.views v }

def Terminal.setStage (stage : Stage) (work : Work) : Terminal :=
  { t with worker := some (stage, work) }

end

/-- The regions of `HistoryRelease` that routing and the queue see. -/
def Terminal.release (t : Terminal) (view : String) : Terminal :=
  { t.setView view PaneView.release with
    historyScrollGeneration := t.historyScrollGeneration + 1
    historyScroll := t.historyScroll.map fun _ => true }

/-! ### The host -/

/-- The frame reader, which serves one RESULT at a time. -/
inductive Reader (δ : Type)
  | idle
  /-- The request is reserved and its handler called. -/
  | handling (r : ResultFrame)
  /-- `terminalHistory` has chosen the queue of a terminal. -/
  | queueing (r : ResultFrame) (terminal : Nat)
  /-- `BeginHistoryScroll` has returned its token. -/
  | begun (r : ResultFrame) (terminal token : Nat)
  /-- The handler has returned. -/
  | returned (r : ResultFrame) (outcome : Outcome δ) (pending : Bool)

/-- How the handler of another method ends. -/
inductive Handled (δ : Type)
  | inline (outcome : Outcome δ)
  /-- A goroutine of its own will complete the request. -/
  | background

structure Host (δ : Type) where
  session : Session δ
  reader : Reader δ
  /-- The terminal objects. -/
  terminals : Nat → Terminal
  /-- `TerminalBySource`, by endpoint and id. -/
  bySource : String × String → Option Nat
  /-- The requests whose goroutines run. -/
  background : List ResultFrame

def historyMethods : List String :=
  ["history.window", "terminal.history.window", "terminal.search", "terminal.scroll",
    "terminal.scrollEnd", "terminal.copy"]

section

variable (h : Host δ)

def Host.setTerminal (t : Nat) (terminal : Terminal) : Host δ :=
  { h with terminals := fun i => if i = t then terminal else h.terminals i }

/-- `terminalHistory` up to `BeginHistoryScroll`. `inline` is what the terminal returns when
it is asked at once. -/
def Host.terminalHistory (r : ResultFrame) (inline : Outcome δ) : Reader δ :=
  match h.bySource (r.params.endpoint, r.params.id) with
  | none => .returned r (.failed "no such terminal") false
  | some t =>
    if r.method = "terminal.scroll" ∧ r.params.delta < 0 ∧
        ((h.terminals t).views r.params.view).routingActive = false then
      -- a live terminal is at the bottom already
      .returned r ⟨true, inline.data, ""⟩ false
    else if r.method = "terminal.scroll" ∧ (h.terminals t).hasPersistentHistory = false then
      .returned r inline false
    else .queueing r t

/-- `gateHandler.Handle` for a reserved request. -/
def Host.handle (handled : Handled δ) : Host δ :=
  match h.reader with
  | .handling r =>
    match handled with
    | .inline outcome =>
      if r.method ∈ historyMethods then { h with reader := h.terminalHistory r outcome }
      else { h with reader := .returned r outcome false }
    | .background =>
      if r.method ∈ historyMethods then h
      else
        { h with
          reader := .returned r (.failed "") true, background := r :: h.background }
  | _ => h

def Host.beginHistoryScroll : Host δ :=
  match h.reader with
  | .queueing r t =>
    let terminal := (h.terminals t).setView r.params.view (·.beginScroll r.params.delta)
    { h.setTerminal t terminal with
      reader := .begun r t (terminal.views r.params.view).historyRoutingSeq }
  | _ => h

/-- The enqueueing end of `terminalHistory`. -/
def Host.enqueue : Host δ :=
  match h.reader with
  | .begun r t token =>
    let work : Work := ⟨r, token, r.method = "terminal.scroll", 0⟩
    match (h.terminals t).enqueueHistory work with
    | some terminal =>
      { h.setTerminal t terminal with reader := .returned r (.failed "") true }
    | none =>
      { h.setTerminal t ((h.terminals t).setView r.params.view (·.endScroll token)) with
        reader := .returned r (.failed "terminal history queue full") false }
  | _ => h

end

inductive Event (δ : Type)
  /-- The reader takes a frame; `forwarded` is what an `input.forward` comes to. -/
  | receive (r : ResultFrame) (forwarded : Outcome δ)
  | handle (handled : Handled δ)
  | beginHistoryScroll
  | enqueue
  | finish
  /-- The worker of a terminal goes on. -/
  | take (t : Nat)
  | start (t : Nat)
  | complete (t : Nat) (outcome : Outcome δ)
  | endScroll (t : Nat)
  | clear (t : Nat)
  /-- The goroutine of another request ends. -/
  | completeAsync (r : ResultFrame) (outcome : Outcome δ)
  /-- What a pane shows changes. -/
  | publish (t : Nat) (view : String) (historyActive pinned : Bool)
  | release (t : Nat) (view : String)
  /-- A terminal comes, goes or is replaced. -/
  | bind (source : String × String) (terminal : Option Nat)
  | close (t : Nat)

/-- One step of the host; an event whose turn it is not changes nothing. -/
def Host.perform (options : SessionOptions δ) (h : Host δ) : Event δ → Host δ
  | .receive r forwarded =>
    match h.reader with
    | .idle =>
      { h with
        session := (h.session.reserve options r forwarded).1
        reader := if (h.session.reserve options r forwarded).2 then .handling r else .idle }
    | _ => h
  | .handle handled => h.handle handled
  | .beginHistoryScroll => h.beginHistoryScroll
  | .enqueue => h.enqueue
  | .finish =>
    match h.reader with
    | .returned r outcome pending =>
      { h with session := h.session.finish options r outcome pending, reader := .idle }
    | _ => h
  | .take t => h.setTerminal t (h.terminals t).takeWork
  | .start t =>
    match (h.terminals t).worker with
    | some (.taken, work) =>
      -- a closure of an earlier epoch returns at once
      h.setTerminal t ((h.terminals t).setStage
        (if h.session.epoch ≠ work.request.epoch then .ending else .calling) work)
    | _ => h
  | .complete t outcome =>
    match (h.terminals t).worker with
    | some (.calling, work) =>
      { h.setTerminal t ((h.terminals t).setStage .ending work) with
        session := h.session.completeForEpoch options work.request.epoch
          work.request.requestID (historyCompletion outcome) }
    | _ => h
  | .endScroll t =>
    match (h.terminals t).worker with
    | some (.ending, work) =>
      h.setTerminal t (((h.terminals t).setView work.request.params.view
        (·.endScroll work.token)).setStage .returned work)
    | _ => h
  | .clear t => h.setTerminal t (h.terminals t).clearWork
  | .completeAsync r outcome =>
    if r ∈ h.background then
      { h with
        session := h.session.completeForEpoch options r.epoch r.requestID
          (asyncCompletion outcome)
        background := h.background.erase r }
    else h
  | .publish t view historyActive pinned =>
    h.setTerminal t ((h.terminals t).setView view fun v =>
      { v with historyActive := historyActive, pinned := pinned })
  | .release t view => h.setTerminal t ((h.terminals t).release view)
  | .bind source terminal =>
    { h with bySource := fun s => if s = source then terminal else h.bySource s }
  | .close t => h.setTerminal t { h.terminals t with historyClosed := true }

def Host.run (options : SessionOptions δ) (h : Host δ) (events : List (Event δ)) : Host δ :=
  events.foldl (perform options) h

def newTerminal (hasPersistentHistory : Bool) : Terminal where
  historyQueue := []
  historyRunning := false
  worker := none
  historyClosed := false
  historyScrollGeneration := 0
  historyScroll := none
  hasPersistentHistory := hasPersistentHistory
  views := fun _ => ⟨false, false, false, 0⟩

def newSession (epoch : Nat) : Session δ := ⟨epoch, [], SortedMap.empty, [], [], []⟩

/-- A session at the start of an epoch. -/
def newHost (epoch : Nat) (bySource : String × String → Option Nat)
    (hasPersistentHistory : Nat → Bool) : Host δ where
  session := newSession epoch
  reader := .idle
  terminals := fun t => newTerminal (hasPersistentHistory t)
  bySource := bySource
  background := []

end Anytty.Tui
