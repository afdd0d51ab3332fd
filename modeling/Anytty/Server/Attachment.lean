import Anytty.Data.Update

/-!
# The output stream of a terminal attachment

A bootstrap frame starts a goroutine that opens a duplex of the provider attachment, waits until it
is ready, installs it in the binding and forwards what it receives to the client channel. A close
frame, `retireBinding` and `releaseAllStreams` begin a new generation and take the duplex out. The
goroutine of a duplex that was taken out, or whose provider stream has ended, is only told by its
next `Receive`, and the binding keeps a duplex that has ended on its own. A client that bootstraps
again only after the last stream is over and was closed (`Careful`) gets the frames of one
generation at a time.

A bootstrap makes a generation of its own, so a goroutine is named by its generation.
-/

namespace Anytty.Server

open Function Data

/-- The frames that `forwardProviderFrames` sends. -/
inductive StreamFrame
  | output (payload : List UInt8)
  | syncLost (droppedBytes : Nat)
  | closed (exitCode : Int)
deriving DecidableEq

inductive Frame
  | streamReady
  | stream (frame : StreamFrame)
  | error (code : Nat) (message : String)
deriving DecidableEq

/-- A frame on the client channel, with the generation and the duplex that it is sent for. -/
structure Sent where
  generation : Nat
  duplex : Option Nat
  frame : Frame
deriving DecidableEq

/-- Where the goroutine of a bootstrap is. -/
inductive Stage
  | opening
  /-- In `WaitReady`. -/
  | waiting (duplex : Nat)
  /-- `WaitReady` has succeeded; the lock of the binding is next. -/
  | ready (duplex : Nat)
  /-- The duplex is in the binding; `StreamReady` is next. -/
  | installed (duplex : Nat)
  /-- In `Receive`. -/
  | receiving (duplex : Nat)
  /-- The frames to send, and whether it receives again after them. -/
  | sending (duplex : Nat) (frames : List StreamFrame) (more : Bool)
  | ended
deriving DecidableEq

/-- What `Receive` returns. -/
inductive Received
  | payload (payload : List UInt8)
  | syncLost (droppedBytes : Nat)
  | closed (exitCode : Int)
  | failed
deriving DecidableEq

structure Binding where
  /-- Whether an attachment is bound. -/
  attachment : Bool
  generation : Nat
  duplex : Option Nat
  stages : Nat → Option Stage
  /-- The duplexes that a call has taken out and closes next. -/
  unclosed : List Nat
  closed : Finset Nat
  /-- The frames that were sent, the latest first. -/
  sent : List Sent

def newBinding (attachment : Bool) : Binding where
  attachment := attachment
  generation := 0
  duplex := none
  stages := fun _ => none
  unclosed := []
  closed := ∅
  sent := []

inductive Event
  | startAttachmentStream
  /-- `Attachment.Stream` returns a duplex, new or shared with an earlier generation. -/
  | openStream (generation : Nat) (duplex : Nat)
  /-- `WaitReady` returns; an error is sent to the client or not. -/
  | waitReady (generation : Nat) (error : Option (String × Bool))
  | install (generation : Nat)
  | sendReady (generation : Nat) (delivered : Bool)
  /-- `Receive` returns; the session lives on or not. -/
  | receive (generation : Nat) (received : Received) (alive : Bool)
  | send (generation : Nat) (delivered : Bool)
  /-- The region of `stopAttachmentStream`, `retireBinding` and `releaseAllStreams`. -/
  | stopAttachmentStream
  | closeDuplex
deriving DecidableEq

def protocolErrorUnavailable : Nat := 503

namespace Binding

variable (binding : Binding)

def setStage (generation : Nat) (stage : Stage) : Nat → Option Stage :=
  update binding.stages generation (some stage)

def notifyStreamFailure (alive : Bool) : List StreamFrame :=
  if alive then [.closed (-1)] else []

/-- The stage after `Receive` has returned. -/
def afterReceive (duplex : Nat) (received : Received) (alive : Bool) : Stage :=
  match received with
  | .payload payload => .sending duplex [.output payload] true
  | .syncLost dropped => .sending duplex (.syncLost dropped :: notifyStreamFailure alive) false
  | .closed exitCode => .sending duplex [.closed exitCode] false
  | .failed => if alive then .sending duplex (notifyStreamFailure alive) false else .ended

/-- The stage after the first of the frames was sent; only a lost output ends the loop at once. -/
def afterSend (duplex : Nat) (frames : List StreamFrame) (more delivered : Bool) : Stage :=
  match frames with
  | [] => if more && delivered then .receiving duplex else .ended
  | frames => .sending duplex frames more

/-- One region under the lock of the binding, one call of the provider or one frame. An event that
does not fit the state does nothing. -/
def perform : Event → Binding
  | .startAttachmentStream =>
    if binding.attachment then { binding with
      generation := binding.generation + 1
      stages := binding.setStage (binding.generation + 1) .opening }
    else { binding with
      generation := binding.generation + 1
      sent := ⟨binding.generation + 1, none,
        .error protocolErrorUnavailable "terminal attachment is not bound"⟩ :: binding.sent }
  | .openStream generation duplex =>
    match binding.stages generation with
    | some .opening => { binding with stages := binding.setStage generation (.waiting duplex) }
    | _ => binding
  | .waitReady generation error =>
    match binding.stages generation with
    | some (.waiting duplex) =>
      match error with
      | none => { binding with stages := binding.setStage generation (.ready duplex) }
      | some (message, told) => { binding with
          stages := binding.setStage generation .ended
          sent := if told then
              ⟨generation, some duplex, .error protocolErrorUnavailable message⟩ :: binding.sent
            else binding.sent }
    | _ => binding
  | .install generation =>
    match binding.stages generation with
    | some (.ready duplex) =>
      if binding.generation ≠ generation ∨ binding.duplex ≠ none then { binding with
        stages := binding.setStage generation .ended
        unclosed := duplex :: binding.unclosed }
      else { binding with
        duplex := some duplex
        stages := binding.setStage generation (.installed duplex) }
    | _ => binding
  | .sendReady generation delivered =>
    match binding.stages generation with
    | some (.installed duplex) =>
      if delivered then { binding with
        stages := binding.setStage generation (.receiving duplex)
        sent := ⟨generation, some duplex, .streamReady⟩ :: binding.sent }
      else { binding with stages := binding.setStage generation .ended }
    | _ => binding
  | .receive generation received alive =>
    match binding.stages generation with
    | some (.receiving duplex) =>
      -- `Receive` of a closed duplex fails.
      if duplex ∈ binding.closed ∧ received ≠ .failed then binding
      else { binding with
        stages := binding.setStage generation (afterReceive duplex received alive) }
    | _ => binding
  | .send generation delivered =>
    match binding.stages generation with
    | some (.sending duplex (frame :: frames) more) => { binding with
        stages := binding.setStage generation (afterSend duplex frames more delivered)
        sent := if delivered then ⟨generation, some duplex, .stream frame⟩ :: binding.sent
          else binding.sent }
    | _ => binding
  | .stopAttachmentStream => { binding with
      generation := binding.generation + 1
      duplex := none
      unclosed := binding.duplex.toList ++ binding.unclosed }
  | .closeDuplex =>
    match binding.unclosed with
    | duplex :: unclosed => { binding with unclosed, closed := insert duplex binding.closed }
    | [] => binding

end Binding

/-- The bindings of the runs whose events a predicate allows. -/
def Reachable (allowed : Binding → Event → Prop) (attachment : Bool) : Binding → Prop :=
  Relation.ReflTransGen (fun binding binding' => ∃ event, allowed binding event ∧
    binding' = binding.perform event) (newBinding attachment)

/-! ### What a step changes -/

/-- The goroutine has not reached the lock of the binding. -/
def Stage.starting : Stage → Bool
  | .opening | .waiting _ | .ready _ => true
  | _ => false

/-- The goroutine has installed its duplex and not ended. -/
def Stage.forwards : Stage → Bool
  | .installed _ | .receiving _ | .sending .. => true
  | _ => false

/-- The duplex of a goroutine that has sent its `StreamReady`. -/
def Stage.streams : Stage → Option Nat
  | .receiving duplex | .sending duplex .. => some duplex
  | _ => none

/-- The events that change a binding, by what they do to it. -/
inductive Step (binding : Binding) : Event → Binding → Prop
  | start : Step binding .startAttachmentStream { binding with
      generation := binding.generation + 1
      stages := binding.setStage (binding.generation + 1) .opening }
  | unbound {sent : Sent} : (∃ code message, sent.frame = .error code message) →
      Step binding .startAttachmentStream { binding with
        generation := binding.generation + 1
        sent := sent :: binding.sent }
  /-- A goroutine goes on and sends no frame of the stream. -/
  | advance {event : Event} {generation : Nat} {old new : Stage} {unclosed : List Nat}
      {sent : List Sent} : binding.stages generation = some old →
      (new.starting = true → old.starting = true) →
      (new.forwards = true → old.forwards = true) →
      (∀ duplex, new.streams = some duplex → old.streams = some duplex) →
      (∀ duplex, old = .installed duplex → event = .sendReady generation false) →
      (sent = binding.sent ∨ ∃ error code message, error.frame = .error code message ∧
        sent = error :: binding.sent) →
      Step binding event { binding with
        stages := binding.setStage generation new, unclosed, sent }
  | install {generation duplex : Nat} : binding.stages generation = some (.ready duplex) →
      binding.generation = generation → binding.duplex = none →
      Step binding (.install generation) { binding with
        duplex := some duplex
        stages := binding.setStage generation (.installed duplex) }
  | sendReady {generation duplex : Nat} : binding.stages generation = some (.installed duplex) →
      Step binding (.sendReady generation true) { binding with
        stages := binding.setStage generation (.receiving duplex)
        sent := ⟨generation, some duplex, .streamReady⟩ :: binding.sent }
  | send {generation duplex : Nat} {frame : StreamFrame} {frames : List StreamFrame} {more : Bool} :
      binding.stages generation = some (.sending duplex (frame :: frames) more) →
      Step binding (.send generation true) { binding with
        stages := binding.setStage generation (Binding.afterSend duplex frames more true)
        sent := ⟨generation, some duplex, .stream frame⟩ :: binding.sent }
  | stop : Step binding .stopAttachmentStream { binding with
      generation := binding.generation + 1
      duplex := none
      unclosed := binding.duplex.toList ++ binding.unclosed }
  | close {unclosed : List Nat} {closed : Finset Nat} :
      Step binding .closeDuplex { binding with unclosed, closed }

open Binding

theorem starting_afterReceive (duplex : Nat) (received : Received) (alive : Bool) :
    (afterReceive duplex received alive).starting = false := by
  cases received <;> cases alive <;> rfl

variable {binding : Binding} {duplex generation : Nat}

theorem streams_afterReceive {duplex' : Nat} {received : Received} {alive : Bool}
    (streams : (afterReceive duplex received alive).streams = some duplex') :
    duplex = duplex' := by
  cases received <;> cases alive <;> cases streams <;> rfl

theorem starting_afterSend (duplex : Nat) (frames : List StreamFrame) (more delivered : Bool) :
    (afterSend duplex frames more delivered).starting = false := by
  cases frames <;> cases more <;> cases delivered <;> rfl

theorem streams_afterSend {duplex' : Nat} {frames : List StreamFrame} {more delivered : Bool}
    (streams : (afterSend duplex frames more delivered).streams = some duplex') :
    duplex = duplex' := by
  cases frames <;> cases more <;> cases delivered <;> cases streams <;> rfl

theorem Binding.perform_step (binding : Binding) (event : Event) :
    binding.perform event = binding ∨ Step binding event (binding.perform event) := by
  cases event <;> unfold perform <;> dsimp only
  case startAttachmentStream =>
    split
    · exact .inr .start
    · exact .inr (.unbound ⟨_, _, rfl⟩)
  case openStream generation duplex =>
    split
    · next known => exact .inr (.advance known (fun _ => rfl) nofun nofun nofun (.inl rfl))
    · exact .inl rfl
  case waitReady generation error =>
    split
    · next duplex known =>
      split
      · exact .inr (.advance known (fun _ => rfl) nofun nofun nofun (.inl rfl))
      next message told =>
      refine .inr (.advance known nofun nofun nofun nofun ?_)
      split
      · exact .inr ⟨_, _, _, rfl, rfl⟩
      · exact .inl rfl
    · exact .inl rfl
  case install generation =>
    split
    · next duplex known =>
      split
      · exact .inr (.advance known nofun nofun nofun nofun (.inl rfl))
      next fits =>
      simp only [not_or, not_not] at fits
      exact .inr (.install known fits.1 fits.2)
    · exact .inl rfl
  case sendReady generation delivered =>
    split
    · next duplex known =>
      cases delivered with
      | true => exact .inr (.sendReady known)
      | false => exact .inr (.advance known nofun nofun nofun (fun _ _ => rfl) (.inl rfl))
    · exact .inl rfl
  case receive generation received alive =>
    split
    · next duplex known =>
      split
      · exact .inl rfl
      refine .inr (.advance known ?_ (fun _ => rfl) (fun duplex' streams => ?_) nofun (.inl rfl))
      · rw [starting_afterReceive]
        nofun
      · exact congrArg some (streams_afterReceive streams)
    · exact .inl rfl
  case send generation delivered =>
    split
    · next duplex frame frames more known =>
      cases delivered with
      | true => exact .inr (.send known)
      | false =>
        refine .inr (.advance known ?_ (fun _ => rfl) (fun duplex' streams => ?_) nofun (.inl rfl))
        · rw [starting_afterSend]
          nofun
        · exact congrArg some (streams_afterSend streams)
    · exact .inl rfl
  case stopAttachmentStream => exact .inr .stop
  case closeDuplex =>
    split
    · exact .inr .close
    · exact .inl rfl

/-! ### Careful clients -/

/-- The client bootstraps only when the binding has no duplex and no goroutine forwards. -/
def Careful (binding : Binding) : Event → Prop
  | .startAttachmentStream => binding.duplex = none ∧
      ∀ generation stage, binding.stages generation = some stage → stage.forwards = false
  | _ => True

/-- The generation and the duplex of the last `StreamReady`. -/
def lastReady : List Sent → Option (Nat × Option Nat)
  | [] => none
  | sent :: earlier =>
    match sent.frame with
    | .streamReady => some (sent.generation, sent.duplex)
    | _ => lastReady earlier

/-- Every frame of the stream is of the generation and the duplex of the `StreamReady` before it. -/
def Unmixed : List Sent → Prop
  | [] => True
  | sent :: earlier =>
    (∀ frame, sent.frame = .stream frame → lastReady earlier = some (sent.generation, sent.duplex)) ∧
      Unmixed earlier

structure Fenced (binding : Binding) : Prop where
  bounded : ∀ generation stage, binding.stages generation = some stage →
    generation ≤ binding.generation
  single : ∀ generation stage generation' stage', binding.stages generation = some stage →
    binding.stages generation' = some stage' → stage.forwards = true → stage'.forwards = true →
    generation = generation'
  free : ∀ stage, binding.stages binding.generation = some stage → stage.starting = true →
    binding.duplex = none ∧
      ∀ generation stage, binding.stages generation = some stage → stage.forwards = false
  latest : ∀ generation stage duplex, binding.stages generation = some stage →
    stage.streams = some duplex → lastReady binding.sent = some (generation, some duplex)
  unmixed : Unmixed binding.sent

theorem forwards_of_streams {stage : Stage} (streams : stage.streams = some duplex) :
    stage.forwards = true := by
  cases stage <;> cases streams <;> rfl

namespace Fenced

variable {binding : Binding}

theorem initial (attachment : Bool) : Fenced (newBinding attachment) where
  bounded := fun _ _ known => nomatch known
  single := fun _ _ _ _ known => nomatch known
  free := fun _ known => nomatch known
  latest := fun _ _ _ known => nomatch known
  unmixed := trivial

section

variable (h : Fenced binding)
include h

/-- A goroutine goes on without becoming the one that forwards. -/
theorem advance {old new : Stage} (known : binding.stages generation = some old)
    (starting : new.starting = true → old.starting = true)
    (forwards : new.forwards = true → old.forwards = true)
    (streams : ∀ duplex, new.streams = some duplex → old.streams = some duplex) :
    Fenced { binding with stages := binding.setStage generation new } := by
  -- Every stage after the step has one before it that forwards and starts if it does.
  have before : ∀ other stage, binding.setStage generation new other = some stage →
      ∃ stage', binding.stages other = some stage' ∧
        (stage.starting = true → stage'.starting = true) ∧
        (stage.forwards = true → stage'.forwards = true) ∧
        ∀ duplex, stage.streams = some duplex → stage'.streams = some duplex := by
    refine forall_update_some ⟨old, known, starting, forwards, streams⟩ ?_
    exact fun _ _ stage found => ⟨stage, found, fun h => h, fun h => h, fun _ h => h⟩
  refine ⟨?_, ?_, ?_, ?_, h.unmixed⟩
  · intro other stage found
    obtain ⟨stage', found', _⟩ := before _ _ found
    exact h.bounded other stage' found'
  · intro first stage second stage' found found' forwards forwards'
    obtain ⟨old, known, _, keeps, _⟩ := before _ _ found
    obtain ⟨old', known', _, keeps', _⟩ := before _ _ found'
    exact h.single first old second old' known known' (keeps forwards) (keeps' forwards')
  · intro stage found isStarting
    obtain ⟨old, known, keeps, _⟩ := before _ _ found
    obtain ⟨empty, idle⟩ := h.free old known (keeps isStarting)
    refine ⟨empty, fun other stage found => ?_⟩
    obtain ⟨old', known', _, keeps', _⟩ := before _ _ found
    exact Bool.eq_false_of_not_eq_true fun forwards =>
      Bool.false_ne_true ((idle other old' known').symm.trans (keeps' forwards))
  · intro other stage duplex found isStreaming
    obtain ⟨old, known, _, _, keeps⟩ := before _ _ found
    exact h.latest other old duplex known (keeps duplex isStreaming)

theorem error {sent : Sent} {code : Nat} {message : String}
    (isError : sent.frame = .error code message) :
    Fenced { binding with sent := sent :: binding.sent } := by
  have same : lastReady (sent :: binding.sent) = lastReady binding.sent := by
    rw [lastReady, isError]
  refine { h with latest := ?_, unmixed := ⟨fun frame isStream => ?_, h.unmixed⟩ }
  · intro generation stage duplex found streams
    exact same.trans (h.latest generation stage duplex found streams)
  · cases isError.symm.trans isStream

theorem next (duplex : Option Nat) :
    Fenced { binding with generation := binding.generation + 1, duplex } := by
  refine { h with bounded := ?_, free := ?_ }
  · exact fun generation stage found => Nat.le_succ_of_le (h.bounded generation stage found)
  · exact fun stage found => absurd (h.bounded _ stage found) (Nat.not_succ_le_self _)

theorem start (careful : Careful binding .startAttachmentStream) : Fenced { binding with
      generation := binding.generation + 1
      stages := binding.setStage (binding.generation + 1) .opening } := by
  obtain ⟨empty, idle⟩ := careful
  have quiet : ∀ other stage, binding.setStage (binding.generation + 1) .opening other =
      some stage → stage.forwards = false := forall_update_some rfl fun other _ => idle other
  refine ⟨?_, ?_, ?_, ?_, h.unmixed⟩
  · exact forall_update_some (Nat.le_refl _) fun other _ stage found =>
      Nat.le_succ_of_le (h.bounded other stage found)
  · intro generation stage generation' stage' found _ forwards
    cases (quiet generation stage found).symm.trans forwards
  · exact fun _ _ _ => ⟨empty, quiet⟩
  · intro generation stage duplex found streams
    cases (quiet generation stage found).symm.trans (forwards_of_streams streams)

theorem install (known : binding.stages binding.generation = some (.ready duplex)) :
    Fenced { binding with
      duplex := some duplex
      stages := binding.setStage binding.generation (.installed duplex) } := by
  obtain ⟨_, idle⟩ := h.free _ known rfl
  have alone : ∀ other stage, binding.setStage binding.generation (.installed duplex) other =
      some stage → stage.forwards = true → other = binding.generation := by
    refine forall_update_some (fun _ => rfl) ?_
    exact fun other _ stage found forwards => nomatch (idle other stage found).symm.trans forwards
  refine ⟨?_, ?_, ?_, ?_, h.unmixed⟩
  · exact forall_update_some (Nat.le_refl _) fun other _ => h.bounded other
  · intro first stage second stage' found found' forwards forwards'
    exact (alone _ _ found forwards).trans (alone _ _ found' forwards').symm
  · intro stage found starting
    cases (update_self ..).symm.trans found
    cases starting
  · exact fun other stage duplex' => forall_update_some nofun
      (fun other _ stage found streams => h.latest other stage duplex' found streams) other stage

/-- The goroutine that forwards sends a frame of its own stream. -/
theorem sends {old new : Stage} {frame : Frame}
    (known : binding.stages generation = some old) (forwards : old.forwards = true)
    (starting : new.starting = false)
    (streams : ∀ duplex', new.streams = some duplex' → duplex = duplex')
    (ready : frame = .streamReady ∨ ∃ stream, frame = .stream stream ∧ old.streams = some duplex) :
    Fenced { binding with
      stages := binding.setStage generation new
      sent := ⟨generation, some duplex, frame⟩ :: binding.sent } := by
  have alone : ∀ other stage, binding.setStage generation new other = some stage →
      stage.forwards = true → other = generation := by
    refine forall_update_some (fun _ => rfl) ?_
    exact fun other _ stage found isForwarding =>
      h.single other stage generation old found known isForwarding forwards
  have last : lastReady (⟨generation, some duplex, frame⟩ :: binding.sent) =
      some (generation, some duplex) := by
    rcases ready with rfl | ⟨stream, rfl, streams⟩
    · rfl
    · exact h.latest generation old duplex known streams
  refine ⟨?_, ?_, ?_, ?_, ?_, h.unmixed⟩
  · exact forall_update_some (h.bounded generation old known) fun other _ => h.bounded other
  · intro first stage second stage' found found' forwards forwards'
    exact (alone _ _ found forwards).trans (alone _ _ found' forwards').symm
  · intro stage found isStarting
    dsimp only [setStage] at found
    rw [update_apply] at found
    split at found
    · cases found
      cases starting.symm.trans isStarting
    · cases ((h.free stage found isStarting).2 generation old known).symm.trans forwards
  · intro other stage duplex' found isStreaming
    obtain rfl := alone _ _ found (forwards_of_streams isStreaming)
    cases (update_self ..).symm.trans found
    obtain rfl := streams duplex' isStreaming
    exact last
  · intro stream isStream
    rcases ready with rfl | ⟨_, _, streams⟩
    · cases isStream
    · exact h.latest generation old duplex known streams

theorem step {event : Event} (careful : Careful binding event) :
    Fenced (binding.perform event) := by
  rcases binding.perform_step event with same | step
  · rw [same]
    exact h
  generalize binding.perform event = after at step
  cases step with
  | start => exact h.start careful
  | unbound isError =>
    obtain ⟨code, message, isError⟩ := isError
    exact (h.next binding.duplex).error isError
  | advance known starting forwards streams _ sent =>
    have advanced := h.advance known starting forwards streams
    rcases sent with rfl | ⟨error, code, message, isError, rfl⟩
    · exact { advanced with }
    · exact { advanced.error isError with }
  | install known same empty =>
    subst same
    exact h.install known
  | sendReady known =>
    refine h.sends known rfl rfl (fun _ streams => ?_) (.inl rfl)
    exact Option.some.inj streams
  | send known =>
    exact h.sends known rfl (starting_afterSend ..) (fun _ => streams_afterSend)
      (.inr ⟨_, rfl, rfl⟩)
  | stop => exact { h.next none with }
  | close => exact { h with }

end

end Fenced

theorem fenced_run {attachment : Bool} (run : Reachable Careful attachment binding) :
    Fenced binding := by
  induction run with
  | refl => exact Fenced.initial attachment
  | tail _ step ih =>
    obtain ⟨event, careful, rfl⟩ := step
    exact ih.step careful

/-- An installed duplex gets its `StreamReady`, whatever else happens before. -/
theorem installed_step (known : binding.stages generation = some (.installed duplex))
    (bounded : generation ≤ binding.generation) (event : Event) :
    (binding.perform event).stages generation = some (.installed duplex) ∨
      event = .sendReady generation false ∨
      event = .sendReady generation true ∧ (binding.perform event).sent =
        ⟨generation, some duplex, .streamReady⟩ :: binding.sent := by
  have other : ∀ {busy : Nat} (stage : Stage), busy ≠ generation →
      binding.setStage busy stage generation = some (.installed duplex) :=
    fun _ ne => (update_of_ne (Ne.symm ne) ..).trans known
  have differs : ∀ {busy : Nat} {old : Stage}, binding.stages busy = some old →
      old ≠ .installed duplex → busy ≠ generation := by
    rintro busy old found ne rfl
    exact ne (Option.some.inj (found.symm.trans known))
  rcases binding.perform_step event with same | step
  · rw [same]
    exact .inl known
  generalize binding.perform event = after at step
  cases step with
  | start => exact .inl (other _ (Nat.ne_of_gt (Nat.lt_succ_of_le bounded)))
  | unbound isError | stop | close => exact .inl known
  | @advance event busy old new _ _ found _ _ _ installed _ =>
    by_cases same : busy = generation
    · subst same
      cases found.symm.trans known
      exact .inr (.inl (installed duplex rfl))
    · exact .inl (other _ same)
  | install found | send found => exact .inl (other _ (differs found nofun))
  | @sendReady busy _ found =>
    by_cases same : busy = generation
    · subst same
      cases found.symm.trans known
      exact .inr (.inr ⟨rfl, rfl⟩)
    · exact .inl (other _ same)

/-- With a careful client the frames of the stream between two `StreamReady` come from the duplex of
the generation of the first, at most one goroutine forwards, and a bootstrap whose `WaitReady` has
succeeded installs its duplex if it is still the newest, and then sends `StreamReady` unless the
connection fails. -/
theorem stream_generations_do_not_mix {attachment : Bool}
    (run : Reachable Careful attachment binding) :
    Unmixed binding.sent ∧
    (∀ generation stage generation' stage', binding.stages generation = some stage →
      binding.stages generation' = some stage' → stage.forwards = true →
      stage'.forwards = true → generation = generation') ∧
    (∀ duplex, binding.stages binding.generation = some (.ready duplex) →
      (binding.perform (.install binding.generation)).stages binding.generation =
        some (.installed duplex)) ∧
    ∀ generation duplex, binding.stages generation = some (.installed duplex) → ∀ event,
      (binding.perform event).stages generation = some (.installed duplex) ∨
        event = .sendReady generation false ∨
        event = .sendReady generation true ∧ (binding.perform event).sent =
          ⟨generation, some duplex, .streamReady⟩ :: binding.sent := by
  have fenced := fenced_run run
  refine ⟨fenced.unmixed, fenced.single, fun duplex known => ?_, fun generation duplex known => ?_⟩
  · obtain ⟨empty, _⟩ := fenced.free _ known rfl
    simp only [perform, known, empty, ne_eq, not_true, or_self, if_false]
    exact update_self ..
  · exact installed_step known (fenced.bounded generation _ known)

def afterEvents (events : List Event) : Binding := events.foldl perform (newBinding true)

theorem reachable_careful (run : Reachable Careful true binding) (events : List Event)
    (quiet : ∀ event ∈ events, event ≠ .startAttachmentStream) :
    Reachable Careful true (events.foldl perform binding) := by
  induction events generalizing binding with
  | nil => exact run
  | cons event events ih =>
    obtain ⟨first, rest⟩ := List.forall_mem_cons.1 quiet
    refine ih (run.tail ⟨event, ?_, rfl⟩) rest
    cases event with
    | startAttachmentStream => exact absurd rfl first
    | _ => trivial

/-- The stream of generation 1 closes with exit code 0; the client closes it. -/
def firstStream : List Event :=
  [.openStream 1 0, .waitReady 1 none, .install 1, .sendReady 1 true, .receive 1 (.closed 0) true,
    .send 1 true, .stopAttachmentStream, .closeDuplex]

/-- The stream of generation 3 after it. -/
def secondStream : List Event :=
  [.openStream 3 1, .waitReady 3 none, .install 3, .sendReady 3 true, .receive 3 (.payload [65]) true,
    .send 3 true]

theorem firstStream_stages (generation : Nat) (stage : Stage)
    (found : (afterEvents (.startAttachmentStream :: firstStream)).stages generation = some stage) :
    stage.forwards = false := by
  by_cases same : generation = 1
  · subst same
    cases found
    rfl
  · have untouched : (afterEvents (.startAttachmentStream :: firstStream)).stages generation = none :=
      (update_of_ne same ..).trans ((update_of_ne same ..).trans
        ((update_of_ne same ..).trans ((update_of_ne same ..).trans
          ((update_of_ne same ..).trans ((update_of_ne same ..).trans
            (update_of_ne same ..))))))
    cases untouched.symm.trans found

theorem firstStream_careful :
    Reachable Careful true (afterEvents (.startAttachmentStream :: firstStream)) := by
  rw [afterEvents, List.foldl_cons]
  refine reachable_careful (.single ⟨.startAttachmentStream, ?_, rfl⟩) firstStream (by decide)
  exact ⟨rfl, nofun⟩

theorem stream_generations_do_not_mix_sample :
    Unmixed (secondStream.foldl perform
      ((afterEvents (.startAttachmentStream :: firstStream)).perform .startAttachmentStream)).sent := by
  refine (stream_generations_do_not_mix (reachable_careful (firstStream_careful.tail
    ⟨.startAttachmentStream, ?_, rfl⟩) secondStream (by decide))).1
  exact ⟨by decide, firstStream_stages⟩

theorem reachable_afterEvents (events : List Event) :
    Reachable (fun _ _ => True) true (afterEvents events) := by
  induction events using List.reverseRecOn with
  | nil => exact .refl
  | append_singleton events event ih =>
    refine ih.tail ⟨event, trivial, ?_⟩
    unfold afterEvents
    rw [List.foldl_append]
    rfl

/-- A close frame and a bootstrap follow each other before the goroutine of generation 1 receives. -/
def mixedStream : List Event :=
  [.startAttachmentStream, .openStream 1 0, .waitReady 1 none, .install 1, .sendReady 1 true,
    .stopAttachmentStream, .closeDuplex, .startAttachmentStream, .openStream 3 1, .waitReady 3 none,
    .install 3, .sendReady 3 true, .receive 1 .failed true]

/-- The stream of generation 1 ends on its own and the client bootstraps again. -/
def endedStream : List Event :=
  [.startAttachmentStream, .openStream 1 0, .waitReady 1 none, .install 1, .sendReady 1 true,
    .receive 1 (.closed 0) true, .send 1 true, .startAttachmentStream, .openStream 2 0,
    .waitReady 2 none]

/-- Two goroutines forward at once, and the closed frame of generation 1 follows the `StreamReady` of
generation 3. After a stream has ended on its own, the next bootstrap is ready and the newest, and
ends without `StreamReady`. -/
theorem stream_generations_mix :
    (Reachable (fun _ _ => True) true (afterEvents mixedStream) ∧
      (afterEvents mixedStream).stages 1 = some (.sending 0 [.closed (-1)] false) ∧
      (afterEvents mixedStream).stages 3 = some (.receiving 1) ∧
      ((afterEvents mixedStream).perform (.send 1 true)).sent =
        [⟨1, some 0, .stream (.closed (-1))⟩, ⟨3, some 1, .streamReady⟩,
          ⟨1, some 0, .streamReady⟩]) ∧
    (Reachable (fun _ _ => True) true (afterEvents endedStream) ∧
      (afterEvents endedStream).generation = 2 ∧
      (afterEvents endedStream).stages 2 = some (.ready 0) ∧
      ((afterEvents endedStream).perform (.install 2)).stages 2 = some .ended) :=
  ⟨⟨reachable_afterEvents _, by decide, by decide, by decide⟩,
    ⟨reachable_afterEvents _, by decide, by decide, by decide⟩⟩

end Anytty.Server
