import Anytty.Provider.Epochs

/-!
# Attach, resize and detach requests of provider sessions

A session keeps its own attachment objects, found by token. `register` gave the
registry a copy of such an object, and a promotion changes the registry's copy
only: after it the session's object still has its old policy. `dispatchResize`
hands the session's object to `update`, so a request that leaves the policy
unspecified can cost a promoted attachment its ownership.
-/

namespace Anytty.Provider

open AttachmentRegistry

/-! ## Requests -/

/-- `providerv1.AttachmentMode` on the wire, where any number may arrive. -/
inductive WireAttachmentMode
  | unspecified
  | collaborator
  | observer
  | unrecognized (n : Nat)
deriving DecidableEq, Repr

/-- `providerv1.ResizePolicy` on the wire. -/
inductive WireResizePolicy
  | unspecified
  | owner
  | follower
  | observer
  | unrecognized (n : Nat)
deriving DecidableEq, Repr

def normalizeAttachmentMode : WireAttachmentMode → AttachmentMode
  | .observer => .observer
  | _ => .collaborator

def normalizeResizePolicy : WireResizePolicy → ResizePolicy
  | .follower => .follower
  | .observer => .observer
  | _ => .owner

inductive ErrorCode
  | badRequest
  | notFound
  | forbidden
  | exhausted
  | internal
deriving DecidableEq, Repr

structure ProviderError where
  code : ErrorCode
  message : String
deriving DecidableEq, Repr

structure TerminalInfo where
  size : Size
  /-- `terminalmeta.SizeLocked` of the terminal's tags. -/
  sizeLocked : Bool
deriving DecidableEq, Repr

/-- What one request sees of the terminal core: the terminal at its start, the
outcome of a resize, and the terminal at its end. -/
structure Core where
  getTerminal : TerminalID → Except ProviderError TerminalInfo
  resizeTerminal : TerminalID → Size → Except ProviderError Unit
  getTerminalAfter : TerminalID → Except ProviderError TerminalInfo

structure TerminalAttachCommand where
  terminalID : TerminalID
  mode : WireAttachmentMode
  resizePolicy : WireResizePolicy
  surfaceID : String
  viewID : String

structure TerminalResizeCommand where
  opaqueToken : List UInt8
  size : Size
  resizePolicy : WireResizePolicy
  takeOwnership : Bool
  expectedOwnerEpoch : Nat

structure TerminalResizeResult where
  size : Size
  resized : Bool
  resizeControl : ResizeControl
deriving DecidableEq, Repr

structure AttachmentHandle where
  opaqueToken : List UInt8
  terminalID : TerminalID
  mode : AttachmentMode
  resizePolicy : ResizePolicy
  surfaceID : String
  viewID : String
  size : Size
  epoch : Nat
deriving DecidableEq, Repr

/-! ## Sessions -/

structure Session where
  attachments : AList fun _ : Nat => Ptr
  tokens : AList fun _ : List UInt8 => Ptr
  nextChannel : Nat

/-- The registry of the server and its sessions. -/
structure Server where
  registry : AttachmentRegistry
  sessions : Nat → Option Session
  nextSessionID : Nat

namespace Server

def init : Server := { registry := newAttachmentRegistry, sessions := fun _ => none,
                       nextSessionID := 0 }

def setSession (s : Server) (id : Nat) (session : Session) : Server :=
  { s with sessions := Function.update s.sessions id (some session) }

def newSession (s : Server) : Server :=
  { s with nextSessionID := s.nextSessionID + 1 }.setSession (s.nextSessionID + 1)
    { attachments := ∅, tokens := ∅, nextChannel := 6 }

def attachmentForToken (session : Session) (token : List UInt8) : Except ProviderError Ptr :=
  if token.length = 0 then .error ⟨.notFound, "provider: attachment token is required"⟩
  else match session.tokens.lookup token with
    | none => .error ⟨.notFound, "provider: attachment is not bound"⟩
    | some p => .ok p

/-- A channel number is used once in the life of a session. -/
def allocateChannelLocked (session : Session) : Except ProviderError (Nat × Session) :=
  if session.nextChannel ≥ 2 ^ 16 - 1 then
    .error ⟨.exhausted, "provider: stream channels are exhausted"⟩
  else .ok (session.nextChannel + 1, { session with nextChannel := session.nextChannel + 1 })

/-- 32 random bytes, the first two overwritten by the channel. -/
def newAttachmentToken (channel : Nat) (random : List UInt8) : List UInt8 :=
  UInt8.ofNat (channel / 256) :: UInt8.ofNat channel :: random.drop 2

def attachmentHandle (a : ProviderAttachment) (size : Size) (mode : AttachmentMode)
    (policy : ResizePolicy) : AttachmentHandle :=
  { opaqueToken := a.token, terminalID := a.terminalID, mode := mode, resizePolicy := policy,
    surfaceID := a.surfaceID, viewID := a.viewID, size := size, epoch := a.epoch }

section

variable (s : Server)

section

variable (id : Nat) (session : Session)

/-- The attachment and registration part of `dispatchAttach`, after the command
has been checked. -/
def attach (channel : Nat) (info : TerminalInfo)
    (cmd : TerminalAttachCommand) (random : List UInt8) :
    Server × AttachmentHandle × ResizeControl :=
  let mode := normalizeAttachmentMode cmd.mode
  let policy := normalizeResizePolicy cmd.resizePolicy
  let token := newAttachmentToken channel random
  let p := s.registry.nextPtr
  let registry := s.registry.alloc
    { sessionID := id, terminalID := cmd.terminalID, channel := channel, mode := mode,
      resizePolicy := policy, surfaceID := cmd.surfaceID, viewID := cmd.viewID, epoch := 0,
      token := token }
  let s := s.setSession id { session with attachments := session.attachments.insert channel p,
                                          tokens := session.tokens.insert token p }
  let registered := registry.register p info.size info.sizeLocked
  let resizeControl := registered.2
  -- the session's own object learns the epoch of the terminal's owner
  let registry := match resizeControl.resizeOwnership with
    | some ownership =>
      registered.1.store p ((registered.1.objects p).withEpoch ownership.epoch)
    | none => registered.1
  let policy :=
    if resizeControl.reason = .owner ∨ resizeControl.reason = .sizeLocked then .owner else policy
  ({ s with registry := registry },
    attachmentHandle (registry.objects p) info.size mode policy, resizeControl)

def dispatchAttach (core : Core)
    (cmd : TerminalAttachCommand) (random : List UInt8) :
    Server × Except ProviderError (AttachmentHandle × ResizeControl) :=
  if cmd.terminalID = "" then
    (s, .error ⟨.badRequest, "provider: attach terminal id is required"⟩)
  else if normalizeAttachmentMode cmd.mode = .observer ∧
      normalizeResizePolicy cmd.resizePolicy ≠ .observer then
    (s, .error ⟨.badRequest, "provider: observer attachment cannot request resize ownership"⟩)
  else match core.getTerminal cmd.terminalID with
    | .error e => (s, .error e)
    | .ok info =>
      match allocateChannelLocked session with
      | .error e => (s, .error e)
      | .ok (channel, session) =>
        let attached := s.attach id session channel info cmd random
        (attached.1, .ok attached.2)

/-- End of `dispatchResize`: the core is resized if `update` allowed it, and the
response carries the control for the size the terminal then has. -/
def finishResize (core : Core) (cmd : TerminalResizeCommand) (p : Ptr)
    (updated : AttachmentRegistry × ResizeControl) :
    Server × Except ProviderError TerminalResizeResult :=
  let t := (updated.1.objects p).terminalID
  let s := { s with registry := updated.1 }
  let result := fun resized : Bool =>
    match core.getTerminalAfter t with
    | .ok current =>
      { size := cmd.size, resized := resized,
        resizeControl := updated.1.control p current.size : TerminalResizeResult }
    | .error _ => { size := cmd.size, resized := resized, resizeControl := updated.2 }
  if updated.2.canResize then
    match core.resizeTerminal t cmd.size with
    | .error e => (s, .error e)
    | .ok _ => (s, .ok (result true))
  else (s, .ok (result false))

/-- `dispatchResize` from the point where the attachment is found. -/
def resizeAttachment (core : Core) (cmd : TerminalResizeCommand) (p : Ptr) :
    Server × Except ProviderError TerminalResizeResult :=
  let policy := normalizeResizePolicy cmd.resizePolicy
  if (s.registry.objects p).mode = .observer ∧ (cmd.takeOwnership = true ∨ policy ≠ .observer) then
    (s, .error ⟨.forbidden, "provider: observer attachment cannot request resize ownership"⟩)
  else
    let registry :=
      if cmd.resizePolicy ≠ .unspecified then s.registry.setPolicy p policy else s.registry
    match core.getTerminal (registry.objects p).terminalID with
    | .error e => ({ s with registry := registry }, .error e)
    | .ok info => s.finishResize core cmd p
        (registry.update p info.size cmd.takeOwnership cmd.expectedOwnerEpoch)

def dispatchResize (session : Session) (core : Core)
    (cmd : TerminalResizeCommand) : Server × Except ProviderError TerminalResizeResult :=
  match attachmentForToken session cmd.opaqueToken with
  | .error e => (s, .error e)
  | .ok p => s.resizeAttachment core cmd p

/-- The `TerminalResizeLock` request. -/
def dispatchResizeLock (session : Session) (core : Core) (token : List UInt8)
    (locked : Bool) : Server × Except ProviderError TerminalResizeResult :=
  match attachmentForToken session token with
  | .error e => (s, .error e)
  | .ok p =>
    match core.getTerminal (s.registry.objects p).terminalID with
    | .error e => (s, .error e)
    | .ok info =>
      let changed := s.registry.setSizeLock p info.size locked
      ({ s with registry := changed.1 }, match changed.2 with
        | .error message => .error ⟨.internal, message⟩
        | .ok resizeControl =>
          .ok { size := info.size, resized := false, resizeControl := resizeControl })

/-- `detachAttachment`: the session forgets the attachment, then the registry. -/
def detachAttachment (p : Ptr) : Server :=
  let a := s.registry.objects p
  let s := s.setSession id { session with attachments := session.attachments.erase a.channel,
                                          tokens := session.tokens.erase a.token }
  { s with registry := s.registry.unregister p }

def dispatchDetach (token : List UInt8) : Server × Except ProviderError Unit :=
  match attachmentForToken session token with
  | .error e => (s, .error e)
  | .ok p => (s.detachAttachment id session p, .ok ())

end

/-- The end of a session: its attachments leave the registry in the order `ps`
in which the map is iterated. -/
def releaseAttachments (id : Nat) (ps : List Ptr) : Server :=
  { s with registry := ps.foldl unregister s.registry, sessions := Function.update s.sessions id none }

end

end Server

/-- One request of some session, or a session starting or ending. -/
inductive ServerStep (s : Server) : Server → Prop
  | newSession : ServerStep s s.newSession
  | attach (id : Nat) {session : Session} (core : Core) (cmd : TerminalAttachCommand)
      (random : List UInt8) : s.sessions id = some session → random.length = 32 →
      ServerStep s (s.dispatchAttach id session core cmd random).1
  | resize (id : Nat) {session : Session} (core : Core) (cmd : TerminalResizeCommand) :
      s.sessions id = some session → ServerStep s (s.dispatchResize session core cmd).1
  | resizeLock (id : Nat) {session : Session} (core : Core) (token : List UInt8)
      (locked : Bool) : s.sessions id = some session →
      ServerStep s (s.dispatchResizeLock session core token locked).1
  | detach (id : Nat) {session : Session} (token : List UInt8) :
      s.sessions id = some session → ServerStep s (s.dispatchDetach id session token).1
  | release (id : Nat) {session : Session} (ps : List Ptr) : s.sessions id = some session →
      ps.Perm (session.attachments.entries.map (·.2)) → ServerStep s (s.releaseAttachments id ps)

abbrev ServerReachable : Server → Prop := Relation.ReflTransGen ServerStep Server.init

/-! ## Take-over by resize -/

/-- A resize request by attachment `p` that should leave it the owner of its
terminal: a collaborator's take-over with policy unspecified or owner that
expects no epoch or the current one, or a request of the owner that says
nothing about policy and ownership. -/
def ShouldOwn (r : AttachmentRegistry) (cmd : TerminalResizeCommand) (p : Ptr) : Prop :=
  let a := r.objects p
  (a.mode = .collaborator ∧ cmd.takeOwnership = true ∧
    (cmd.resizePolicy = .unspecified ∨ cmd.resizePolicy = .owner) ∧
    (cmd.expectedOwnerEpoch = 0 ∨ cmd.expectedOwnerEpoch = r.epochs a.terminalID)) ∨
  (r.owners a.terminalID = some (attachmentKey a) ∧ cmd.resizePolicy = .unspecified ∧
    cmd.takeOwnership = false)

/-- When such a request does leave it the owner. If the core does not know the
terminal the request fails and the owner stays; otherwise a collaborator that is
owner and leaves the policy unspecified stays owner only if its session's own
object has policy `owner`. -/
def StaysOwner (r : AttachmentRegistry) (core : Core) (cmd : TerminalResizeCommand) (p : Ptr) :
    Prop :=
  let a := r.objects p
  match core.getTerminal a.terminalID with
  | .error _ => r.owners a.terminalID = some (attachmentKey a)
  | .ok _ => a.mode = .collaborator → cmd.resizePolicy = .unspecified →
      r.owners a.terminalID = some (attachmentKey a) → a.resizePolicy = .owner

section Resize

variable {s : Server} {session : Session} {core : Core} {cmd : TerminalResizeCommand}
  {r : AttachmentRegistry} {p : Ptr}

/-- Who owns the terminal after `update`: an owner stays if its policy is `owner`,
anyone else becomes owner by taking over. -/
theorem update_owner_iff (r : AttachmentRegistry) (p : Ptr) (size : Size) (takeOwner : Bool)
    (expected : Nat) :
    (r.update p size takeOwner expected).1.owners (r.objects p).terminalID =
      some (attachmentKey (r.objects p)) ↔
    if r.owners (r.objects p).terminalID = some (attachmentKey (r.objects p)) then
      (r.objects p).resizePolicy = .owner
    else (r.syncStored p).canTakeOwner (r.objects p).terminalID takeOwner expected = true := by
  obtain ⟨hk, ht, hpol, _⟩ := syncStored_caller r p
  obtain ⟨ho, _, _, _⟩ := syncStored_frame r p
  simp only [update, settleOwner, hk, ht, hpol, ho,
    setByKey_owners]
  by_cases hown : r.owners (r.objects p).terminalID = some (attachmentKey (r.objects p))
  · simp only [hown, ne_eq, not_true_eq_false, and_false, if_false, true_and, if_true]
    split
    · next hne =>
      have hout := (releaseOwnership_frame (r.syncStored p) (r.objects p).terminalID
        (attachmentKey (r.objects p))).2.2.2
      exact ⟨fun hc => absurd hc hout, fun hc => absurd hc hne⟩
    · next heq => simpa [ho, hown] using heq
  · split
    · next hcan => simp [takeOwnership, hk, ht, hcan]
    · next hcan => simpa [ho, hown] using hcan

theorem canTakeOwner_current {t : TerminalID} {expected : Nat}
    (h : expected = 0 ∨ expected = r.epochs t) : (r.syncStored p).canTakeOwner t true expected := by
  obtain ⟨_, he, _, _⟩ := syncStored_frame r p
  unfold canTakeOwner ownerEpoch
  rcases h with rfl | rfl
  · simp
  by_cases h0 : r.epochs t = 0
  · simp [h0]
  · simp [he, h0]

section

variable (s : Server) (core : Core) (cmd : TerminalResizeCommand) (p : Ptr)

theorem finishResize_registry
    (updated : AttachmentRegistry × ResizeControl) :
    (s.finishResize core cmd p updated).1.registry = updated.1 := by
  simp only [Server.finishResize]
  split
  · split <;> rfl
  · rfl

/-- The registry after a request that is not refused. -/
theorem resizeAttachment_registry (hmode : (s.registry.objects p).mode = .collaborator) :
    (s.resizeAttachment core cmd p).1.registry =
      let registry := if cmd.resizePolicy ≠ .unspecified then
        s.registry.setPolicy p (normalizeResizePolicy cmd.resizePolicy) else s.registry
      match core.getTerminal (registry.objects p).terminalID with
      | .error _ => registry
      | .ok info => (registry.update p info.size cmd.takeOwnership cmd.expectedOwnerEpoch).1 := by
  simp only [Server.resizeAttachment, hmode, reduceCtorEq, false_and, if_false]
  split
  · rfl
  · exact finishResize_registry s core cmd p _

end

/-- A resize request that should leave its attachment the owner does so exactly
when `StaysOwner` holds. -/
theorem resize_stays_owner_iff (s : Server) (session : Session) (core : Core)
    (hp : Server.attachmentForToken session cmd.opaqueToken = .ok p)
    (h : ShouldOwn s.registry cmd p) :
    (s.dispatchResize session core cmd).1.registry.owners (s.registry.objects p).terminalID =
      some (attachmentKey (s.registry.objects p)) ↔ StaysOwner s.registry core cmd p := by
  simp only [Server.dispatchResize, hp]
  cases hmode : (s.registry.objects p).mode with
  | observer =>
    -- the request is refused; only the owner's own request is meant to keep the owner
    obtain ⟨hown, hpol, _⟩ : s.registry.owners (s.registry.objects p).terminalID =
        some (attachmentKey (s.registry.objects p)) ∧ cmd.resizePolicy = .unspecified ∧
        cmd.takeOwnership = false := by simpa [ShouldOwn, hmode] using h
    have hrefused : (s.resizeAttachment core cmd p).1 = s := by
      simp [Server.resizeAttachment, hmode, hpol, normalizeResizePolicy]
    rw [hrefused]
    simp only [StaysOwner, hmode, reduceCtorEq, false_implies, hown, true_iff]
    split <;> trivial
  | collaborator =>
    rw [resizeAttachment_registry s core cmd p hmode]
    by_cases hpol : cmd.resizePolicy = .unspecified
    · simp only [hpol, ne_eq, not_true_eq_false, if_false, StaysOwner, hmode, true_implies]
      cases hget : core.getTerminal (s.registry.objects p).terminalID with
      | error e => rfl
      | ok info =>
        simp only
        rw [update_owner_iff]
        by_cases hown : s.registry.owners (s.registry.objects p).terminalID =
            some (attachmentKey (s.registry.objects p))
        · simp [hown]
        · -- not the owner yet, so this is a take-over
          obtain ⟨_, htake, _, hepoch⟩ : _ ∧ cmd.takeOwnership = true ∧ _ ∧ _ :=
            h.resolve_right fun hc => hown hc.1
          simp [hown, htake, canTakeOwner_current hepoch]
    · -- an explicit policy is `owner`, stored in the session's object before the update
      obtain ⟨_, htake, hpolicy, hepoch⟩ : _ ∧ cmd.takeOwnership = true ∧ _ ∧ _ :=
        h.resolve_right fun hc => hpol hc.2.1
      have hnorm : normalizeResizePolicy cmd.resizePolicy = .owner := by
        rw [hpolicy.resolve_left hpol]; rfl
      have hobj : (s.registry.setPolicy p .owner).objects p =
          (s.registry.objects p).withPolicy .owner := by simp [setPolicy]
      simp only [hpol, ne_eq, not_false_eq_true, if_true, hnorm, hobj, withPolicy_terminalID,
        StaysOwner, false_implies, implies_true]
      cases hget : core.getTerminal (s.registry.objects p).terminalID with
      | error e => rfl
      | ok info =>
        have hiff := update_owner_iff (s.registry.setPolicy p .owner) p info.size cmd.takeOwnership
          cmd.expectedOwnerEpoch
        simp only [hobj, withPolicy_terminalID, withPolicy_key] at hiff
        simp only [hiff, iff_true]
        split
        · rfl
        · rw [htake]
          exact canTakeOwner_current (r := s.registry.setPolicy p .owner) hepoch

end Resize

/-! ## A promoted attachment loses its ownership -/

/-- A core that knows every terminal. -/
def exampleCore : Core where
  getTerminal := fun _ => .ok ⟨⟨80, 24⟩, false⟩
  resizeTerminal := fun _ _ => .ok ()
  getTerminalAfter := fun _ => .ok ⟨⟨80, 24⟩, false⟩

def exampleAttach (policy : WireResizePolicy) : TerminalAttachCommand :=
  { terminalID := "t", mode := .collaborator, resizePolicy := policy, surfaceID := "",
    viewID := "" }

def exampleRandom : List UInt8 := List.replicate 32 0

/-- The token of the first attachment of a session. -/
def exampleToken : List UInt8 := Server.newAttachmentToken 7 exampleRandom

/-- A take-over that leaves the policy open. -/
def exampleResize : TerminalResizeCommand :=
  { opaqueToken := exampleToken, size := ⟨100, 30⟩, resizePolicy := .unspecified,
    takeOwnership := true, expectedOwnerEpoch := 0 }

def Server.session (s : Server) (id : Nat) : Session := (s.sessions id).getD ⟨∅, ∅, 6⟩

/-- Session 1 attached to `"t"` as owner, session 2 as follower. -/
def attachedServer : Server :=
  let s := Server.init.newSession.newSession
  let s := (s.dispatchAttach 1 (s.session 1) exampleCore (exampleAttach .owner) exampleRandom).1
  (s.dispatchAttach 2 (s.session 2) exampleCore (exampleAttach .follower) exampleRandom).1

/-- Session 1 detached: the registry's copy of session 2's attachment is
promoted. -/
def promotedServer : Server :=
  (attachedServer.dispatchDetach 1 (attachedServer.session 1) exampleToken).1

theorem promotedServer_reachable : ServerReachable promotedServer := by
  refine .tail (.tail (.tail (.tail (.tail .refl .newSession) .newSession)
    (.attach 1 exampleCore (exampleAttach .owner) exampleRandom ?_ ?_))
    (.attach 2 exampleCore (exampleAttach .follower) exampleRandom ?_ ?_))
    (.detach 1 exampleToken ?_)
  all_goals rfl

/-- The owner of `"t"` in `attachedServer` takes over once more and stays. -/
theorem resize_stays_owner_example :
    ShouldOwn attachedServer.registry exampleResize 0 ∧
    ((attachedServer.dispatchResize (attachedServer.session 1) exampleCore
        exampleResize).1.registry.owners "t" = some ⟨1, 7⟩ ↔
      StaysOwner attachedServer.registry exampleCore exampleResize 0) := by
  have h : ShouldOwn attachedServer.registry exampleResize 0 :=
    .inl ⟨by decide, rfl, .inl rfl, .inl rfl⟩
  exact ⟨h, resize_stays_owner_iff attachedServer (attachedServer.session 1) exampleCore rfl h⟩

/-- Session 2 owns `"t"` after the promotion, and its own take-over, which expects
no epoch and leaves the policy open, ends its ownership. -/
theorem resize_loses_owner :
    ¬ ∀ (s : Server) (id : Nat) (session : Session) (core : Core) (cmd : TerminalResizeCommand)
        (p : Ptr), ServerReachable s → s.sessions id = some session →
      Server.attachmentForToken session cmd.opaqueToken = .ok p → ShouldOwn s.registry cmd p →
      (s.dispatchResize session core cmd).1.registry.owners (s.registry.objects p).terminalID =
        some (attachmentKey (s.registry.objects p)) := by
  intro h
  have hclaim := h promotedServer 2 (promotedServer.session 2) exampleCore exampleResize 2
    promotedServer_reachable rfl rfl (.inl ⟨by decide, rfl, .inl rfl, .inl rfl⟩)
  exact absurd hclaim (by decide)

end Anytty.Provider
