import Anytty.Provider.Rooted

/-!
# Requests of a provider session side by side

Every request runs in its own goroutine. The session's maps are guarded by one
lock, the registry by another, and a request takes them one after the other: it
finds its attachment by token, and only later calls the registry. This module
cuts the requests at these points. `RequestStep` is one such piece of some
request, so a run is any interleaving.

A detach that falls between the lookup and the registry call of a resize leaves
the attachment in the registry for good (`resize_outlives_detach`): `update`
stores an unknown key again. `quiet_registry_attached` says that nothing else
can go wrong: if `register` and `update` are only called while the attachment is
still in its session, or while a detach of it has yet to call `unregister`, then
the registry of a server at rest holds attachments of its sessions only.
-/

namespace Anytty.Provider

open AttachmentRegistry Function AList Server Data

/-! ## Requests in pieces -/

/-- What a request does next. -/
inductive Piece
  /-- `dispatchAttach` has put its attachment into the session and calls `register`. -/
  | register (info : TerminalInfo)
  /-- `dispatchAttach` writes the epoch of the response into its attachment. -/
  | learn (epoch : Nat)
  /-- `dispatchResize` has found its attachment. -/
  | policy (cmd : TerminalResizeCommand)
  /-- `dispatchResize` calls `update`. -/
  | update (cmd : TerminalResizeCommand) (info : TerminalInfo)
  /-- The resize lock request has found its attachment. -/
  | lock (locked : Bool)
  /-- `detachAttachment` has found its attachment. -/
  | forget
  /-- `detachAttachment` has removed the attachment from the session and calls `unregister`. -/
  | unregister

/-- A request of the session `id`, about the attachment at `p`. -/
structure InFlight where
  id : Nat
  p : Ptr
  next : Piece

/-- The server and its requests in flight, by their number. -/
structure Requests where
  server : Server
  inFlight : Nat → Option InFlight

/-- The part of `dispatchAttach` under `streamMu`. -/
def Server.bind (s : Server) (id : Nat) (session : Session) (channel : Nat)
    (cmd : TerminalAttachCommand) (random : List UInt8) : Server :=
  let token := newAttachmentToken channel random
  let p := s.registry.nextPtr
  let registry := s.registry.alloc
    { sessionID := id, terminalID := cmd.terminalID, channel := channel,
      mode := normalizeAttachmentMode cmd.mode,
      resizePolicy := normalizeResizePolicy cmd.resizePolicy, surfaceID := cmd.surfaceID,
      viewID := cmd.viewID, epoch := 0, token := token }
  { s with registry := registry }.setSession id
    { session with attachments := session.attachments.insert channel p,
                   tokens := session.tokens.insert token p }

/-- The part of `detachAttachment` under `streamMu`. -/
def Server.forget (s : Server) (id : Nat) (session : Session) (p : Ptr) : Server :=
  let a := s.registry.objects p
  s.setSession id { session with attachments := session.attachments.erase a.channel,
                                 tokens := session.tokens.erase a.token }

def Server.withRegistry (s : Server) (registry : AttachmentRegistry) : Server :=
  { s with registry := registry }

namespace Requests

def init : Requests := ⟨Server.init, fun _ => none⟩

/-- Request `i` did a piece of its work. -/
def advance (st : Requests) (i : Nat) (server : Server) (next : Option InFlight) : Requests :=
  ⟨server, update st.inFlight i next⟩

/-- The key belongs to an attachment that is in its session's map. -/
def Attached (st : Requests) (k : AttachmentKey) : Prop :=
  ∃ session p, st.server.sessions k.sessionID = some session ∧
    session.attachments.lookup k.channel = some p ∧
    attachmentKey (st.server.registry.objects p) = k

/-- A detach removed the attachment with this key and has yet to call `unregister`. -/
def Leaving (st : Requests) (k : AttachmentKey) : Prop :=
  ∃ i f, st.inFlight i = some f ∧ f.next = .unregister ∧
    attachmentKey (st.server.registry.objects f.p) = k

/-- A good moment to call `register` or `update` for the attachment at `p`. -/
def Guarded (st : Requests) (p : Ptr) : Prop :=
  st.Attached (attachmentKey (st.server.registry.objects p)) ∨
    st.Leaving (attachmentKey (st.server.registry.objects p))

end Requests

/-- One piece of one request, or a new session. The calls of `register` and
`update` happen in states that meet `ok`. -/
inductive RequestStep (ok : Requests → Ptr → Prop) (st : Requests) : Requests → Prop
  | newSession : RequestStep ok st { st with server := st.server.newSession }
  | bind (i id : Nat) {session bound : Session} {channel : Nat} (core : Core)
      (cmd : TerminalAttachCommand) (random : List UInt8) {info : TerminalInfo} :
      st.inFlight i = none → st.server.sessions id = some session → cmd.terminalID ≠ "" →
      ¬(normalizeAttachmentMode cmd.mode = .observer ∧
        normalizeResizePolicy cmd.resizePolicy ≠ .observer) →
      core.getTerminal cmd.terminalID = .ok info →
      allocateChannelLocked session = .ok (channel, bound) → random.length = 32 →
      RequestStep ok st (st.advance i (st.server.bind id bound channel cmd random)
        (some ⟨id, st.server.registry.nextPtr, .register info⟩))
  | register {i id : Nat} {p : Ptr} {info : TerminalInfo} :
      st.inFlight i = some ⟨id, p, .register info⟩ → ok st p →
      RequestStep ok st (st.advance i
        (st.server.withRegistry (st.server.registry.register p info.size info.sizeLocked).1)
        ((st.server.registry.register p info.size info.sizeLocked).2.resizeOwnership.map
          fun ownership => ⟨id, p, .learn ownership.epoch⟩))
  | learn {i id : Nat} {p : Ptr} {epoch : Nat} : st.inFlight i = some ⟨id, p, .learn epoch⟩ →
      RequestStep ok st (st.advance i (st.server.withRegistry
        (st.server.registry.store p ((st.server.registry.objects p).withEpoch epoch))) none)
  | findResize (i id : Nat) {session : Session} (cmd : TerminalResizeCommand) {p : Ptr} :
      st.inFlight i = none → st.server.sessions id = some session →
      attachmentForToken session cmd.opaqueToken = .ok p →
      RequestStep ok st (st.advance i st.server (some ⟨id, p, .policy cmd⟩))
  | refuse {i id : Nat} {p : Ptr} {cmd : TerminalResizeCommand} :
      st.inFlight i = some ⟨id, p, .policy cmd⟩ →
      (st.server.registry.objects p).mode = .observer ∧
        (cmd.takeOwnership = true ∨ normalizeResizePolicy cmd.resizePolicy ≠ .observer) →
      RequestStep ok st (st.advance i st.server none)
  | policy {i id : Nat} {p : Ptr} {cmd : TerminalResizeCommand} (core : Core) :
      st.inFlight i = some ⟨id, p, .policy cmd⟩ →
      ¬((st.server.registry.objects p).mode = .observer ∧
        (cmd.takeOwnership = true ∨ normalizeResizePolicy cmd.resizePolicy ≠ .observer)) →
      RequestStep ok st (st.advance i
        (st.server.withRegistry (if cmd.resizePolicy ≠ .unspecified then
          st.server.registry.setPolicy p (normalizeResizePolicy cmd.resizePolicy)
          else st.server.registry))
        ((core.getTerminal (st.server.registry.objects p).terminalID).toOption.map
          fun info => ⟨id, p, .update cmd info⟩))
  | update {i id : Nat} {p : Ptr} {cmd : TerminalResizeCommand} {info : TerminalInfo} :
      st.inFlight i = some ⟨id, p, .update cmd info⟩ → ok st p →
      RequestStep ok st (st.advance i (st.server.withRegistry (st.server.registry.update p info.size
        cmd.takeOwnership cmd.expectedOwnerEpoch).1) none)
  | findLock (i id : Nat) {session : Session} (token : List UInt8) (locked : Bool) {p : Ptr} :
      st.inFlight i = none → st.server.sessions id = some session →
      attachmentForToken session token = .ok p →
      RequestStep ok st (st.advance i st.server (some ⟨id, p, .lock locked⟩))
  | lock {i id : Nat} {p : Ptr} {locked : Bool} (core : Core) {info : TerminalInfo} :
      st.inFlight i = some ⟨id, p, .lock locked⟩ →
      core.getTerminal (st.server.registry.objects p).terminalID = .ok info →
      RequestStep ok st (st.advance i
        (st.server.withRegistry (st.server.registry.setSizeLock p info.size locked).1) none)
  | lockFails {i id : Nat} {p : Ptr} {locked : Bool} (core : Core) {e : ProviderError} :
      st.inFlight i = some ⟨id, p, .lock locked⟩ →
      core.getTerminal (st.server.registry.objects p).terminalID = .error e →
      RequestStep ok st (st.advance i st.server none)
  | findDetach (i id : Nat) {session : Session} (token : List UInt8) {p : Ptr} :
      st.inFlight i = none → st.server.sessions id = some session →
      attachmentForToken session token = .ok p →
      RequestStep ok st (st.advance i st.server (some ⟨id, p, .forget⟩))
  | forget {i id : Nat} {p : Ptr} {session : Session} :
      st.inFlight i = some ⟨id, p, .forget⟩ → st.server.sessions id = some session →
      RequestStep ok st (st.advance i (st.server.forget id session p)
        (some ⟨id, p, .unregister⟩))
  | unregister {i id : Nat} {p : Ptr} : st.inFlight i = some ⟨id, p, .unregister⟩ →
      RequestStep ok st (st.advance i
        (st.server.withRegistry (st.server.registry.unregister p)) none)

/-- The runs of a server, cut into pieces. -/
abbrev RequestsReachable (ok : Requests → Ptr → Prop) : Requests → Prop :=
  Relation.ReflTransGen (RequestStep ok) Requests.init

/-! ## What every interleaving keeps -/

/-- The invariant of the interleavings whose `register` and `update` calls are guarded. -/
structure Coherent (st : Requests) : Prop where
  rooted : Rooted st.server.registry
  sessions : ∀ id session, st.server.sessions id = some session → id ≤ st.server.nextSessionID
  numbered : ∀ p, p < st.server.registry.nextPtr →
    (st.server.registry.objects p).sessionID ≤ st.server.nextSessionID
  /-- Channels are handed out in order. -/
  channels : ∀ id session p, st.server.sessions id = some session →
    p < st.server.registry.nextPtr → (st.server.registry.objects p).sessionID = id →
    (st.server.registry.objects p).channel ≤ session.nextChannel
  tokens : ∀ id session token p, st.server.sessions id = some session →
    session.tokens.lookup token = some p → p < st.server.registry.nextPtr ∧
      (st.server.registry.objects p).sessionID = id
  attachments : ∀ id session channel p, st.server.sessions id = some session →
    session.attachments.lookup channel = some p → p < st.server.registry.nextPtr ∧
      attachmentKey (st.server.registry.objects p) = ⟨id, channel⟩
  flights : ∀ i f, st.inFlight i = some f → f.p < st.server.registry.nextPtr ∧
    (st.server.registry.objects f.p).sessionID = f.id
  covered : ∀ k, k ∈ st.server.registry.byKey → st.Attached k ∨ st.Leaving k

section Runs

variable {st : Requests} {ok : Requests → Ptr → Prop} {r : AttachmentRegistry} {i : Nat}
  {f : InFlight} {k : AttachmentKey} {next : Option InFlight}

section

variable (h : Coherent st)
include h

/-- Request `i` moves on. A detach is done with only when its key is out of the registry. -/
theorem Coherent.flight (hlost : ∀ f, st.inFlight i = some f → f.next = .unregister →
      attachmentKey (st.server.registry.objects f.p) ∉ st.server.registry.byKey)
    (hnext : ∀ g, next = some g → g.p < st.server.registry.nextPtr ∧
      (st.server.registry.objects g.p).sessionID = g.id) :
    Coherent (st.advance i st.server next) := by
  refine { h with flights := ?_, covered := ?_ }
  · intro j g hg
    rcases update_eq_some hg with ⟨-, hnew⟩ | ⟨-, hold⟩
    · exact hnext g hnew
    · exact h.flights j g hold
  · intro k hk
    rcases h.covered k hk with hatt | ⟨j, g, hg, hunregister, hkey⟩
    · exact .inl hatt
    have hij : j ≠ i := by
      rintro rfl
      exact hlost g hg hunregister (hkey ▸ hk)
    exact .inr ⟨j, g, (update_of_ne hij ..).trans hg, hunregister, hkey⟩

open AttachmentKey

/-- The registry changes. Its objects keep their keys; a new one has the key of another, or a
channel that its session has handed out. -/
theorem Coherent.registry (hr : Rooted r) (hle : st.server.registry.nextPtr ≤ r.nextPtr)
    (hkeep : ∀ p, p < st.server.registry.nextPtr →
      attachmentKey (r.objects p) = attachmentKey (st.server.registry.objects p))
    (horigin : ∀ q, q < r.nextPtr →
      (∃ p, p < st.server.registry.nextPtr ∧
        attachmentKey (r.objects q) = attachmentKey (st.server.registry.objects p)) ∨
      ∃ session, st.server.sessions (r.objects q).sessionID = some session ∧
        (r.objects q).channel ≤ session.nextChannel)
    (hcov : ∀ k, k ∈ r.byKey → st.Attached k ∨ st.Leaving k) :
    Coherent { st with server := st.server.withRegistry r } := by
  have hlater : ∀ {p}, p < st.server.registry.nextPtr → p < r.nextPtr := fun hp =>
    Nat.lt_of_lt_of_le hp hle
  have hsession : ∀ {p}, p < st.server.registry.nextPtr →
      (r.objects p).sessionID = (st.server.registry.objects p).sessionID := fun hp =>
    congrArg sessionID (hkeep _ hp)
  refine ⟨hr, h.sessions, ?_, ?_, ?_, ?_, ?_, ?_⟩
  · intro q hq
    rcases horigin q hq with ⟨p, hp, hkey⟩ | ⟨session, hs, _⟩
    · exact Nat.le_trans (Nat.le_of_eq (congrArg sessionID hkey)) (h.numbered p hp)
    · exact h.sessions _ session hs
  · intro id session q hs hq hid
    rcases horigin q hq with ⟨p, hp, hkey⟩ | ⟨session', hs', hc⟩
    · refine Nat.le_trans (Nat.le_of_eq (congrArg channel hkey)) ?_
      exact h.channels id session p hs hp ((congrArg sessionID hkey).symm.trans hid)
    · subst hid
      cases hs.symm.trans hs'
      exact hc
  · intro id session token p hs hp
    obtain ⟨hlt, hid⟩ := h.tokens id session token p hs hp
    exact ⟨hlater hlt, (hsession hlt).trans hid⟩
  · intro id session channel p hs hp
    obtain ⟨hlt, hkey⟩ := h.attachments id session channel p hs hp
    exact ⟨hlater hlt, (hkeep p hlt).trans hkey⟩
  · intro j g hg
    obtain ⟨hlt, hid⟩ := h.flights j g hg
    exact ⟨hlater hlt, (hsession hlt).trans hid⟩
  · intro k hk
    rcases hcov k hk with ⟨session, p, hs, hp, hkey⟩ | ⟨j, g, hg, hunregister, hkey⟩
    · exact .inl ⟨session, p, hs, hp, (hkeep p (h.attachments _ session _ p hs hp).1).trans hkey⟩
    · exact .inr ⟨j, g, hg, hunregister, (hkeep g.p (h.flights j g hg).1).trans hkey⟩

theorem Coherent.withRegistry (hr : Rooted r)
    (he : Extends st.server.registry r) (hf : st.inFlight i = some f)
    (hnext : ∀ g, next = some g → g.id = f.id ∧ g.p = f.p)
    (hcov : ∀ k, k ∈ r.byKey → (st.Attached k ∨ st.Leaving k) ∧
      (f.next = .unregister → attachmentKey (st.server.registry.objects f.p) ≠ k)) :
    Coherent (st.advance i (st.server.withRegistry r) next) := by
  have hmoved := h.registry hr he.nextPtr (fun p hp => he.attachmentKey hp) (fun q hq => by
    obtain ⟨p, hp, hident⟩ := he.origin q hq
    exact .inl ⟨p, hp, congrArg Prod.fst hident⟩) fun k hk => (hcov k hk).1
  refine hmoved.flight ?_ ?_
  · intro g hg hunregister hk
    cases hf.symm.trans hg
    exact (hcov _ hk).2 hunregister (he.attachmentKey (h.flights i f hf).1).symm
  · intro g hg
    obtain ⟨hgid, hgp⟩ := hnext g hg
    rw [hgid, hgp]
    exact hmoved.flights i f hf

variable {id channel : Nat} {session bound : Session} {p : Ptr} {a : ProviderAttachment}

theorem Coherent.find (hi : st.inFlight i = none)
    {token : List UInt8} (hs : st.server.sessions id = some session)
    (hp : attachmentForToken session token = .ok p) (piece : Piece) :
    Coherent (st.advance i st.server (some ⟨id, p, piece⟩)) := by
  have hfound : session.tokens.lookup token = some p := by
    unfold attachmentForToken at hp
    split at hp
    · cases hp
    split at hp
    · cases hp
    next q hq =>
    cases hp
    exact hq
  refine h.flight (fun f hf => absurd (hi.symm.trans hf) nofun) ?_
  rintro _ ⟨⟩
  exact h.tokens id session token p hs hfound

/-- A session changes. It loses an attachment only to a detach. -/
theorem Coherent.setSession (hid : id ≤ st.server.nextSessionID)
    (hchannels : ∀ p, p < st.server.registry.nextPtr →
      (st.server.registry.objects p).sessionID = id →
      (st.server.registry.objects p).channel ≤ session.nextChannel)
    (htokens : ∀ token p, session.tokens.lookup token = some p →
      p < st.server.registry.nextPtr ∧ (st.server.registry.objects p).sessionID = id)
    (hattachments : ∀ channel p, session.attachments.lookup channel = some p →
      p < st.server.registry.nextPtr ∧
        attachmentKey (st.server.registry.objects p) = ⟨id, channel⟩)
    (hcov : ∀ before channel p, st.server.sessions id = some before →
      before.attachments.lookup channel = some p →
      session.attachments.lookup channel = some p ∨ st.Leaving ⟨id, channel⟩) :
    Coherent { st with server := st.server.setSession id session } := by
  refine ⟨h.rooted, ?_, h.numbered, ?_, ?_, ?_, h.flights, ?_⟩
  · exact forall_update_some hid fun id' _ => h.sessions id'
  · exact fun id' session' p => forall_update_some (hchannels p)
      (fun id' _ session' => h.channels id' session' p) id' session'
  · exact fun id' session' token p => forall_update_some (htokens token p)
      (fun id' _ session' => h.tokens id' session' token p) id' session'
  · exact fun id' session' channel p => forall_update_some (hattachments channel p)
      (fun id' _ session' => h.attachments id' session' channel p) id' session'
  · intro k hk
    rcases h.covered k hk with ⟨before, p, hb, hp, hkey⟩ | hleave
    · by_cases he : k.sessionID = id
      · subst he
        refine (hcov before _ p hb hp).imp_left fun hstays => ?_
        exact ⟨session, p, update_self .., hstays, hkey⟩
      · exact .inl ⟨before, p, (update_of_ne he ..).trans hb, hp, hkey⟩
    · exact .inr hleave

theorem Coherent.forget
    (hf : st.inFlight i = some ⟨id, p, .forget⟩) (hs : st.server.sessions id = some session) :
    Coherent (st.advance i (st.server.forget id session p) (some ⟨id, p, .unregister⟩)) := by
  obtain ⟨hlt, hid⟩ := h.flights i _ hf
  have hmoved : Coherent (st.advance i st.server (some ⟨id, p, .unregister⟩)) := by
    refine h.flight (fun f hf' hunregister => ?_) ?_
    · cases hf.symm.trans hf'
      cases hunregister
    · rintro _ ⟨⟩
      exact ⟨hlt, hid⟩
  refine hmoved.setSession (h.sessions id session hs) (fun q => h.channels id session q hs)
    (fun token q hq => h.tokens id session token q hs (lookup_of_erase hq))
    (fun channel q hq => h.attachments id session channel q hs (lookup_of_erase hq)) ?_
  intro before channel q hb hq
  cases hs.symm.trans hb
  by_cases hc : channel = (st.server.registry.objects p).channel
  · subst hc
    exact .inr ⟨i, _, update_self .., rfl, congrArg (AttachmentKey.mk · _) hid⟩
  · exact .inl ((lookup_erase_ne hc).trans hq)

omit h in
theorem allocateChannelLocked_ok (h : allocateChannelLocked session = .ok (channel, bound)) :
    channel = session.nextChannel + 1 ∧ bound = { session with nextChannel := channel } := by
  unfold allocateChannelLocked at h
  split at h
  · cases h
  · cases h
    exact ⟨rfl, rfl⟩

/-- A new object of a session, under a channel that no other has. -/
theorem Coherent.alloc
    (hs : st.server.sessions a.sessionID = some session) (hchannel : a.channel ≤ session.nextChannel)
    (hnew : ∀ q, q < st.server.registry.nextPtr →
      attachmentKey (st.server.registry.objects q) ≠ attachmentKey a) :
    Coherent { st with server := st.server.withRegistry (st.server.registry.alloc a) } := by
  refine h.registry (h.rooted.alloc fun q hq he => absurd he (hnew q hq)) (Nat.le_succ _)
    (fun q hq => congrArg _ (alloc_old a hq)) (fun q hq => ?_) h.covered
  rcases Nat.lt_succ_iff_lt_or_eq.mp hq with hlt | rfl
  · exact .inl ⟨q, hlt, congrArg _ (alloc_old a hlt)⟩
  rw [show (st.server.registry.alloc a).objects st.server.registry.nextPtr = a from
    update_self _ _ _]
  exact .inr ⟨session, hs, hchannel⟩

/-- An object enters the maps of its session, under a channel that is not in use. -/
theorem Coherent.enter
    (hs : st.server.sessions id = some session) (hp : p < st.server.registry.nextPtr)
    (hkey : attachmentKey (st.server.registry.objects p) = ⟨id, channel⟩)
    (hunused : session.attachments.lookup channel = none) (token : List UInt8) :
    Coherent { st with
      server := st.server.setSession id
        { session with attachments := session.attachments.insert channel p,
                       tokens := session.tokens.insert token p } } := by
  refine h.setSession (h.sessions id session hs) (fun q => h.channels id session q hs)
    (fun other q hq => ?_) (fun c q hq => ?_) fun before c q hb hq => ?_
  · by_cases ht : other = token
    · subst ht
      cases (lookup_insert _).symm.trans hq
      exact ⟨hp, congrArg sessionID hkey⟩
    · exact h.tokens id session other q hs ((lookup_insert_ne ht).symm.trans hq)
  · by_cases hc : c = channel
    · subst hc
      cases (lookup_insert _).symm.trans hq
      exact ⟨hp, hkey⟩
    · exact h.attachments id session c q hs ((lookup_insert_ne hc).symm.trans hq)
  · cases hs.symm.trans hb
    have hc : c ≠ channel := by
      rintro rfl
      cases hunused.symm.trans hq
    exact .inl ((lookup_insert_ne hc).trans hq)

theorem Coherent.made (session : Session)
    (hs : st.server.sessions a.sessionID = some session) (hnew : session.nextChannel < a.channel) :
    Coherent { st with
      server := (st.server.withRegistry (st.server.registry.alloc a)).setSession a.sessionID
        { attachments := session.attachments.insert a.channel st.server.registry.nextPtr
          tokens := session.tokens.insert a.token st.server.registry.nextPtr
          nextChannel := a.channel } } := by
  have hfresh : ∀ q, q < st.server.registry.nextPtr →
      attachmentKey (st.server.registry.objects q) ≠ attachmentKey a := by
    intro q hq he
    have hc : (st.server.registry.objects q).channel = a.channel :=
      congrArg channel he
    have := h.channels _ session q hs hq (congrArg sessionID he)
    omega
  have hunused : session.attachments.lookup a.channel = none := by
    cases hused : session.attachments.lookup a.channel with
    | none => rfl
    | some q =>
      obtain ⟨hq, hkey⟩ := h.attachments _ session _ q hs hused
      exact absurd hkey (hfresh q hq)
  -- the session hands out the channel, the object is made and enters the session's maps
  have hhanded : Coherent { st with
      server := st.server.setSession a.sessionID { session with nextChannel := a.channel } } := by
    refine h.setSession (h.sessions _ session hs) (fun p hp hid => ?_)
      (fun token p => h.tokens _ session token p hs)
      (fun c p => h.attachments _ session c p hs) fun before c p hb hp => ?_
    · exact Nat.le_of_lt (Nat.lt_of_le_of_lt (h.channels _ session p hs hp hid) hnew)
    · cases hs.symm.trans hb
      exact .inl hp
  have hmade := hhanded.alloc (update_self ..) le_rfl hfresh
  have hentered := hmade.enter (update_self ..) (Nat.lt_succ_self _)
    (congrArg attachmentKey (update_self ..)) hunused a.token
  simpa only [Server.setSession, Server.withRegistry, update_idem] using hentered

theorem Coherent.bind (cmd : TerminalAttachCommand) (random : List UInt8) (info : TerminalInfo)
    (hi : st.inFlight i = none) (hs : st.server.sessions id = some session)
    (hchannel : allocateChannelLocked session = .ok (channel, bound)) :
    Coherent (st.advance i (st.server.bind id bound channel cmd random)
      (some ⟨id, st.server.registry.nextPtr, .register info⟩)) := by
  obtain ⟨hnew, rfl⟩ := allocateChannelLocked_ok hchannel
  have hmade : Coherent { st with
      server := st.server.bind id { session with nextChannel := channel } channel cmd random } :=
    h.made session hs (Nat.lt_of_succ_le (Nat.le_of_eq hnew.symm))
  refine hmade.flight (fun f hf => absurd (hi.symm.trans hf) nofun) ?_
  rintro _ ⟨⟩
  exact ⟨Nat.lt_succ_self _, by simp [Server.bind, Server.setSession]⟩

theorem Coherent.newSession : Coherent { st with server := st.server.newSession } := by
  have hcounted : Coherent { st with
      server := { st.server with nextSessionID := st.server.nextSessionID + 1 } } :=
    { h with
      sessions := fun id session hs => Nat.le_succ_of_le (h.sessions id session hs)
      numbered := fun p hp => Nat.le_succ_of_le (h.numbered p hp) }
  refine hcounted.setSession le_rfl (fun p hp hid => ?_) (by simp) (by simp) fun before _ _ hb => ?_
  · exact absurd (hid ▸ h.numbered p hp) (Nat.not_succ_le_self _)
  · exact absurd (h.sessions _ before hb) (Nat.not_succ_le_self _)

theorem Coherent.drop (hf : st.inFlight i = some f)
    (hnext : f.next ≠ .unregister) : Coherent (st.advance i st.server none) :=
  h.withRegistry h.rooted (.refl _) hf nofun fun k hk =>
    ⟨h.covered k hk, fun he => absurd he hnext⟩

/-- Every piece keeps the invariant, as long as `register` and `update` are guarded. -/
theorem Coherent.step {st' : Requests}
    (hstep : RequestStep Requests.Guarded st st') : Coherent st' := by
  cases hstep with
  | newSession => exact h.newSession
  | bind i id core cmd random hi hs _ _ _ hchannel => exact h.bind cmd random _ hi hs hchannel
  | @register i id p info hf hok =>
    obtain ⟨hlt, _⟩ := h.flights i _ hf
    obtain ⟨hr, he, hby⟩ := h.rooted.register hlt info.size info.sizeLocked
    refine h.withRegistry hr he hf ?_ fun k hk => ⟨?_, nofun⟩
    · intro g hg
      obtain ⟨ownership, _, rfl⟩ := Option.map_eq_some_iff.mp hg
      exact ⟨rfl, rfl⟩
    · rw [hby] at hk
      rcases (mem_insert _).mp hk with rfl | hold
      · exact hok
      · exact h.covered k hold
  | @learn i id p epoch hf =>
    exact h.withRegistry (h.rooted.store (withEpoch_ident _ _)) (.store (withEpoch_ident _ _)) hf
      nofun fun k hk => ⟨h.covered k hk, nofun⟩
  | findResize i id cmd hi hs hp | findLock i id token locked hi hs hp => exact h.find hi hs hp _
  | refuse hf | lockFails core hf => exact h.drop hf nofun
  | @policy i id p cmd core hf _ =>
    have hnext : ∀ g, ((core.getTerminal (st.server.registry.objects p).terminalID).toOption.map
        fun info => (⟨id, p, .update cmd info⟩ : InFlight)) = some g → g.id = id ∧ g.p = p := by
      intro g hg
      obtain ⟨info, _, rfl⟩ := Option.map_eq_some_iff.mp hg
      exact ⟨rfl, rfl⟩
    split
    · exact h.withRegistry (h.rooted.store rfl) (.store rfl) hf hnext fun k hk =>
        ⟨h.covered k hk, nofun⟩
    · exact h.withRegistry h.rooted (.refl _) hf hnext fun k hk => ⟨h.covered k hk, nofun⟩
  | @update i id p cmd info hf hok =>
    obtain ⟨hlt, _⟩ := h.flights i _ hf
    obtain ⟨hr, he, hby⟩ := h.rooted.update hlt info.size cmd.takeOwnership cmd.expectedOwnerEpoch
    refine h.withRegistry hr he hf nofun fun k hk => ⟨?_, nofun⟩
    rcases hby k hk with hold | rfl
    · exact h.covered k hold
    · exact hok
  | @lock i id p locked core info hf _ =>
    obtain ⟨hlt, _⟩ := h.flights i _ hf
    obtain ⟨hr, he, hby⟩ := h.rooted.setSizeLock hlt info.size locked
    exact h.withRegistry hr he hf nofun fun k hk => ⟨h.covered k (hby ▸ hk), nofun⟩
  | findDetach i id token hi hs hp => exact h.find hi hs hp _
  | forget hf hs => exact h.forget hf hs
  | @unregister i id p hf =>
    obtain ⟨hlt, _⟩ := h.flights i _ hf
    obtain ⟨hr, he⟩ := h.rooted.unregister hlt
    refine h.withRegistry hr he hf nofun fun k hk => ?_
    rw [unregister_byKey, mem_erase] at hk
    exact ⟨h.covered k hk.2, fun _ => Ne.symm hk.1⟩

end

theorem coherent_init : Coherent Requests.init where
  rooted := ⟨nofun, nofun, fun p _ hp => absurd hp (Nat.not_lt_zero p), nofun⟩
  sessions := nofun
  numbered := fun p hp => absurd hp (Nat.not_lt_zero p)
  channels := nofun
  tokens := nofun
  attachments := nofun
  flights := nofun
  covered := fun k hk => absurd hk (notMem_empty k)

theorem coherent_of_reachable (h : RequestsReachable Requests.Guarded st) : Coherent st := by
  induction h with
  | refl => exact coherent_init
  | tail _ hstep ih => exact ih.step hstep

/-- If every `register` and every `update` finds its attachment in the session, or
before the `unregister` of a detach, then at rest the registry holds attachments
of the sessions only, and so do its owners. -/
theorem quiet_registry_attached (h : RequestsReachable Requests.Guarded st)
    (quiet : ∀ i, st.inFlight i = none) :
    (∀ k, k ∈ st.server.registry.byKey → st.Attached k) ∧
    ∀ t k, st.server.registry.owners t = some k → st.Attached k := by
  have hc := coherent_of_reachable h
  have hkeys : ∀ k, k ∈ st.server.registry.byKey → st.Attached k := by
    intro k hk
    rcases hc.covered k hk with hatt | ⟨i, f, hf, _⟩
    · exact hatt
    · rw [quiet i] at hf
      cases hf
  refine ⟨hkeys, fun t k ht => hkeys k ?_⟩
  obtain ⟨p, hp, _⟩ := hc.rooted.owned t k ht
  exact lookup_isSome.mp (by rw [hp]; rfl)

end Runs

/-! ## A resize that outlives a detach -/

/-- Session 1 exists; its requests follow one after the other. -/
def raceStart : Requests := ⟨Server.init.newSession, fun _ => none⟩

def raceInfo : TerminalInfo := ⟨⟨80, 24⟩, false⟩

/-- Request 0, an attach to `"t"`, is in the session's map. -/
def raceBound : Requests :=
  raceStart.advance 0
    (raceStart.server.bind 1 ⟨∅, ∅, 7⟩ 7 (exampleAttach .owner) exampleRandom)
    (some ⟨1, 0, .register raceInfo⟩)

def raceRegistered : Requests :=
  raceBound.advance 0 (raceBound.server.withRegistry
    (raceBound.server.registry.register 0 raceInfo.size raceInfo.sizeLocked).1)
    (some ⟨1, 0, .learn 1⟩)

/-- The attach is done: channel 7 owns `"t"`. -/
def raceAttached : Requests :=
  raceRegistered.advance 0 (raceRegistered.server.withRegistry
    (raceRegistered.server.registry.store 0
      ((raceRegistered.server.registry.objects 0).withEpoch 1))) none

/-- Request 1, a resize, has found the attachment. -/
def raceResizing : Requests :=
  raceAttached.advance 1 raceAttached.server (some ⟨1, 0, .policy exampleResize⟩)

/-- Request 2, a detach, has found it too. -/
def raceDetaching : Requests :=
  raceResizing.advance 2 raceResizing.server (some ⟨1, 0, .forget⟩)

def raceForgotten : Requests :=
  raceDetaching.advance 2
    (raceDetaching.server.forget 1 (raceDetaching.server.session 1) 0) (some ⟨1, 0, .unregister⟩)

/-- The detach is done. -/
def raceDetached : Requests :=
  raceForgotten.advance 2
    (raceForgotten.server.withRegistry (raceForgotten.server.registry.unregister 0)) none

def raceUpdating : Requests :=
  raceDetached.advance 1 (raceDetached.server.withRegistry raceDetached.server.registry)
    (some ⟨1, 0, .update exampleResize raceInfo⟩)

/-- The resize is done: `update` has stored the attachment again. -/
def raceEnd : Requests :=
  raceUpdating.advance 1 (raceUpdating.server.withRegistry
    (raceUpdating.server.registry.update 0 raceInfo.size true 0).1) none

section Race

variable {ok : Requests → Ptr → Prop}

theorem raceAttached_reachable (hok : ∀ st p, st.Guarded p → ok st p) :
    RequestsReachable ok raceAttached := by
  have hbound : RequestStep ok raceStart raceBound :=
    .bind 0 1 exampleCore (exampleAttach .owner) exampleRandom rfl rfl (by decide) (by decide) rfl
      rfl rfl
  have hregistered : RequestStep ok raceBound raceRegistered :=
    .register rfl (hok _ _ (.inl ⟨_, 0, rfl, rfl, rfl⟩))
  have hattached : RequestStep ok raceRegistered raceAttached := .learn rfl
  exact .tail (.tail (.tail (.tail .refl .newSession) hbound) hregistered) hattached

/-- Attached and at rest. -/
theorem quiet_registry_attached_example :
    (∀ i, raceAttached.inFlight i = none) ∧ raceAttached.Attached ⟨1, 7⟩ := by
  have hquiet : ∀ i, raceAttached.inFlight i = none := by
    intro i
    simp [raceAttached, raceRegistered, raceBound, raceStart, Requests.advance]
  exact ⟨hquiet, (quiet_registry_attached (raceAttached_reachable fun _ _ h => h) hquiet).2 "t" _
    rfl⟩

theorem raceEnd_reachable : RequestsReachable (fun _ _ => True) raceEnd := by
  have hresizing : RequestStep (fun _ _ => True) raceAttached raceResizing :=
    .findResize 1 1 exampleResize rfl rfl rfl
  have hdetaching : RequestStep (fun _ _ => True) raceResizing raceDetaching :=
    .findDetach 2 1 exampleToken rfl rfl rfl
  have hforgotten : RequestStep (fun _ _ => True) raceDetaching raceForgotten := .forget rfl rfl
  have hdetached : RequestStep (fun _ _ => True) raceForgotten raceDetached := .unregister rfl
  have hfound : raceDetached.inFlight 1 = some ⟨1, 0, .policy exampleResize⟩ := rfl
  have hupdating : RequestStep (fun _ _ => True) raceDetached _ :=
    .policy exampleCore hfound (by decide)
  have hchecked : raceUpdating.inFlight 1 = some ⟨1, 0, .update exampleResize raceInfo⟩ := rfl
  have hend : RequestStep (fun _ _ => True) raceUpdating _ := .update hchecked trivial
  exact .tail (.tail (.tail (.tail (.tail (.tail (raceAttached_reachable fun _ _ _ => trivial)
    hresizing) hdetaching) hforgotten) hdetached) hupdating) hend

/-- A detach that falls between the lookup and the `update` of a resize: at rest the
session has no attachment, and the registry still has one that owns `"t"`. -/
theorem resize_outlives_detach :
    ¬ ∀ st, RequestsReachable (fun _ _ => True) st → (∀ i, st.inFlight i = none) →
      (∀ k, k ∈ st.server.registry.byKey → st.Attached k) ∧
      ∀ t k, st.server.registry.owners t = some k → st.Attached k := by
  intro h
  have hquiet : ∀ i, raceEnd.inFlight i = none := by
    intro i
    by_cases hone : i = 1
    · subst hone
      rfl
    by_cases htwo : i = 2
    · subst htwo
      rfl
    simp [raceEnd, raceUpdating, raceDetached, raceForgotten, raceDetaching, raceResizing,
      raceAttached, raceRegistered, raceBound, raceStart, Requests.advance, hone, htwo]
  obtain ⟨session, p, hs, hp, _⟩ := (h raceEnd raceEnd_reachable hquiet).2 "t" ⟨1, 7⟩ rfl
  have hempty : raceEnd.server.sessions 1 = some ⟨∅, ∅, 7⟩ := rfl
  rw [hempty] at hs
  cases hs
  simp at hp

end Race

end Anytty.Provider
