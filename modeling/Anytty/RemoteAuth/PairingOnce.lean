import Anytty.RemoteAuth.Changes

/-!
# A pairing ticket is redeemed once

Whatever the clients, the failures of the state file and the restarts, at most one grant is
ever written for a ticket, and all successful redemptions of the ticket return that grant and
its receipt to the same client key. `Once` is the invariant: the record of a ticket that was
bound stays bound to its grant until it is compacted away, and a ticket id is not drawn again.
-/

namespace Anytty.RemoteAuth

open List AccessStore

open Anytty.Connection (trimSpace)
open Anytty.Data

/-- Ticket and grant ids are drawn afresh. -/
def Fresh (packages : ClaimPackages) (identity : Identity) (world : World) : Event → Prop
  | .issueBundle options clock random _ | .issueClaim _ options clock random _ _ =>
    ∀ id ∈ world.drawnTicketID packages identity options clock random, id ∉ world.ticketIDs
  | .redeemBundle request _ =>
    ∀ id ∈ World.drawnGrantID packages request.random, id ∉ world.grantIDs
  | .redeemClaim _ random _ _ => ∀ id ∈ World.drawnGrantID packages random, id ∉ world.grantIDs
  | _ => True

instance (packages : ClaimPackages) (identity : Identity) (world : World) :
    DecidablePred (Fresh packages identity world)
  | .issueBundle .. | .issueClaim .. => inferInstanceAs (Decidable (∀ id ∈ _, id ∉ world.ticketIDs))
  | .redeemBundle .. | .redeemClaim .. =>
    inferInstanceAs (Decidable (∀ id ∈ World.drawnGrantID packages _, id ∉ world.grantIDs))
  | .reserveClaim .. | .commitClaim .. | .releaseClaim .. | .resolveClaim .. | .bindClaim ..
  | .revoke .. | .receiveChange | .sign .. | .restart .. => inferInstanceAs (Decidable True)

/-! ### The invariant -/

/-- The records of a state agree with the bindings that were written. -/
structure Once (packages : PairingPackages) (identity : Identity) (state : AccessState)
    (ticketIDs grantIDs : List String) (bindings : List PairingExchangeResult) : Prop where
  keyed : ∀ id record, state.tickets.lookup id = some record →
    record.claims.ticketID = id ∧ id ∈ ticketIDs
  bound : ∀ id record, state.tickets.lookup id = some record → record.grantID ≠ "" →
    ∃ binding ∈ bindings, binding.ticketID = id
  binding : ∀ binding ∈ bindings, binding.ticketID ∈ ticketIDs ∧ binding.grantID ∈ grantIDs ∧
    binding.grantID ≠ "" ∧ binding.deliveryReceipt = pairingDeliveryReceipt packages identity
      binding.ticketID binding.subjectKeyFingerprint binding.grantID
  ticket : ∀ binding ∈ bindings, ∀ record, state.tickets.lookup binding.ticketID = some record →
    record.grantID = binding.grantID ∧
      record.subjectKeyFingerprint = binding.subjectKeyFingerprint
  grant : ∀ binding ∈ bindings, ∀ record, state.grants.lookup binding.grantID = some record →
    ∀ entropy, issue packages.toPackages identity.privateKey record.claims entropy =
      .ok binding.grant
  once : (bindings.map (·.ticketID)).Nodup

namespace Once

variable {packages : PairingPackages} {identity : Identity} {store : AccessStore}
  {ticketIDs grantIDs : List String} {bindings : List PairingExchangeResult}

theorem weaken {state : AccessState} (h : Once packages identity state ticketIDs grantIDs bindings)
    (moreTickets moreGrants : List String) :
    Once packages identity state (moreTickets ++ ticketIDs) (moreGrants ++ grantIDs) bindings :=
  { h with
    keyed := fun id record known => ⟨(h.keyed id record known).1,
      mem_append_right _ (h.keyed id record known).2⟩
    binding := fun b mem => ⟨mem_append_right _ (h.binding b mem).1,
      mem_append_right _ (h.binding b mem).2.1, (h.binding b mem).2.2⟩ }

section

variable (h : Once packages identity store.toAccessState ticketIDs grantIDs bindings)
include h

variable {now : Time} {id : String}

theorem addTicket {record : StoredPairingTicket} (fresh : id ∉ ticketIDs)
    (keyed : record.claims.ticketID = id) (unredeemed : record.grantID = "") :
    Once packages identity (store.addTicket now id record).toAccessState (id :: ticketIDs) grantIDs
      bindings where
  keyed := by
    intro other record' known
    rcases addTicket_ticket known with ⟨rfl, rfl⟩ | ⟨-, old⟩
    · exact ⟨keyed, mem_cons_self⟩
    · exact ⟨(h.keyed other record' old).1, mem_cons_of_mem _ (h.keyed other record' old).2⟩
  bound := by
    intro other record' known redeemed
    rcases addTicket_ticket known with ⟨rfl, rfl⟩ | ⟨-, old⟩
    · exact absurd unredeemed redeemed
    · exact h.bound other record' old redeemed
  binding := fun b mem => ⟨mem_cons_of_mem _ (h.binding b mem).1, (h.binding b mem).2⟩
  ticket := by
    intro b mem record' known
    rcases addTicket_ticket known with ⟨same, rfl⟩ | ⟨-, old⟩
    · exact absurd (same ▸ (h.binding b mem).1) fresh
    · exact h.ticket b mem record' old
  grant := fun b mem record' known => h.grant b mem record' (addTicket_grant known)
  once := h.once

theorem bindTicket (base64 : packages.toPackages.Base64)
    {request : RedeemRequest} {ticket : StoredPairingTicket} {grant : StoredAccessGrant}
    {result : PairingExchangeResult}
    (binds : BindsTicket packages identity store request ticket grant result)
    (fresh : result.grantID ∉ grantIDs) :
    Once packages identity (store.bindTicket request.now ticket grant result).toAccessState ticketIDs
      (result.grantID :: grantIDs) (result :: bindings) := by
  obtain ⟨record, known, unredeemed, claims⟩ := binds.unredeemed
  obtain ⟨keyed, drawn⟩ := h.keyed _ record known
  -- The ticket was not bound: its record would name the grant.
  have first : ∀ b ∈ bindings, b.ticketID ≠ result.ticketID := by
    intro b mem same
    obtain ⟨grantID, -⟩ := h.ticket b mem record (same ▸ known)
    exact (h.binding b mem).2.2.1 (grantID ▸ unredeemed)
  refine ⟨?_, ?_, ?_, ?_, ?_, ?_⟩
  · intro id record' known'
    rcases bindTicket_ticket known' with ⟨rfl, rfl⟩ | ⟨-, old⟩
    · rw [claims]
      exact ⟨keyed, drawn⟩
    · exact h.keyed id record' old
  · intro id record' known' redeemed
    rcases bindTicket_ticket known' with ⟨rfl, rfl⟩ | ⟨-, old⟩
    · exact ⟨result, mem_cons_self, rfl⟩
    · obtain ⟨b, mem, same⟩ := h.bound id record' old redeemed
      exact ⟨b, mem_cons_of_mem _ mem, same⟩
  · intro b mem
    rcases mem_cons.mp mem with rfl | old
    · exact ⟨drawn, mem_cons_self, randomIdentifier_nonempty binds.drawn, binds.receipt⟩
    · exact ⟨(h.binding b old).1, mem_cons_of_mem _ (h.binding b old).2.1,
        (h.binding b old).2.2⟩
  · intro b mem record' known'
    rcases mem_cons.mp mem with rfl | old
    · rcases bindTicket_ticket known' with ⟨-, rfl⟩ | ⟨other, before⟩
      · exact ⟨binds.ticketGrantID, binds.ticketSubject⟩
      · exact absurd rfl other
    · rcases bindTicket_ticket known' with ⟨same, -⟩ | ⟨-, before⟩
      · exact absurd same (first b old)
      · exact h.ticket b old record' before
  · intro b mem record' known' entropy
    rcases mem_cons.mp mem with rfl | old
    · rcases bindTicket_grant known' with ⟨-, rfl⟩ | ⟨other, before⟩
      · exact binds.issued_again base64 entropy
      · exact absurd rfl other
    · rcases bindTicket_grant known' with ⟨same, -⟩ | ⟨-, before⟩
      · exact absurd (same ▸ (h.binding b old).2.1) fresh
      · exact h.grant b old record' before entropy
  · rw [map_cons, nodup_cons]
    refine ⟨fun mem => ?_, h.once⟩
    obtain ⟨b, mem', same⟩ := mem_map.mp mem
    exact first b mem' same

theorem revokeRecord {record : StoredAccessGrant} (known : store.grants.lookup id = some record) :
    Once packages identity (store.revokeRecord now id record).toAccessState ticketIDs grantIDs
      bindings where
  keyed := fun other record' found => h.keyed other record' (revokeRecord_ticket found)
  bound := fun other record' found => h.bound other record' (revokeRecord_ticket found)
  binding := h.binding
  ticket := fun b mem record' found => h.ticket b mem record' (revokeRecord_ticket found)
  grant := by
    intro b mem record' found entropy
    rcases revokeRecord_grant found with ⟨rfl, rfl⟩ | ⟨-, old⟩
    · exact h.grant b mem record known entropy
    · exact h.grant b mem record' old entropy
  once := h.once

end

end Once

/-! ### Runs -/

/-- The invariant of the runs with fresh ids. -/
structure World.Once (packages : ClaimPackages) (identity : Identity) (world : World) : Prop where
  published : world.daemon.Published
  once : RemoteAuth.Once packages.toPairingPackages identity world.daemon.store.toAccessState
    world.ticketIDs world.grantIDs world.bindings
  redemptions : ∀ redemption ∈ world.redemptions, redemption.1.length = publicKeySize ∧
    ∃ binding ∈ world.bindings, binding.ticketID = redemption.2.ticketID ∧
      binding.subjectKeyFingerprint = fingerprint packages.toPackages redemption.1 ∧
      binding.grant = redemption.2.grant ∧
      binding.deliveryReceipt = redemption.2.deliveryReceipt

namespace World.Once

variable {packages : ClaimPackages} {identity : Identity} {world : World}

section

variable (h : world.Once packages identity)
include h

theorem issue {options : PairingIssueOptions} {clock : Time}
    {random : PairingRandom} {daemon : Daemon} {calls : Nat → Option Call}
    (fresh : ∀ id ∈ world.drawnTicketID packages identity options clock random,
      id ∉ world.ticketIDs)
    {write : Write} (change : Daemon.Issues packages.toPairingPackages identity world.daemon options
      clock random write daemon) :
    Once packages identity { world with
      daemon, calls
      ticketIDs := (world.drawnTicketID packages identity options clock random).toList ++
        world.ticketIDs } := by
  rcases change with rfl | ⟨prepared, ok, -, record, claims, unredeemed, rfl⟩
  · exact ⟨h.published, h.once.weaken _ [], h.redemptions⟩
  rcases world.daemon.addTicket_writes (Daemon.withClock options clock).now prepared.2.2.ticketID
    record write with ⟨kept, -⟩ | ⟨stored, -⟩
  · refine ⟨kept.published h.published, ?_, h.redemptions⟩
    rw [kept.1]
    exact h.once.weaken _ []
  · have drawn : world.drawnTicketID packages identity options clock random =
        some prepared.2.2.ticketID := by
      unfold drawnTicketID
      rw [ok]
      rfl
    refine ⟨stored.published, ?_, h.redemptions⟩
    rw [stored.1, drawn]
    exact h.once.addTicket (fresh _ (Option.mem_def.mpr drawn)) (claims ▸ rfl) unredeemed

/-- A repeated redemption returns the result of the binding. -/
theorem repeated {request : RedeemRequest} {result : PairingExchangeResult}
    (plan : world.daemon.store.planRedemption packages.toPairingPackages identity request =
      .ok (.repeated result)) : request.clientPublicKey.length = publicKeySize ∧
      ∃ binding ∈ world.bindings, binding.ticketID = result.ticketID ∧
        binding.subjectKeyFingerprint = fingerprint packages.toPackages request.clientPublicKey ∧
        binding.grant = result.grant ∧ binding.deliveryReceipt = result.deliveryReceipt := by
  rcases planRedemption_spec plan with ⟨id, record, result', same, key, known, redeemed, subject,
    stored⟩ | ⟨_, _, _, same, _⟩
  · cases same
    obtain ⟨grant, found, issued, ticketID, -, -, receipt⟩ := pairingResultFromStored_spec stored
    obtain ⟨b, mem, bound⟩ := h.once.bound id record known redeemed
    obtain ⟨keyed, -⟩ := h.once.keyed id record known
    obtain ⟨grantID, boundSubject⟩ := h.once.ticket b mem record (bound ▸ known)
    refine ⟨key, b, mem, ?_, ?_, ?_, ?_⟩
    · rw [ticketID, keyed, bound]
    · rw [← boundSubject, subject]
    · rw [grantID] at found
      have again := h.once.grant b mem grant found request.random.entropy
      rw [issued] at again
      exact (Except.ok.inj again).symm
    · rw [receipt, (h.once.binding b mem).2.2.2, keyed, grantID, boundSubject, bound]
  · cases same

theorem redemption_cons (binding : PairingExchangeResult)
    (redemption : Bytes × PairingExchangeResult) (mem : redemption ∈ world.redemptions) :
    redemption.1.length = publicKeySize ∧
      ∃ b ∈ binding :: world.bindings, b.ticketID = redemption.2.ticketID ∧
        b.subjectKeyFingerprint = fingerprint packages.toPackages redemption.1 ∧
        b.grant = redemption.2.grant ∧ b.deliveryReceipt = redemption.2.deliveryReceipt := by
  obtain ⟨key, b, mem', same⟩ := h.redemptions redemption mem
  exact ⟨key, b, mem_cons_of_mem _ mem', same⟩

omit h in
theorem redeem (base64 : packages.toPackages.Base64) (h : world.Once packages identity)
    (request : RedeemRequest) (write : Write)
    (fresh : ∀ id ∈ drawnGrantID packages request.random, id ∉ world.grantIDs) :
    (world.redeem packages identity request write).Once packages identity := by
  unfold World.redeem
  dsimp only
  cases plan : world.daemon.store.planRedemption packages.toPairingPackages identity request with
  | error err =>
    rw [Daemon.redeemPairingBundle_error plan]
    exact ⟨h.published, h.once.weaken [] _, h.redemptions⟩
  | ok redemption =>
    cases redemption with
    | repeated result =>
      rw [Daemon.redeemPairingBundle_repeated plan]
      refine ⟨h.published, h.once.weaken [] _, fun redemption mem => ?_⟩
      rcases mem_cons.mp mem with rfl | old
      · exact h.repeated plan
      · exact h.redemptions redemption old
    | bind ticket grant result =>
      obtain ⟨returns, bound⟩ := Daemon.redeemPairingBundle_bind write plan
      rw [returns, bound]
      obtain ⟨_, _, _, same, binds⟩ := (planRedemption_spec plan).resolve_left (by simp)
      cases same
      have drawn : drawnGrantID packages request.random = some result.grantID := by
        unfold drawnGrantID
        rw [binds.drawn]
        rfl
      rcases world.daemon.bindTicket_writes request.now ticket grant result write with
        ⟨kept, err, rfl⟩ | ⟨stored, published⟩
      · refine ⟨kept.published h.published, ?_, h.redemptions⟩
        dsimp only
        rw [kept.1]
        exact h.once.weaken [] _
      have once := h.once.bindTicket base64 binds (fresh _ (Option.mem_def.mpr drawn))
      have redemptions := fun redemption mem => h.redemption_cons result redemption mem
      cases write with
      | failed err => exact absurd rfl (published err)
      | publishedWith err =>
        refine ⟨stored.published, ?_, redemptions⟩
        dsimp only
        rw [stored.1, drawn]
        exact once
      | published =>
        refine ⟨stored.published, ?_, fun redemption mem => ?_⟩
        · dsimp only
          rw [stored.1, drawn]
          exact once
        · rcases mem_cons.mp mem with rfl | old
          · exact ⟨binds.key, result, mem_cons_self, rfl, binds.subject, rfl, rfl⟩
          · exact redemptions redemption old

theorem restart (entropy : Except String Bytes) :
    (world.perform packages identity (.restart entropy)).Once packages identity := by
  unfold perform
  dsimp only
  cases loaded : loadAccessStore packages.toPairingPackages identity world.log entropy
      world.daemon.file with
  | none => exact h
  | some store =>
    have state : store.toAccessState = world.daemon.store.toAccessState :=
      (loadAccessStore_state loaded).1.trans h.published
    refine ⟨h.published.trans state.symm, ?_, h.redemptions⟩
    rw [state]
    exact h.once

end

theorem step (base64 : packages.toPackages.Base64) (h : world.Once packages identity) (event : Event)
    (fresh : Fresh packages identity world event) :
    (world.perform packages identity event).Once packages identity := by
  cases event <;> unfold World.perform <;> dsimp only
  case issueBundle options clock random write =>
    exact h.issue fresh (world.daemon.issuePairingBundle_issues options clock random write)
  case reserveClaim call claim =>
    split
    · exact h
    · exact { h with }
  case issueClaim call options clock random bootstrap write =>
    split
    · next claim _ =>
      split
      · exact { h with }
      obtain ⟨daemon, calls, same, change⟩ := World.issueClaim_issues call claim options clock random
        bootstrap write
      rw [same]
      exact h.issue fresh change
    · exact h
  case commitClaim call | releaseClaim call | bindClaim call =>
    split
    · exact { h with }
    · exact h
  case redeemBundle request write => exact h.redeem base64 request write fresh
  case resolveClaim call offerPayload clientPublicKey clientLabel now =>
    split
    · split <;> exact { h with }
    · exact h
  case redeemClaim call random managed write =>
    split
    · next digest payload clientPublicKey clientLabel now _ =>
      have redeemed := h.redeem base64 ⟨payload, clientPublicKey, clientLabel, now, random, managed⟩
        write fresh
      exact { redeemed with }
    · exact h
  case revoke grantID now write =>
    rcases world.daemon.revokeGrant_daemon grantID now write with same | ⟨record, known, same⟩
    · rw [same]
      exact { h with }
    rw [same]
    rcases world.daemon.revokeRecord_writes now (trimSpace grantID) record write with
      ⟨kept, -⟩ | ⟨stored, -⟩
    · refine ⟨kept.published h.published, ?_, h.redemptions⟩
      rw [kept.1]
      exact h.once
    · refine ⟨stored.published, ?_, h.redemptions⟩
      rw [stored.1]
      exact h.once.revokeRecord known
  case receiveChange => exact { h with }
  case sign signature => exact { h with }
  case restart entropy =>
    exact h.restart entropy

theorem initial : initialWorld.Once packages identity where
  published := rfl
  once := {
    keyed := fun _ _ known => nomatch (SortedMap.lookup_empty _).symm.trans known
    bound := fun _ _ known => nomatch (SortedMap.lookup_empty _).symm.trans known
    binding := forall_mem_nil _
    ticket := forall_mem_nil _
    grant := forall_mem_nil _
    once := nodup_nil }
  redemptions := forall_mem_nil _

end World.Once

variable {identity : Identity}

theorem once_run {packages : ClaimPackages} {world : World} (base64 : packages.toPackages.Base64)
    (run : Reachable packages identity (Fresh packages identity) world) :
    world.Once packages identity := by
  induction run with
  | refl => exact World.Once.initial
  | tail _ step ih =>
    obtain ⟨event, fresh, rfl⟩ := step
    exact ih.step base64 event fresh

/-! ### Failed redemptions -/

section Redeemable

variable {packages : PairingPackages} {identity : Identity} {store : AccessStore}
  {request : RedeemRequest}

/-- The store holds the ticket of a bundle, not redeemed yet. -/
def Redeemable (packages : PairingPackages) (identity : Identity) (store : AccessStore)
    (payload : Bytes) : Prop :=
  ∃ bundle claims canonical record,
    parsePairingBundleForExchange packages payload = .ok (bundle, claims) ∧
    claims.issuerDeviceID = identity.deviceID ∧
    bundle.identity.map (·.deviceFingerprint) = some identity.fingerprint ∧
    packages.encodePairingBundle bundle = .ok canonical ∧ store.closed = false ∧
    store.tickets.lookup claims.ticketID = some record ∧
    record.ticketDigest = payloadDigest packages canonical ∧ record.grantID = ""

/-- Apart from the record of its ticket, a redemption has all it needs: a key, a label, a time in
the window of the ticket, new ids and the route material. -/
structure Attempt (packages : PairingPackages) (identity : Identity) (store : AccessStore)
    (request : RedeemRequest) : Prop where
  key : request.clientPublicKey.length = publicKeySize
  label : ∃ label, normalizePairingLabel request.clientLabel "pairing client label" = .ok label
  grant : ∀ bundle claims, parsePairingBundleForExchange packages request.payload =
      .ok (bundle, claims) →
    validatePairingTicketTime claims request.now = .ok () ∧
    ∃ grantID nonce grant route,
      randomIdentifier packages request.random.grantID "grant-" = .ok grantID ∧
      store.grants.lookup grantID = none ∧
      randomIdentifier packages request.random.nonce "" = .ok nonce ∧
      issue packages.toPackages identity.privateKey
        (boundClaims identity claims
          (fingerprint packages.toPackages request.clientPublicKey) request.now grantID nonce)
        request.random.entropy = .ok grant ∧
      managedRoute bundle request.managed = .ok route

theorem Redeemable.binds (redeemable : Redeemable packages identity store request.payload)
    (attempt : Attempt packages identity store request) :
    ∃ ticket grant result,
      store.planRedemption packages identity request = .ok (.bind ticket grant result) := by
  obtain ⟨bundle, claims, canonical, record, parsed, issuer, device, encoded, isOpen, known, digest,
    unredeemed⟩ := redeemable
  obtain ⟨label, labelled⟩ := attempt.label
  obtain ⟨inTime, grantID, nonce, grant, route, drawn, new, drawnNonce, issued, managed⟩ :=
    attempt.grant bundle claims parsed
  have mismatch : ¬ (claims.issuerDeviceID ≠ identity.deviceID ∨
      bundle.identity.map (·.deviceFingerprint) ≠ some identity.fingerprint) := by
    rintro (bad | bad)
    · exact bad issuer
    · exact bad device
  unfold planRedemption
  rw [if_neg (not_not.mpr attempt.key), labelled, parsed]
  dsimp only
  rw [if_neg mismatch, encoded]
  dsimp only
  rw [isOpen, known]
  dsimp only
  rw [if_neg (not_not.mpr digest), if_neg (not_not.mpr unredeemed)]
  unfold planBinding
  rw [inTime, drawn, drawnNonce]
  dsimp only
  rw [new, Option.isSome_none, issued]
  rw [managed]
  exact ⟨_, _, _, rfl⟩

/-- A store with the same records and the same lock serves the same redemptions. -/
theorem Redeemable.of_same {store' : AccessStore} {payload : Bytes}
    (h : Redeemable packages identity store payload)
    (state : store'.toAccessState = store.toAccessState) (closed : store'.closed = store.closed) :
    Redeemable packages identity store' payload := by
  obtain ⟨bundle, claims, canonical, record, parsed, issuer, device, encoded, isOpen, known, digest,
    unredeemed⟩ := h
  have tickets : store'.tickets = store.tickets := congrArg AccessState.tickets state
  exact ⟨bundle, claims, canonical, record, parsed, issuer, device, encoded, closed.trans isOpen,
    tickets ▸ known, digest, unredeemed⟩

end Redeemable

variable {write : Write} {err : PairingError}

theorem redeemPairingBundle_fails {packages : PairingPackages} {daemon : Daemon}
    {request : RedeemRequest}
    (failed : (daemon.redeemPairingBundle packages identity request write).1 = .error err)
    (unpublished : ∀ err, write ≠ .publishedWith err) :
    daemon.Keeps (daemon.redeemPairingBundle packages identity request write).2 ∧
      (daemon.redeemPairingBundle packages identity request write).2.store.closed =
        daemon.store.closed := by
  unfold Daemon.redeemPairingBundle at failed ⊢
  split at failed
  · exact ⟨.refl, rfl⟩
  · exact ⟨.refl, rfl⟩
  cases write with
  | published => cases failed
  | publishedWith err => exact absurd rfl (unpublished err)
  | failed err => exact ⟨⟨rfl, rfl⟩, rfl⟩

theorem redemption_fails {packages : ClaimPackages} {world : World} {event : Event}
    {request : RedeemRequest}
    (redeems : event.redemption world = some (request, write))
    (failed : (world.daemon.redeemPairingBundle packages.toPairingPackages identity request
      write).1 = .error err) (unpublished : ∀ err, write ≠ .publishedWith err) :
    world.daemon.Keeps (world.perform packages identity event).daemon ∧
      (world.perform packages identity event).daemon.store.closed = world.daemon.store.closed ∧
      (world.perform packages identity event).claims = world.claims := by
  obtain ⟨kept, closed⟩ := redeemPairingBundle_fails failed unpublished
  cases event with
  | redeemBundle request' write' =>
    cases redeems
    exact ⟨kept, closed, rfl⟩
  | redeemClaim call random managed write' =>
    unfold Event.redemption at redeems
    dsimp only at redeems
    split at redeems
    · next digest payload clientPublicKey clientLabel now known =>
      cases redeems
      unfold World.perform
      dsimp only
      rw [known]
      exact ⟨kept, closed, rfl⟩
    · cases redeems
  | _ => cases redeems

/-- A pairing ticket yields at most one grant, for one client, and a redemption that fails before
the state file is published leaves it redeemable. -/
theorem pairing_ticket_once {packages : ClaimPackages} {world : World}
    (base64 : packages.toPackages.Base64)
    (collisionFree : ∀ key key' : Bytes, key.length = publicKeySize → key'.length = publicKeySize →
      fingerprint packages.toPackages key = fingerprint packages.toPackages key' → key = key')
    (run : Reachable packages identity (Fresh packages identity) world) :
    (∀ redemption ∈ world.redemptions, ∀ other ∈ world.redemptions,
      redemption.2.ticketID = other.2.ticketID → redemption.1 = other.1 ∧
        redemption.2.grant = other.2.grant ∧
        redemption.2.deliveryReceipt = other.2.deliveryReceipt) ∧
    (world.bindings.map (·.ticketID)).Nodup ∧
    ∀ event request write err, event.redemption world = some (request, write) →
      (world.daemon.redeemPairingBundle packages.toPairingPackages identity request write).1 =
        .error err →
      (∀ err, write ≠ .publishedWith err) →
      (world.perform packages identity event).claims = world.claims ∧
      ∀ payload,
        Redeemable packages.toPairingPackages identity world.daemon.store payload →
        Redeemable packages.toPairingPackages identity
          (world.perform packages identity event).daemon.store payload ∧
        ∀ retry : RedeemRequest, retry.payload = payload →
          Attempt packages.toPairingPackages identity
            (world.perform packages identity event).daemon.store retry →
          ∃ result, ((world.perform packages identity event).daemon.redeemPairingBundle
            packages.toPairingPackages identity retry .published).1 = .ok result := by
  have once := once_run base64 run
  refine ⟨fun redemption mem other mem' same => ?_, once.once.once, ?_⟩
  · obtain ⟨key, b, memB, ticket, subject, grant, receipt⟩ := once.redemptions redemption mem
    obtain ⟨key', b', memB', ticket', subject', grant', receipt'⟩ := once.redemptions other mem'
    have sameBinding : b = b' := inj_on_of_nodup_map once.once.once memB memB'
      (ticket.trans (same.trans ticket'.symm))
    subst sameBinding
    exact ⟨collisionFree _ _ key key' (subject.symm.trans subject'), grant.symm.trans grant',
      receipt.symm.trans receipt'⟩
  · intro event request write err redeems failed unpublished
    obtain ⟨kept, closed, claims⟩ := redemption_fails redeems failed unpublished
    refine ⟨claims, fun payload redeemable => ?_⟩
    have after := redeemable.of_same kept.1 closed
    refine ⟨after, fun retry same attempt => ?_⟩
    obtain ⟨ticket, grant, result, plan⟩ := Redeemable.binds (same ▸ after) attempt
    exact ⟨result, (Daemon.redeemPairingBundle_bind .published plan).1⟩

/-- The fingerprints of the sample packages tell keys apart. -/
theorem samplePackages_fingerprint (marshalClaims : Claims → Except String Bytes)
    (unmarshalClaims : Bytes → Except String Claims) (key key' : Bytes)
    (size : key.length = publicKeySize) (size' : key'.length = publicKeySize)
    (same : fingerprint (samplePackages marshalClaims unmarshalClaims).toPackages key =
      fingerprint (samplePackages marshalClaims unmarshalClaims).toPackages key') : key = key' := by
  have base64 := samplePackages_base64 marshalClaims unmarshalClaims
  have encoded := (String.append_right_inj _).mp same
  have decoded := congrArg (samplePackages marshalClaims unmarshalClaims).decodeBase64 encoded
  rw [base64.round_trip, base64.round_trip] at decoded
  have hash : ∀ bytes : Bytes, bytes.length = publicKeySize →
      (samplePackages marshalClaims unmarshalClaims).sha256 bytes = bytes := fun bytes h => if_pos h
  rw [hash key size, hash key' size'] at decoded
  exact Option.some.inj decoded

/-- A redemption whose write fails, one that succeeds and its repetition. -/
theorem pairing_ticket_once_sample :
    ∃ world, Reachable writingPackages sampleIdentity (Fresh writingPackages sampleIdentity) world ∧
      world.redemptions.length = 2 ∧ world.bindings.length = 1 ∧
      ∀ redemption ∈ world.redemptions, ∀ other ∈ world.redemptions,
        redemption.2.ticketID = other.2.ticketID → redemption.1 = other.1 ∧
          redemption.2.grant = other.2.grant ∧
          redemption.2.deliveryReceipt = other.2.deliveryReceipt := by
  have start : Reachable writingPackages sampleIdentity (Fresh writingPackages sampleIdentity)
    initialWorld := .refl
  have issued := start.tail ⟨sampleIssue (unixEpoch + second) .published, by decide +kernel, rfl⟩
  have failed := issued.tail ⟨sampleRedeem 6 (unixEpoch + 2 * second) (.failed "disk full"),
    by decide +kernel, rfl⟩
  have bound := failed.tail ⟨sampleRedeem 7 (unixEpoch + 3 * second) .published,
    by decide +kernel, rfl⟩
  have repeated := bound.tail ⟨sampleRedeem 8 (unixEpoch + 4 * second) .published,
    by decide +kernel, rfl⟩
  exact ⟨_, repeated, by decide +kernel, by decide +kernel,
    (pairing_ticket_once (samplePackages_base64 _ _) (samplePackages_fingerprint _ _) repeated).1⟩

end Anytty.RemoteAuth
