import Anytty.RemoteAuth.Coherence
import Anytty.RemoteAuth.Envelope

/-!
# Admission checks and the handshake

`Verify` decides whether a grant opens a session; `AllowsClientPublicKey` and `GrantActive`
are asked before it. All three look at one record: a grant that `Verify` accepts was signed
by a redemption, and ids are drawn once, so the stored grant of that id has its claims.
-/

namespace Anytty.RemoteAuth

open List AccessStore Identity

open Anytty.Connection (trimSpace trimSpace_trimSpace)
open Anytty.Data

/-! ### The claims of a redemption -/

/-- The facts about the packages that redemptions rely on. -/
structure PairingPackages.Lawful (packages : PairingPackages) : Prop extends
    packages.toPackages.Lawful where
  bootstrap : ∀ payload bundle ticket, packages.parseEndpointBootstrapBundle payload = .ok bundle →
    bundle.pairingTicket = some ticket → 0 < ticket.issuedAtUnixNano

/-- The claims of a grant as the daemon signs them. -/
structure GrantClaims (identity : Identity) (claims : Claims) : Prop where
  normal : claims.normalize = claims
  valid : claims.validate = .ok ()
  issuer : claims.issuerDeviceFingerprint = identity.fingerprint
  revocationID : claims.revocationID = claims.grantID

theorem Claims.normalize_normalize (claims : Claims) :
    claims.normalize.normalize = claims.normalize := by
  unfold normalize
  simp only [trimSpace_trimSpace]

theorem Claims.validate_grantID {claims : Claims} (h : claims.validate = .ok ()) :
    claims.grantID ≠ "" := by
  intro empty
  unfold validate at h
  split at h
  · cases h
  · cases h

section Redemptions

variable {packages : PairingPackages} {identity : Identity} {store : AccessStore}
  {request : RedeemRequest} {ticket : StoredPairingTicket} {grant : StoredAccessGrant}
  {result : PairingExchangeResult}

theorem Identity.validate_ok (h : identity.validate packages = .ok ()) :
    (packages.publicKey identity.privateKey).length = publicKeySize ∧
      identity.fingerprint = RemoteAuth.fingerprint packages.toPackages
        (packages.publicKey identity.privateKey) := by
  unfold validate at h
  split at h
  · cases h
  next complete =>
  split at h
  · cases h
  next matching =>
  simp only [not_or, not_not] at complete matching
  rw [← matching.2]
  exact ⟨complete.2.1, matching.1.symm⟩

/-- The time of a ticket that is redeemed is after the epoch, up to the tolerance. -/
theorem ticketTime_spec (lawful : packages.Lawful) {payload : Bytes} {bundle : PairingBundle}
    {claims : PairingTicketClaims} {now : Time}
    (parsed : parsePairingBundleForExchange packages payload = .ok (bundle, claims))
    (inTime : validatePairingTicketTime claims now = .ok ()) :
    now - clockSkewTolerance ≠ 0 := by
  unfold parsePairingBundleForExchange at parsed
  split at parsed
  · cases parsed
  next read =>
  split at parsed
  · cases parsed
  next fromBundle =>
  cases parsed
  unfold pairingTicketClaimsFromBundle at fromBundle
  split at fromBundle
  case h_2 => cases fromBundle
  next identity ticket _ hasTicket =>
  split at fromBundle
  · cases fromBundle
  dsimp only at fromBundle
  split at fromBundle
  · cases fromBundle
  cases fromBundle
  have positive := lawful.bootstrap _ _ _ read hasTicket
  unfold validatePairingTicketTime at inTime
  split at inTime
  · cases inTime
  next inWindow =>
  have started : ticket.issuedAtUnixNano + 62135596800 * (10 : Int) ^ 9 ≤ now + 600 * (10 : Int) ^ 9 :=
    not_lt.mp (not_or.mp inWindow).1
  intro zero
  have early : @Eq Int (now - 600 * 10 ^ 9) 0 := zero
  omega

namespace BindsTicket

variable (h : BindsTicket packages identity store request ticket grant result)
include h

theorem grantID_eq
    (base64 : packages.toPackages.Base64) : trimSpace result.grantID = result.grantID := by
  have drawn := h.drawn
  unfold randomIdentifier at drawn
  split at drawn
  · cases drawn
  rw [← Except.ok.inj drawn]
  exact base64.trimSpace_append rfl _

/-- The claims that a redemption stores are those that it signs. -/
theorem issueClaims_eq (lawful : packages.Lawful) (valid : identity.validate packages = .ok ())
    (entropy : Except String Bytes) :
    issueClaims packages.toPackages identity.privateKey grant.claims entropy = .ok grant.claims := by
  have base64 := lawful.toBase64
  obtain ⟨-, issuer⟩ := validate_ok valid
  obtain ⟨_, _, nonce, parsed, inTime, drawnNonce, claims⟩ := h.claims
  have nonempty := base64.nonce_nonempty drawnNonce
  have notBefore := ticketTime_spec lawful parsed inTime
  have revocationID : trimSpace result.grantID ≠ "" := by
    rw [h.grantID_eq base64]
    exact randomIdentifier_nonempty h.drawn
  have fingerprint := base64.trimSpace_fingerprint (packages.publicKey identity.privateKey)
  rw [claims]
  unfold issueClaims boundClaims
  rw [Claims.normalize_normalize]
  unfold Claims.normalize
  dsimp only
  rw [if_pos nonempty, if_neg (by decide), if_neg notBefore, if_neg revocationID, issuer,
    fingerprint]

omit h in
theorem issue_ok {claims : Claims} {entropy : Except String Bytes} {text : String}
    (h : issue packages.toPackages identity.privateKey claims entropy = .ok text)
    (same : issueClaims packages.toPackages identity.privateKey claims entropy = .ok claims) :
    claims.validate = .ok () ∧ ∃ payload, packages.marshalClaims claims = .ok payload ∧
      text = grantOf packages.toPackages identity.privateKey payload := by
  unfold issue at h
  split at h
  · cases h
  rw [same] at h
  dsimp only at h
  split at h
  · cases h
  next valid =>
  split at h
  · cases h
  next payload marshalled =>
  cases h
  exact ⟨valid, payload, marshalled, rfl⟩

theorem grantClaims (lawful : packages.Lawful) (valid : identity.validate packages = .ok ()) :
    GrantClaims identity grant.claims ∧ grant.claims.grantID = result.grantID ∧
      ∃ payload, packages.marshalClaims grant.claims = .ok payload := by
  have base64 := lawful.toBase64
  obtain ⟨-, issuer⟩ := validate_ok valid
  obtain ⟨validClaims, payload, marshalled, -⟩ :=
    issue_ok h.issued (h.issueClaims_eq lawful valid request.random.entropy)
  obtain ⟨_, _, _, -, -, -, claims⟩ := h.claims
  refine ⟨⟨?_, validClaims, ?_, ?_⟩, ?_, payload, marshalled⟩
  · rw [claims]
    exact Claims.normalize_normalize _
  · rw [claims]
    show trimSpace identity.fingerprint = _
    rw [issuer, base64.trimSpace_fingerprint]
  · rw [claims]
    rfl
  · rw [claims]
    exact h.grantID_eq base64

end BindsTicket

theorem planBinding_managed {bundle : PairingBundle} {claims : PairingTicketClaims}
    {record : StoredPairingTicket} {clientLabel subject : String}
    (plan : store.planBinding packages identity bundle claims record clientLabel subject request =
      .ok (.bind ticket grant result)) :
    ∃ ticket' grant' result', store.planBinding packages identity bundle claims record clientLabel
        subject { request with managed := some (.ok ([0], [0])) } =
          .ok (.bind ticket' grant' result') ∧ grant'.claims = grant.claims := by
  unfold planBinding at plan ⊢
  dsimp only at plan ⊢
  split at plan
  · cases plan
  split at plan
  · cases plan
  split at plan
  · cases plan
  next new =>
  rw [if_neg new]
  split at plan
  · cases plan
  split at plan
  · cases plan
  split at plan
  · cases plan
  cases plan
  obtain ⟨route, managed⟩ : ∃ route, managedRoute bundle (some (.ok ([0], [0]))) =
      .ok route := by
    unfold managedRoute
    split
    · exact ⟨_, rfl⟩
    · exact ⟨_, rfl⟩
  rw [managed]
  exact ⟨_, _, _, rfl, rfl⟩

/-- The claims of a redemption do not depend on the managed route. -/
theorem planRedemption_managed
    (plan : store.planRedemption packages identity request = .ok (.bind ticket grant result)) :
    ∃ ticket' grant' result', store.planRedemption packages identity
        { request with managed := some (.ok ([0], [0])) } = .ok (.bind ticket' grant' result') ∧
      grant'.claims = grant.claims := by
  unfold planRedemption at plan ⊢
  dsimp only at plan ⊢
  split at plan
  · cases plan
  next key =>
  rw [if_neg key]
  split at plan
  · cases plan
  split at plan
  · cases plan
  split at plan
  · cases plan
  next issuer =>
  rw [if_neg issuer]
  split at plan
  · cases plan
  split at plan
  · cases plan
  next isOpen =>
  rw [if_neg isOpen]
  split at plan
  · cases plan
  split at plan
  · cases plan
  next digest =>
  rw [if_neg digest]
  split at plan
  · split at plan
    · cases plan
    split at plan
    · cases plan
    split at plan
    · cases plan
    · cases plan
  next unredeemed =>
  rw [if_neg unredeemed]
  exact planBinding_managed plan

end Redemptions

/-! ### Signed claims -/

variable {packages : ClaimPackages} {identity : Identity} {world : World}

section Signed

variable {event : Event}

/-- Ids are drawn once, and nothing but a redemption signs a grant with the key of the daemon. -/
def Unforged (packages : ClaimPackages) (identity : Identity) (world : World) : Event → Prop
  | .sign signature => fingerprint packages.toPackages signature.publicKey = identity.fingerprint →
    ∀ payloadPart publicPart,
      signature.message ≠ textBytes (joinDots [grantPrefix, payloadPart, publicPart])
  | event => Fresh packages identity world event

variable {request : RedeemRequest}

theorem Unforged.redemption {write : Write} (h : Unforged packages identity world event)
    (redeems : event.redemption world = some (request, write)) :
    ∀ id ∈ World.drawnGrantID packages request.random, id ∉ world.grantIDs := by
  cases event with
  | redeemBundle =>
    cases redeems
    exact h
  | redeemClaim =>
    unfold Event.redemption at redeems
    dsimp only at redeems
    split at redeems
    · cases redeems
      exact h
    · cases redeems
  | _ => cases redeems

/-- The claims were signed as a grant. -/
def SignedClaims (packages : ClaimPackages) (identity : Identity) (log : List Signature)
    (claims : Claims) : Prop :=
  GrantClaims identity claims ∧ ∃ payload, packages.marshalClaims claims = .ok payload ∧
    grantSignature packages identity payload ∈ log

theorem SignedClaims.weaken {log log' : List Signature} {claims : Claims} (sub : log ⊆ log')
    (h : SignedClaims packages identity log claims) :
    SignedClaims packages identity log' claims :=
  let ⟨form, payload, marshalled, mem⟩ := h
  ⟨form, payload, marshalled, sub mem⟩

theorem grantSignature_message (payload : Bytes) :
    (grantSignature packages identity payload).message =
      textBytes (grantSigningInput packages.toPackages (packages.publicKey identity.privateKey)
        payload) := rfl

/-- The signature of a grant determines its payload. -/
theorem grantSignature_injective (base64 : packages.toPackages.Base64) {payload payload' : Bytes}
    (same : grantSignature packages identity payload = grantSignature packages identity payload') :
    payload = payload' := by
  have message := congrArg Signature.message same
  rw [grantSignature_message, grantSignature_message] at message
  exact base64.encode_injective (grantSigningInput_injective base64 (base64.noDots payload)
    (base64.noDots _) message).1

variable {store : AccessStore} (lawful : packages.toPairingPackages.Lawful)
  (valid : identity.validate packages.toPairingPackages = .ok ())

include lawful valid in
/-- A redemption signs the claims that it stores if it binds its ticket. -/
theorem signedGrants_bind {ticket : StoredPairingTicket} {grant : StoredAccessGrant}
    {result : PairingExchangeResult}
    (plan : store.planRedemption packages.toPairingPackages identity request =
      .ok (.bind ticket grant result)) :
    ∃ payload, packages.marshalClaims grant.claims = .ok payload ∧
      grantSignature packages identity payload ∈ signedGrants packages identity store request := by
  obtain ⟨ticket', grant', result', plan', same⟩ := planRedemption_managed plan
  obtain ⟨_, _, _, eq, binds⟩ := (planRedemption_spec plan').resolve_left (by simp)
  cases eq
  obtain ⟨-, -, payload, marshalled⟩ := binds.grantClaims lawful valid
  refine ⟨payload, same ▸ marshalled, ?_⟩
  unfold signedGrants
  rw [plan']
  dsimp only
  rw [binds.issueClaims_eq lawful valid request.random.entropy]
  dsimp only
  rw [marshalled]
  exact mem_singleton_self _

include lawful valid in
/-- What a redemption signs are claims with the id that it draws. -/
theorem signedGrants_spec :
    signedGrants packages identity store request = [] ∨
      ∃ claims payload, GrantClaims identity claims ∧ packages.marshalClaims claims = .ok payload ∧
        World.drawnGrantID packages request.random = some claims.grantID ∧
        signedGrants packages identity store request =
          [grantSignature packages identity payload] := by
  unfold signedGrants
  split
  · next ticket grant result plan =>
    obtain ⟨_, _, _, eq, binds⟩ := (planRedemption_spec plan).resolve_left (by simp)
    cases eq
    obtain ⟨form, id, payload, marshalled⟩ := binds.grantClaims lawful valid
    rw [binds.issueClaims_eq lawful valid request.random.entropy]
    dsimp only
    rw [marshalled]
    refine .inr ⟨grant.claims, payload, form, marshalled, ?_, rfl⟩
    unfold World.drawnGrantID
    rw [show randomIdentifier packages.toPairingPackages request.random.grantID "grant-" =
      .ok result.grantID from binds.drawn, id]
    rfl
  · exact .inl rfl

/-! ### The invariant -/

/-- The grants in the log have different ids, which were drawn. -/
structure Signatures (packages : ClaimPackages) (identity : Identity) (log : List Signature)
    (grantIDs : List String) : Prop where
  grants : ∀ signature ∈ log,
    fingerprint packages.toPackages signature.publicKey = identity.fingerprint →
    ∀ payloadPart publicPart,
      signature.message = textBytes (joinDots [grantPrefix, payloadPart, publicPart]) →
    ∃ claims payload, GrantClaims identity claims ∧ packages.marshalClaims claims = .ok payload ∧
      signature = grantSignature packages identity payload
  drawn : ∀ claims, SignedClaims packages identity log claims → claims.grantID ∈ grantIDs
  unique : ∀ claims claims', SignedClaims packages identity log claims →
    SignedClaims packages identity log claims' → claims.grantID = claims'.grantID → claims = claims'

namespace Signatures

variable {log : List Signature} {grantIDs : List String}

include lawful in
theorem grant (h : Signatures packages identity log grantIDs) {claims : Claims} {payload : Bytes}
    (form : GrantClaims identity claims) (marshalled : packages.marshalClaims claims = .ok payload)
    (fresh : claims.grantID ∉ grantIDs) :
    Signatures packages identity (grantSignature packages identity payload :: log)
      (claims.grantID :: grantIDs) := by
  -- Signed claims are the new ones or were signed before.
  have cases : ∀ other, SignedClaims packages identity
      (grantSignature packages identity payload :: log) other →
      other = claims ∨ SignedClaims packages identity log other := by
    rintro other ⟨form', payload', marshalled', mem⟩
    rcases mem_cons.mp mem with same | old
    · have payloads := grantSignature_injective lawful.toBase64 same
      have read := lawful.json other payload' marshalled'
      rw [payloads, lawful.json claims payload marshalled] at read
      exact .inl (Except.ok.inj read).symm
    · exact .inr ⟨form', payload', marshalled', old⟩
  constructor
  · intro signature mem known payloadPart publicPart message
    rcases mem_cons.mp mem with rfl | old
    · exact ⟨claims, payload, form, marshalled, rfl⟩
    · exact h.grants signature old known payloadPart publicPart message
  · intro other signed
    rcases cases other signed with rfl | old
    · exact mem_cons_self
    · exact mem_cons_of_mem _ (h.drawn other old)
  · intro other other' signed signed' same
    rcases cases other signed with rfl | old
    · rcases cases other' signed' with rfl | old'
      · rfl
      · exact absurd (same ▸ h.drawn other' old') fresh
    · rcases cases other' signed' with rfl | old'
      · exact absurd (same ▸ h.drawn other old) fresh
      · exact h.unique other other' old old' same

include valid in
/-- Another signature is no grant. -/
theorem other (h : Signatures packages identity log grantIDs) {signature : Signature}
    (unforged : fingerprint packages.toPackages signature.publicKey = identity.fingerprint →
      ∀ payloadPart publicPart,
        signature.message ≠ textBytes (joinDots [grantPrefix, payloadPart, publicPart])) :
    Signatures packages identity (signature :: log) grantIDs := by
  have old : ∀ claims, SignedClaims packages identity (signature :: log) claims →
      SignedClaims packages identity log claims := by
    rintro claims ⟨form, payload, marshalled, mem⟩
    rcases mem_cons.mp mem with rfl | old
    · rw [grantSignature_message] at unforged
      exact absurd rfl (unforged (validate_ok valid).2.symm _ _)
    · exact ⟨form, payload, marshalled, old⟩
  constructor
  · intro other mem known payloadPart publicPart message
    rcases mem_cons.mp mem with rfl | mem'
    · exact absurd message (unforged known payloadPart publicPart)
    · exact h.grants other mem' known payloadPart publicPart message
  · exact fun claims signed => h.drawn claims (old claims signed)
  · exact fun claims claims' signed signed' =>
      h.unique claims claims' (old claims signed) (old claims' signed')

theorem draw (h : Signatures packages identity log grantIDs) (ids : List String) :
    Signatures packages identity log (ids ++ grantIDs) :=
  ⟨h.grants, fun claims signed => mem_append_right _ (h.drawn claims signed), h.unique⟩

include lawful valid in
theorem step (h : Signatures packages identity world.log world.grantIDs)
    (unforged : Unforged packages identity world event) {log' : List Signature}
    {grantIDs' : List String}
    (history : HistoryStep packages identity world event log' grantIDs') :
    Signatures packages identity log' grantIDs' := by
  cases history with
  | same => exact h
  | redeem redeems =>
    next request write =>
    have fresh := unforged.redemption redeems
    rcases signedGrants_spec lawful valid with none | ⟨claims, payload, form, marshalled, drawn, one⟩
    · rw [none]
      exact h.draw _
    · rw [one, drawn]
      exact h.grant lawful form marshalled (fresh _ (Option.mem_def.mpr drawn))
  | sign signature => exact h.other valid unforged

end Signatures

/-- The stored grants were signed. -/
def StoredGrants (packages : ClaimPackages) (identity : Identity) (log : List Signature)
    (grants : SortedMap String StoredAccessGrant) : Prop :=
  ∀ id record, grants.lookup id = some record →
    record.claims.grantID = id ∧ SignedClaims packages identity log record.claims

namespace StoredGrants

theorem weaken {log log' : List Signature} {grants : SortedMap String StoredAccessGrant}
    (h : StoredGrants packages identity log grants) (sub : log ⊆ log') :
    StoredGrants packages identity log' grants :=
  fun id record known => (h id record known).imp_right (SignedClaims.weaken sub)

theorem writes {log : List Signature} {daemon daemon' : Daemon} {write : Write}
    {updated : AccessStore} (h : daemon.Writes write updated daemon')
    (old : StoredGrants packages identity log daemon.store.grants)
    (new : StoredGrants packages identity log updated.grants) :
    StoredGrants packages identity log daemon'.store.grants := by
  rcases h with ⟨kept, -⟩ | ⟨stored, -⟩
  · rw [congrArg AccessState.grants kept.1]
    exact old
  · rw [congrArg AccessState.grants stored.1]
    exact new

include lawful valid in
theorem bind {log : List Signature}
    {ticket : StoredPairingTicket} {grant : StoredAccessGrant}
    {result : PairingExchangeResult} (h : StoredGrants packages identity log store.grants)
    (plan : store.planRedemption packages.toPairingPackages identity request =
      .ok (.bind ticket grant result))
    (binds : BindsTicket packages.toPairingPackages identity store request ticket grant result)
    (signed : signedGrants packages identity store request ⊆ log) :
    StoredGrants packages identity log
      (store.bindTicket request.now ticket grant result).grants := by
  intro id record known
  rcases bindTicket_grant known with ⟨rfl, rfl⟩ | ⟨-, old⟩
  · obtain ⟨payload, marshalled, mem⟩ := signedGrants_bind lawful valid plan
    obtain ⟨form, grantID, -⟩ := binds.grantClaims lawful valid
    exact ⟨grantID, form, payload, marshalled, signed mem⟩
  · exact h id record old

include lawful valid in
theorem step (h : StoredGrants packages identity world.log world.daemon.store.grants)
    (published : world.daemon.Published) {daemon : Daemon}
    (change : DaemonStep packages identity world event daemon) {log' : List Signature}
    {grantIDs' : List String}
    (history : HistoryStep packages identity world event log' grantIDs') :
    StoredGrants packages identity log' daemon.store.grants := by
  have old := h.weaken history.sub
  cases change with
  | same => exact old
  | issue =>
    exact writes (Daemon.addTicket_writes ..) old fun id record known =>
      old id record (addTicket_grant known)
  | bind redeems plan binds =>
    exact writes (Daemon.bindTicket_writes ..) old
      (bind lawful valid old plan binds (history.signed redeems))
  | revoke known =>
    refine writes (Daemon.revokeRecord_writes ..) old fun id record found => ?_
    rcases revokeRecord_grant found with ⟨rfl, rfl⟩ | ⟨-, kept⟩
    · have signed := old _ _ known
      exact signed
    · exact old id record kept
  | receive => exact old
  | load loaded =>
    have state := (loadAccessStore_state loaded).1.trans published
    rw [show _ = world.daemon.store.grants from congrArg AccessState.grants state]
    exact old

end StoredGrants

include lawful valid in
theorem signed_run (run : Reachable packages identity (Unforged packages identity) world) :
    Signatures packages identity world.log world.grantIDs ∧
      StoredGrants packages identity world.log world.daemon.store.grants := by
  induction run with
  | refl =>
    refine ⟨⟨forall_mem_nil _, ?_, ?_⟩, ?_⟩
    · exact fun claims ⟨_, _, _, mem⟩ => nomatch mem
    · exact fun claims claims' ⟨_, _, _, mem⟩ => nomatch mem
    · exact fun id record known => nomatch (SortedMap.lookup_empty id).symm.trans known
  | @tail before _ run step ih =>
    obtain ⟨event, unforged, rfl⟩ := step
    obtain ⟨change, history⟩ := perform_steps packages identity before event
    exact ⟨ih.1.step lawful valid unforged history,
      ih.2.step lawful valid (published_run run).1 change history⟩

end Signed

/-! ### The checks -/

section Checks

variable {claims : Claims} {given clock now : Time} {store : AccessStore} {id : String}

theorem verify_eq_ok {packages : Packages} {log : List Signature} {grant expected : String}
    {revoked : String → Bool} (time : now = if given = 0 then clock else given) :
    verify packages log grant expected given clock (some revoked) = .ok claims ↔
      verifyGrantEnvelope packages log grant expected = .ok claims ∧
        claims.notBefore ≤ now + clockSkewTolerance ∧
        grantUnexpiredAt claims.expiresAt (now - clockSkewTolerance) = true ∧
        revoked claims.revocationID = false := by
  unfold verify
  rw [← time]
  cases verifyGrantEnvelope packages log grant expected with
  | error err => exact ⟨nofun, fun h => nomatch h.1⟩
  | ok read =>
    dsimp only
    constructor
    · intro h
      split at h
      · cases h
      next active =>
      split at h
      · cases h
      next unexpired =>
      split at h
      · cases h
      next unrevoked =>
      cases h
      exact ⟨rfl, not_lt.mp active, by simpa using unexpired, by simpa using unrevoked⟩
    · rintro ⟨same, active, unexpired, unrevoked⟩
      cases same
      rw [if_neg (not_lt.mpr active), if_neg (by rw [unexpired]; decide),
        if_neg (by rw [Option.any_some, unrevoked]; decide)]

theorem revoked_eq_false :
    store.revoked id = false ↔ store.closed = false ∧
      ∃ record, store.grants.lookup (trimSpace id) = some record ∧ record.revokedAt = 0 := by
  unfold AccessStore.revoked
  rw [Bool.or_eq_false_iff]
  refine and_congr_right fun _ => ?_
  split
  · next none => simp [none]
  · next record known =>
    simp [known]

/-- What the daemon has signed and stored of a grant that `Verify` accepts. -/
theorem accepted_record (lawful : packages.toPairingPackages.Lawful)
    (valid : identity.validate packages.toPairingPackages = .ok ())
    (run : Reachable packages identity (Unforged packages identity) world) {grant : String}
    (read : verifyGrantEnvelope packages.toPackages world.log grant identity.fingerprint =
      .ok claims)
    (unrevoked : world.daemon.store.revoked claims.revocationID = false) :
    GrantClaims identity claims ∧ ∃ record,
      world.daemon.store.grants.lookup claims.grantID = some record ∧ record.claims = claims ∧
      record.revokedAt = 0 := by
  have base64 := lawful.toBase64
  obtain ⟨signatures, stored⟩ := signed_run lawful valid run
  obtain ⟨publicKey, signature, payload, raw, payloadPart, publicPart, mem, noDots, noDots', known,
    decoded, unmarshalled, normal⟩ := verifyGrantEnvelope_signed read
  rw [(validate_ok valid).2, base64.trimSpace_fingerprint, ← (validate_ok valid).2]
    at known
  obtain ⟨signedClaims, signedPayload, form, marshalled, same⟩ :=
    signatures.grants _ mem known payloadPart publicPart rfl
  have message := congrArg Signature.message same
  rw [grantSignature_message] at message
  obtain ⟨encoded, -⟩ := grantSigningInput_injective base64 noDots noDots' message
  have claims_eq : claims = signedClaims := by
    rw [encoded, base64.round_trip] at decoded
    rw [← Option.some.inj decoded, lawful.json signedClaims signedPayload marshalled] at unmarshalled
    rw [normal, ← Except.ok.inj unmarshalled, form.normal]
  subst claims_eq
  obtain ⟨-, record, found, active⟩ := revoked_eq_false.mp unrevoked
  have trimmed : trimSpace claims.grantID = claims.grantID := congrArg Claims.grantID form.normal
  rw [form.revocationID, trimmed] at found
  obtain ⟨id, signed⟩ := stored claims.grantID record found
  exact ⟨form, record, found, signatures.unique record.claims claims signed
    ⟨form, signedPayload, marshalled, same ▸ mem⟩ id, active⟩

theorem allowsClientPublicKey_iff {packages : Packages} {publicKey : Bytes}
    (key : publicKey.length = publicKeySize) (isOpen : store.closed = false)
    (time : now = if given = 0 then clock else given) :
    store.allowsClientPublicKey packages publicKey given clock = true ↔
      ∃ id, Listed store.clientGrants (fingerprint packages publicKey) id ∧
        store.admits now id = true := by
  unfold allowsClientPublicKey Listed
  rw [← time, isOpen]
  simp only [key, decide_true, Bool.not_false, Bool.and_true, Bool.true_and, any_eq_true,
    Option.isSome_iff_exists, SortedMap.lookup_eq_some, Prod.exists]
  constructor
  · rintro ⟨id, value, mem, admitted⟩
    exact ⟨id, ⟨value, mem⟩, admitted⟩
  · rintro ⟨id, ⟨value, mem⟩, admitted⟩
    exact ⟨id, value, mem, admitted⟩

theorem admits_iff :
    store.admits now id = true ↔ ∃ record, store.grants.lookup id = some record ∧
      record.revokedAt = 0 ∧ record.claims.notBefore < now + clockSkewTolerance ∧
      grantUnexpiredAt record.claims.expiresAt (now - clockSkewTolerance) = true := by
  unfold admits
  rw [Option.any_eq_true]
  simp only [Bool.and_eq_true, decide_eq_true_eq, and_assoc]

/-- For a grant that the handshake accepts, `GrantActive` says no just if the grant is expired
within the tolerance, and `AllowsClientPublicKey` just if the index misses the grant, or the grant
begins at the end of the tolerance, and no other indexed grant of the key is usable. A key that
`AllowsClientPublicKey` admits has a grant that the handshake accepts. -/
theorem admission_prechecks (lawful : packages.toPairingPackages.Lawful)
    (valid : identity.validate packages.toPairingPackages = .ok ())
    (run : Reachable packages identity (Unforged packages identity) world) {publicKey : Bytes}
    (key : publicKey.length = publicKeySize) (time : now = if given = 0 then clock else given) :
    (∀ grant claims, verify packages.toPackages world.log grant identity.fingerprint given clock
        (some world.daemon.store.revoked) = .ok claims →
      claims.subjectKeyFingerprint = fingerprint packages.toPackages publicKey →
      (world.daemon.store.grantActive claims.grantID claims.expiresAt given clock = true ↔
        claims.expiresAt = 0 ∨ now < claims.expiresAt) ∧
      (world.daemon.store.allowsClientPublicKey packages.toPackages publicKey given clock = true ↔
        (Listed world.daemon.store.clientGrants (fingerprint packages.toPackages publicKey)
            claims.grantID ∧ claims.notBefore ≠ now + clockSkewTolerance) ∨
          ∃ id ≠ claims.grantID, Listed world.daemon.store.clientGrants
            (fingerprint packages.toPackages publicKey) id ∧
            world.daemon.store.admits now id = true)) ∧
    (world.daemon.store.allowsClientPublicKey packages.toPackages publicKey given clock = true →
      ∃ id record grant, world.daemon.store.grants.lookup id = some record ∧
        record.claims.subjectKeyFingerprint = fingerprint packages.toPackages publicKey ∧
        verify packages.toPackages world.log grant identity.fingerprint given clock
          (some world.daemon.store.revoked) = .ok record.claims) := by
  have isOpen := (published_run run).2
  constructor
  · intro grant claims accepted _
    obtain ⟨read, active, unexpired, unrevoked⟩ := (verify_eq_ok time).mp accepted
    obtain ⟨form, record, known, rfl, unrevokedAt⟩ := accepted_record lawful valid run read unrevoked
    constructor
    · have trimmed : trimSpace record.claims.grantID = record.claims.grantID :=
        congrArg Claims.grantID form.normal
      unfold grantActive grantUnexpiredAt
      rw [trimmed, ← time]
      dsimp only
      rw [known, isOpen]
      simp [Claims.validate_grantID form.valid, unrevokedAt]
    · rw [allowsClientPublicKey_iff key isOpen time]
      constructor
      · rintro ⟨id, listed, admitted⟩
        by_cases same : id = record.claims.grantID
        · subst same
          obtain ⟨found, known', -, begins, -⟩ := admits_iff.mp admitted
          cases known.symm.trans known'
          exact .inl ⟨listed, ne_of_lt begins⟩
        · exact .inr ⟨id, same, listed, admitted⟩
      · rintro (⟨listed, begins⟩ | ⟨id, -, listed, admitted⟩)
        · exact ⟨_, listed, admits_iff.mpr ⟨record, known, unrevokedAt,
            lt_of_le_of_ne active begins, unexpired⟩⟩
        · exact ⟨id, listed, admitted⟩
  · intro allowed
    obtain ⟨id, listed, admitted⟩ := (allowsClientPublicKey_iff key isOpen time).mp allowed
    obtain ⟨record, known, unrevokedAt, begins, unexpired⟩ := admits_iff.mp admitted
    obtain ⟨found, known', subject⟩ := sound_run lawful.toBase64 run _ id listed
    cases known.symm.trans (Option.mem_def.mp known')
    obtain ⟨size, fingerprint_eq⟩ := validate_ok valid
    obtain ⟨same, form, payload, marshalled, signed⟩ := (signed_run lawful valid run).2 id record known
    have read := verifyGrantEnvelope_grantOf lawful.toLawful size marshalled form.normal form.valid
      (form.issuer.trans fingerprint_eq) signed
    rw [← fingerprint_eq] at read
    refine ⟨id, record, _, known, subject, (verify_eq_ok time).mpr
      ⟨read, le_of_lt begins, unexpired, revoked_eq_false.mpr ⟨isOpen, record, ?_, unrevokedAt⟩⟩⟩
    have trimmed : trimSpace record.claims.grantID = record.claims.grantID :=
      congrArg Claims.grantID form.normal
    rw [form.revocationID, trimmed, same]
    exact known

/-- The claims of the grant that the sample client gets with the id 7 three seconds after the
epoch. -/
def sampleClaims : Claims where
  version := 2
  grantID := "grant-" ++ sampleBase64 (List.replicate 18 7)
  issuerDeviceID := "box"
  issuerDeviceFingerprint := sampleIdentity.fingerprint
  subjectKeyFingerprint := "ed25519-sha256:" ++ sampleBase64 (List.replicate 32 9)
  scope := { emptyScope with allowDaemon := true }
  issuedAt := unixEpoch + 3 * second
  notBefore := unixEpoch + 3 * second - clockSkewTolerance
  expiresAt := unixEpoch + 3603 * second
  revocationID := "grant-" ++ sampleBase64 (List.replicate 18 7)
  nonce := sampleBase64 (List.replicate 18 4)

/-- Packages that write and read these claims only. -/
def grantingPackages : ClaimPackages :=
  samplePackages (fun claims => if claims = sampleClaims then .ok [1] else .error "unknown claims")
    fun payload => if payload = [1] then .ok sampleClaims else .error "unknown claims"

def sampleGrant : String := grantOf grantingPackages.toPackages sampleIdentity.privateKey [1]

/-- The sample ticket is issued and redeemed. -/
def grantedWorld : World :=
  (initialWorld.perform grantingPackages sampleIdentity
    (sampleIssue (unixEpoch + second) .published)).perform grantingPackages sampleIdentity
      (sampleRedeem 7 (unixEpoch + 3 * second) .published)

theorem grantingPackages_lawful : grantingPackages.toPairingPackages.Lawful where
  toBase64 := samplePackages_base64 _ _
  json claims payload marshalled := by
    simp only [grantingPackages, samplePackages] at marshalled ⊢
    split at marshalled
    · next same =>
      cases marshalled
      rw [if_pos rfl, same]
    · cases marshalled
  bootstrap payload bundle ticket parsed known := by
    simp only [grantingPackages, samplePackages] at parsed
    split at parsed
    · cases parsed
      cases known
      decide
    · cases parsed

theorem grantedWorld_reachable :
    Reachable grantingPackages sampleIdentity (Unforged grantingPackages sampleIdentity)
      grantedWorld :=
  (Relation.ReflTransGen.refl.tail ⟨sampleIssue (unixEpoch + second) .published,
    fun _ _ => not_mem_nil, rfl⟩).tail ⟨sampleRedeem 7 (unixEpoch + 3 * second) .published,
      fun _ _ => not_mem_nil, rfl⟩

/-- Within its lifetime the sample grant passes all checks. -/
theorem admission_prechecks_sample :
    grantedWorld.daemon.store.grantActive sampleClaims.grantID sampleClaims.expiresAt
        (unixEpoch + 4 * second) 0 = true ∧
      grantedWorld.daemon.store.allowsClientPublicKey grantingPackages.toPackages
        (List.replicate 32 9) (unixEpoch + 4 * second) 0 = true := by
  have key : (List.replicate 32 9 : Bytes).length = publicKeySize := by decide
  have time : unixEpoch + 4 * second = if unixEpoch + 4 * second = 0 then 0
    else unixEpoch + 4 * second := by decide
  obtain ⟨accepted, -⟩ := admission_prechecks grantingPackages_lawful (by decide +kernel)
    grantedWorld_reachable key time
  obtain ⟨active, allows⟩ := accepted sampleGrant sampleClaims (by decide +kernel) (by decide +kernel)
  exact ⟨active.mpr (by decide +kernel), allows.mpr (.inl (by decide +kernel))⟩

/-- One second after it expired the handshake still accepts the grant, and `GrantActive` does not.
Twenty minutes before it was issued the handshake accepts it, and `AllowsClientPublicKey` does not
know the key. -/
theorem admission_prechecks_refuse :
    Reachable grantingPackages sampleIdentity (Unforged grantingPackages sampleIdentity)
      grantedWorld ∧
    (verify grantingPackages.toPackages grantedWorld.log sampleGrant sampleIdentity.fingerprint
        (unixEpoch + 3604 * second) 0 (some grantedWorld.daemon.store.revoked) = .ok sampleClaims ∧
      grantedWorld.daemon.store.grantActive sampleClaims.grantID sampleClaims.expiresAt
        (unixEpoch + 3604 * second) 0 = false) ∧
    verify grantingPackages.toPackages grantedWorld.log sampleGrant sampleIdentity.fingerprint
        (unixEpoch - 1197 * second) 0 (some grantedWorld.daemon.store.revoked) = .ok sampleClaims ∧
      grantedWorld.daemon.store.allowsClientPublicKey grantingPackages.toPackages
        (List.replicate 32 9) (unixEpoch - 1197 * second) 0 = false :=
  ⟨grantedWorld_reachable, by decide +kernel⟩

/-- The sample grant is revoked and keeps its claims. -/
theorem stored_grant_fixed_sample : ∃ old new,
    grantedWorld.daemon.store.grants.lookup sampleClaims.grantID = some old ∧
      (grantedWorld.perform grantingPackages sampleIdentity (.revoke sampleClaims.grantID
        (unixEpoch + 4 * second) .published)).daemon.store.grants.lookup sampleClaims.grantID =
          some new ∧ new.claims = old.claims := by
  have known := Option.eq_some_of_isSome (o := grantedWorld.daemon.store.grants.lookup
    sampleClaims.grantID) (by decide +kernel)
  refine ⟨_, _, known, Option.eq_some_of_isSome ?_,
    (stored_grant_fixed grantedWorld_reachable _ known (Option.eq_some_of_isSome _)).1⟩
  decide +kernel

end Checks

end Anytty.RemoteAuth
