import Anytty.RemoteAuth.Runs

/-!
# What the calls of the access store change

Each mutation either leaves the tickets, the grants and the revision as they were, in memory
and in the file, or puts the same new ones into both. `BindsTicket` is what a redemption that
binds a ticket has checked and what it stores.
-/

namespace Anytty.RemoteAuth

open List

open Anytty.Connection (trimSpace isSpace trimSpace_id trimSpace_trimSpace)
open Anytty.Data

/-- The facts about base64 that the formats rely on. -/
structure Packages.Base64 (packages : Packages) : Prop where
  round_trip : ∀ bytes, packages.decodeBase64 (packages.encodeBase64 bytes) = some bytes
  alphabet : ∀ bytes, ∀ c ∈ (packages.encodeBase64 bytes).toList, c ≠ '.' ∧ isSpace c = false
  nonempty : ∀ bytes, packages.encodeBase64 bytes = "" → bytes = []

theorem noSpace_of_all {s : String} (h : (s.toList.all fun c => !isSpace c) = true) :
    ∀ c ∈ s.toList, isSpace c = false := by
  intro c mem
  simpa using all_eq_true.mp h c mem

theorem Packages.Base64.trimSpace_append {packages : Packages} (h : packages.Base64)
    {start : String} (clean : (start.toList.all fun c => !isSpace c) = true) (bytes : Bytes) :
    trimSpace (start ++ packages.encodeBase64 bytes) = start ++ packages.encodeBase64 bytes := by
  refine trimSpace_id fun c mem => ?_
  rw [String.toList_append, mem_append] at mem
  rcases mem with first | encoded
  · exact noSpace_of_all clean c first
  · exact (h.alphabet bytes c encoded).2

theorem Packages.Base64.trimSpace_fingerprint {packages : Packages} (h : packages.Base64)
    (publicKey : Bytes) :
    trimSpace (fingerprint packages publicKey) = fingerprint packages publicKey :=
  h.trimSpace_append rfl _

theorem letter_toNat (byte : UInt8) : (letter byte).toNat = byte.toNat + 0x100 := by
  have small := byte.toNat_lt
  have valid : (byte.toNat + 0x100).isValidChar := .inl (by omega)
  unfold letter Char.ofNat
  rw [dif_pos valid]
  rfl

theorem unletter_letter (byte : UInt8) : unletter (letter byte) = byte := by
  unfold unletter
  rw [letter_toNat, Nat.add_sub_cancel, UInt8.ofNat_toNat]

theorem sampleBytes_sampleLetters (bytes : Bytes) :
    sampleBytes (sampleLetters bytes) = some bytes := by
  unfold sampleLetters
  dsimp only
  split
  · next same =>
    show some (List.replicate 18 (unletter (letter _))) = _
    rw [unletter_letter, ← same]
  split
  · next same =>
    show some (List.replicate 32 (unletter (letter _))) = _
    rw [unletter_letter, ← same]
  · show some ((bytes.map letter).map unletter) = some bytes
    rw [map_map]
    exact congrArg some ((map_congr_left fun byte _ => unletter_letter byte).trans
      (map_id _))

theorem mem_sampleLetters {bytes : Bytes} {c : Char} (mem : c ∈ sampleLetters bytes) :
    c = 'i' ∨ c = 'k' ∨ c = 'b' ∨ ∃ byte, c = letter byte := by
  unfold sampleLetters at mem
  dsimp only at mem
  split at mem
  · simp only [mem_cons, not_mem_nil, or_false] at mem
    exact mem.imp id fun h => .inr (.inr ⟨_, h⟩)
  split at mem
  · simp only [mem_cons, not_mem_nil, or_false] at mem
    exact .inr (mem.imp id fun h => .inr ⟨_, h⟩)
  · rcases mem_cons.mp mem with h | h
    · exact .inr (.inr (.inl h))
    · obtain ⟨byte, -, rfl⟩ := mem_map.mp h
      exact .inr (.inr (.inr ⟨byte, rfl⟩))

theorem letter_clean (byte : UInt8) : letter byte ≠ '.' ∧ isSpace (letter byte) = false := by
  have small := byte.toNat_lt
  have code := letter_toNat byte
  constructor
  · intro dot
    rw [dot] at code
    exact absurd code (by show ¬ 46 = _; omega)
  · unfold isSpace
    simp only [Bool.or_eq_false_iff, Bool.and_eq_false_iff, decide_eq_false_iff_not, mem_cons,
      not_mem_nil, or_false]
    exact ⟨by omega, .inl (by omega)⟩

theorem samplePackages_base64 (marshalClaims : Claims → Except String Bytes)
    (unmarshalClaims : Bytes → Except String Claims) :
    (samplePackages marshalClaims unmarshalClaims).toPackages.Base64 where
  round_trip bytes := by
    show sampleBytes (String.ofList (sampleLetters bytes)).toList = some bytes
    rw [String.toList_ofList, sampleBytes_sampleLetters]
  alphabet bytes c mem := by
    rw [show (samplePackages marshalClaims unmarshalClaims).encodeBase64 bytes =
      String.ofList (sampleLetters bytes) from rfl, String.toList_ofList] at mem
    rcases mem_sampleLetters mem with rfl | rfl | rfl | ⟨byte, rfl⟩
    · decide
    · decide
    · decide
    · exact letter_clean byte
  nonempty bytes empty := by
    have letters : sampleLetters bytes = [] := by
      rw [← String.toList_ofList (l := sampleLetters bytes)]
      exact congrArg String.toList empty
    unfold sampleLetters at letters
    dsimp only at letters
    split at letters
    · cases letters
    split at letters
    · cases letters
    · cases letters

theorem Packages.Base64.nonce_nonempty {packages : PairingPackages}
    (h : packages.toPackages.Base64) {raw : Except String RandomBytes} {nonce : String}
    (drawn : randomIdentifier packages raw "" = .ok nonce) : trimSpace nonce ≠ "" := by
  unfold randomIdentifier at drawn
  split at drawn
  · cases drawn
  next bytes =>
  cases drawn
  rw [h.trimSpace_append rfl]
  intro empty
  have none : bytes.val = [] := h.nonempty _ (by simpa using empty)
  have length := bytes.property
  rw [none] at length
  cases length

theorem randomIdentifier_nonempty {packages : PairingPackages} {raw : Except String RandomBytes}
    {id : String} (drawn : randomIdentifier packages raw "grant-" = .ok id) : id ≠ "" := by
  unfold randomIdentifier at drawn
  split at drawn
  · cases drawn
  cases drawn
  intro empty
  have length := congrArg String.length empty
  rw [String.length_append] at length
  exact absurd length (Nat.ne_of_gt (Nat.lt_of_lt_of_le (by decide) (Nat.le_add_right _ _)))

/-- Claims with a nonce are signed without drawing one. -/
theorem issue_entropy {packages : Packages} {privateKey : Bytes} {claims : Claims}
    (nonce : trimSpace claims.nonce ≠ "") (entropy entropy' : Except String Bytes) :
    issue packages privateKey claims entropy = issue packages privateKey claims entropy' := by
  have same : issueClaims packages privateKey claims entropy =
      issueClaims packages privateKey claims entropy' := by
    unfold issueClaims
    rw [if_pos (show claims.normalize.nonce ≠ "" from nonce),
      if_pos (show claims.normalize.nonce ≠ "" from nonce)]
  unfold issue
  rw [same]

/-! ### Redemptions -/

section Redemptions

variable {packages : PairingPackages} {identity : Identity} {store : AccessStore}
  {ticket record : StoredPairingTicket} {grant : StoredAccessGrant} {result : PairingExchangeResult}
  {redemption : Redemption} {request : RedeemRequest}

/-- A redemption that binds a ticket. -/
structure BindsTicket (packages : PairingPackages) (identity : Identity) (store : AccessStore)
    (request : RedeemRequest) (ticket : StoredPairingTicket) (grant : StoredAccessGrant)
    (result : PairingExchangeResult) : Prop where
  unredeemed : ∃ record, store.tickets.lookup result.ticketID = some record ∧ record.grantID = "" ∧
    ticket.claims = record.claims
  drawn : randomIdentifier packages request.random.grantID "grant-" = .ok result.grantID
  new : store.grants.lookup result.grantID = none
  subject : result.subjectKeyFingerprint = fingerprint packages.toPackages request.clientPublicKey
  key : request.clientPublicKey.length = publicKeySize
  claims : ∃ bundle ticketClaims nonce,
    parsePairingBundleForExchange packages request.payload = .ok (bundle, ticketClaims) ∧
    validatePairingTicketTime ticketClaims request.now = .ok () ∧
    randomIdentifier packages request.random.nonce "" = .ok nonce ∧
    grant.claims = AccessStore.boundClaims identity ticketClaims result.subjectKeyFingerprint
      request.now result.grantID nonce
  revokedAt : grant.revokedAt = 0
  issued : issue packages.toPackages identity.privateKey grant.claims request.random.entropy =
    .ok result.grant
  receipt : result.deliveryReceipt = pairingDeliveryReceipt packages identity result.ticketID
    result.subjectKeyFingerprint result.grantID
  ticketGrantID : ticket.grantID = result.grantID
  ticketSubject : ticket.subjectKeyFingerprint = result.subjectKeyFingerprint

section

variable (h : BindsTicket packages identity store request ticket grant result) (base64 : packages.toPackages.Base64)

include h base64

/-- The grant of a redemption is signed the same way each time. -/
theorem BindsTicket.issued_again (entropy : Except String Bytes) :
    issue packages.toPackages identity.privateKey grant.claims entropy = .ok result.grant := by
  obtain ⟨_, _, nonce, -, -, drawn, claims⟩ := h.claims
  have nonempty : trimSpace grant.claims.nonce ≠ "" := by
    rw [claims]
    show trimSpace (trimSpace nonce) ≠ ""
    rw [trimSpace_trimSpace]
    exact base64.nonce_nonempty drawn
  rw [issue_entropy nonempty entropy request.random.entropy]
  exact h.issued

/-- The grant of a redemption is for the fingerprint of the client's key. -/
theorem BindsTicket.claimsSubject :
    grant.claims.subjectKeyFingerprint = result.subjectKeyFingerprint := by
  obtain ⟨_, _, _, -, -, -, claims⟩ := h.claims
  rw [claims]
  show trimSpace result.subjectKeyFingerprint = _
  rw [h.subject, base64.trimSpace_fingerprint]

end

theorem planBinding_spec {bundle : PairingBundle} {claims : PairingTicketClaims}
    {clientLabel : String} (key : request.clientPublicKey.length = publicKeySize)
    (parsed : parsePairingBundleForExchange packages request.payload = .ok (bundle, claims))
    (known : store.tickets.lookup claims.ticketID = some record) (unredeemed : record.grantID = "")
    (h : store.planBinding packages identity bundle claims record clientLabel
      (fingerprint packages.toPackages request.clientPublicKey) request = .ok redemption) :
    ∃ ticket grant result, redemption = .bind ticket grant result ∧
      BindsTicket packages identity store request ticket grant result := by
  unfold AccessStore.planBinding at h
  dsimp only at h
  split at h
  · cases h
  next inTime =>
  split at h
  · cases h
  next grantID drawn =>
  split at h
  · cases h
  next new =>
  split at h
  · cases h
  next nonce drawnNonce =>
  split at h
  · cases h
  next boundGrant issued =>
  split at h
  · cases h
  next route _ =>
  cases h
  refine ⟨_, _, _, rfl, ?_⟩
  exact {
    unredeemed := ⟨record, known, unredeemed, rfl⟩
    drawn := drawn
    new := by simpa using new
    subject := rfl
    key := key
    claims := ⟨bundle, claims, nonce, parsed, inTime, drawnNonce, rfl⟩
    revokedAt := rfl
    issued := issued
    receipt := rfl
    ticketGrantID := rfl
    ticketSubject := rfl }

/-- What a redemption does once its checks have passed. -/
theorem planRedemption_spec (h : store.planRedemption packages identity request = .ok redemption) :
    (∃ ticketID record result, redemption = .repeated result ∧
      request.clientPublicKey.length = publicKeySize ∧
      store.tickets.lookup ticketID = some record ∧ record.grantID ≠ "" ∧
      record.subjectKeyFingerprint = fingerprint packages.toPackages request.clientPublicKey ∧
      store.pairingResultFromStored packages identity record request.random.entropy = .ok result) ∨
    ∃ ticket grant result, redemption = .bind ticket grant result ∧
      BindsTicket packages identity store request ticket grant result := by
  unfold AccessStore.planRedemption at h
  split at h
  · cases h
  next key =>
  split at h
  · cases h
  split at h
  · cases h
  next bundle claims parsed =>
  split at h
  · cases h
  split at h
  · cases h
  dsimp only at h
  split at h
  · cases h
  split at h
  · cases h
  next record known =>
  split at h
  · cases h
  split at h
  · next redeemed =>
    split at h
    · cases h
    next sameSubject =>
    split at h
    · cases h
    split at h
    · cases h
    next result stored =>
    cases h
    exact .inl ⟨_, record, result, rfl, not_not.mp key, known, redeemed, not_not.mp sameSubject,
      stored⟩
  · next unredeemed =>
    exact .inr (planBinding_spec (not_not.mp key) parsed known (not_not.mp unredeemed) h)

theorem pairingResultFromStored_spec {entropy : Except String Bytes}
    (h : store.pairingResultFromStored packages identity ticket entropy = .ok result) :
    ∃ grant, store.grants.lookup ticket.grantID = some grant ∧
      issue packages.toPackages identity.privateKey grant.claims entropy = .ok result.grant ∧
      result.ticketID = ticket.claims.ticketID ∧ result.grantID = ticket.grantID ∧
      result.subjectKeyFingerprint = ticket.subjectKeyFingerprint ∧
      result.deliveryReceipt = pairingDeliveryReceipt packages identity ticket.claims.ticketID
        ticket.subjectKeyFingerprint ticket.grantID := by
  unfold AccessStore.pairingResultFromStored at h
  split at h
  · cases h
  next grant known =>
  split at h
  · cases h
  next boundGrant issued =>
  dsimp only at h
  split at h
  · cases h
  split at h
  · cases h
  split at h
  · cases h
  split at h
  · cases h
  cases h
  exact ⟨grant, known, issued, rfl, rfl, rfl, rfl⟩

end Redemptions

/-! ### Records after a change -/

namespace AccessStore

variable {store : AccessStore} {now : Time} {id other : String} {record : StoredAccessGrant}
  {added : StoredPairingTicket} {revoked : StoredAccessGrant}

theorem compactLocked_ticket {record : StoredPairingTicket}
    (h : (store.compactLocked now).tickets.lookup id = some record) :
    store.tickets.lookup id = some record := by
  have filtered : (store.compactLocked now).tickets = store.tickets.filter (!·.stale now) := rfl
  rw [filtered, SortedMap.lookup_filter] at h
  exact (Option.filter_eq_some_iff.mp h).1

theorem compactLocked_grant (h : (store.compactLocked now).grants.lookup id = some record) :
    store.grants.lookup id = some record := by
  have filtered : (store.compactLocked now).grants = store.grants.filter (!·.stale now) := rfl
  rw [filtered, SortedMap.lookup_filter] at h
  exact (Option.filter_eq_some_iff.mp h).1

theorem lookup_inserted {α : Type} {old compacted new : SortedMap String α} {value found : α}
    (inserted : new = compacted.insert other value)
    (kept : ∀ {id record}, compacted.lookup id = some record → old.lookup id = some record)
    (h : new.lookup id = some found) :
    (id = other ∧ found = value) ∨ (id ≠ other ∧ old.lookup id = some found) := by
  rw [inserted] at h
  exact (SortedMap.lookup_insert_eq_some.mp h).imp_right (And.imp_right kept)

theorem addTicket_ticket {record : StoredPairingTicket}
    (h : (store.addTicket now other added).tickets.lookup id = some record) :
    (id = other ∧ record = added) ∨ (id ≠ other ∧ store.tickets.lookup id = some record) :=
  lookup_inserted rfl compactLocked_ticket h

theorem addTicket_grant (h : (store.addTicket now other added).grants.lookup id = some record) :
    store.grants.lookup id = some record := compactLocked_grant h

theorem bindTicket_ticket {ticket record : StoredPairingTicket} {grant : StoredAccessGrant}
    {result : PairingExchangeResult}
    (h : (store.bindTicket now ticket grant result).tickets.lookup id = some record) :
    (id = result.ticketID ∧ record = ticket) ∨
      (id ≠ result.ticketID ∧ store.tickets.lookup id = some record) :=
  lookup_inserted rfl compactLocked_ticket h

theorem bindTicket_grant {ticket : StoredPairingTicket} {grant : StoredAccessGrant}
    {result : PairingExchangeResult}
    (h : (store.bindTicket now ticket grant result).grants.lookup id = some record) :
    (id = result.grantID ∧ record = grant) ∨
      (id ≠ result.grantID ∧ store.grants.lookup id = some record) :=
  lookup_inserted rfl compactLocked_grant h

theorem revokeRecord_ticket {record : StoredPairingTicket}
    (h : (store.revokeRecord now other revoked).tickets.lookup id = some record) :
    store.tickets.lookup id = some record := compactLocked_ticket h

theorem revokeRecord_grant
    (h : (store.revokeRecord now other revoked).grants.lookup id = some record) :
    (id = other ∧ record = { revoked with revokedAt := now }) ∨
      (id ≠ other ∧ store.grants.lookup id = some record) :=
  lookup_inserted rfl compactLocked_grant h

end AccessStore

/-! ### States -/

namespace Daemon

variable {packages : PairingPackages} {identity : Identity} {daemon daemon' : Daemon}
  {ticket : StoredPairingTicket} {grant : StoredAccessGrant} {result : PairingExchangeResult}
  {write : Write} {request : RedeemRequest}

/-- The state in memory is that of the last file. -/
def Published (daemon : Daemon) : Prop :=
  daemon.file.getD emptyAccessState = daemon.store.toAccessState

/-- Nothing changes, in memory or in the file. -/
def Keeps (daemon daemon' : Daemon) : Prop :=
  daemon'.store.toAccessState = daemon.store.toAccessState ∧ daemon'.file = daemon.file

/-- The state is in memory and in the file. -/
def Stores (daemon : Daemon) (state : AccessState) : Prop :=
  daemon.store.toAccessState = state ∧ daemon.file = some state

theorem Keeps.refl : Keeps daemon daemon := ⟨rfl, rfl⟩

theorem Keeps.published (h : Keeps daemon daemon') (published : daemon.Published) :
    daemon'.Published := by
  unfold Published
  rw [h.1, h.2]
  exact published

theorem Stores.published {state : AccessState} (h : daemon.Stores state) : daemon.Published := by
  unfold Published
  rw [h.1, h.2]
  rfl

theorem persist_cases {updated restored : AccessStore} {notify : Bool}
    (restores : restored.toAccessState = daemon.store.toAccessState) :
    (Keeps daemon (daemon.persist updated restored notify write).2 ∧ ∃ err, write = .failed err) ∨
      ((daemon.persist updated restored notify write).2.Stores updated.toAccessState ∧
        ∀ err, write ≠ .failed err) := by
  cases write with
  | published =>
    refine .inr ⟨⟨?_, rfl⟩, nofun⟩
    cases notify with
    | false | true => rfl
  | publishedWith err => exact .inr ⟨⟨rfl, rfl⟩, nofun⟩
  | failed err => exact .inl ⟨⟨restores, rfl⟩, err, rfl⟩

theorem reportPersist_snd {α : Type} (outcome : Option String × Daemon) (value : α) :
    (reportPersist outcome value).2 = outcome.2 := by
  unfold reportPersist
  split
  · rfl
  · rfl

/-- What is left of a change after a write that failed: the maps are restored, the rest is not. -/
def restored (store updated : AccessStore) : AccessStore :=
  { updated with toAccessState := store.toAccessState }

/-- The daemon after a ticket was added and written. -/
def addTicket (daemon : Daemon) (now : Time) (ticketID : String) (record : StoredPairingTicket)
    (write : Write) : Daemon :=
  let updated := daemon.store.addTicket now ticketID record
  (daemon.persist updated (restored daemon.store updated) (daemon.store.compacts now) write).2

/-- The daemon after a ticket was bound and written. -/
def bindTicket (daemon : Daemon) (now : Time) (ticket : StoredPairingTicket)
    (grant : StoredAccessGrant) (result : PairingExchangeResult) (write : Write) : Daemon :=
  let updated := daemon.store.bindTicket now ticket grant result
  (daemon.persist updated { restored daemon.store updated with
    clientGrants := rebuildClientGrantIndex daemon.store.grants } true write).2

/-- The daemon after a grant was revoked and written. -/
def revokeRecord (daemon : Daemon) (now : Time) (grantID : String) (record : StoredAccessGrant)
    (write : Write) : Daemon :=
  let updated := daemon.store.revokeRecord now grantID record
  (daemon.persist updated (restored daemon.store updated) true write).2

/-- The write of a change keeps the old state or stores the new one. -/
def Writes (daemon : Daemon) (write : Write) (updated : AccessStore) (daemon' : Daemon) : Prop :=
  (Keeps daemon daemon' ∧ ∃ err, write = .failed err) ∨
    (daemon'.Stores updated.toAccessState ∧ ∀ err, write ≠ .failed err)

theorem addTicket_writes (daemon : Daemon) (now : Time) (ticketID : String)
    (record : StoredPairingTicket) (write : Write) :
    daemon.Writes write (daemon.store.addTicket now ticketID record)
      (daemon.addTicket now ticketID record write) := persist_cases (by rfl)

theorem bindTicket_writes (daemon : Daemon) (now : Time) (ticket : StoredPairingTicket)
    (grant : StoredAccessGrant) (result : PairingExchangeResult) (write : Write) :
    daemon.Writes write (daemon.store.bindTicket now ticket grant result)
      (daemon.bindTicket now ticket grant result write) := persist_cases (by rfl)

theorem revokeRecord_writes (daemon : Daemon) (now : Time) (grantID : String)
    (record : StoredAccessGrant) (write : Write) :
    daemon.Writes write (daemon.store.revokeRecord now grantID record)
      (daemon.revokeRecord now grantID record write) := persist_cases (by rfl)

/-- A ticket is added, or nothing happens. -/
theorem persistPairingBundleLocked_daemon (packages : PairingPackages) (daemon : Daemon)
    (payload : Bytes) (claims : PairingTicketClaims) (accessLabel : String) (now : Time)
    (write : Write) :
    (daemon.persistPairingBundleLocked packages payload claims accessLabel now write).2 = daemon ∨
      daemon.store.tickets.lookup claims.ticketID = none ∧
        ∃ record, record.claims = claims ∧ record.grantID = "" ∧
          (daemon.persistPairingBundleLocked packages payload claims accessLabel now write).2 =
            daemon.addTicket now claims.ticketID record write := by
  unfold persistPairingBundleLocked
  split
  · exact .inl rfl
  dsimp only
  split
  · exact .inl rfl
  next label _ new =>
  rw [reportPersist_snd]
  exact .inr ⟨by simpa using new, _, rfl, rfl, rfl⟩

/-- What issuing a bundle does to the daemon. -/
def Issues (packages : PairingPackages) (identity : Identity) (daemon : Daemon)
    (options : PairingIssueOptions) (clock : Time) (random : PairingRandom) (write : Write)
    (daemon' : Daemon) : Prop :=
  daemon' = daemon ∨
    ∃ prepared, preparePairingBundle packages identity daemon.store (withClock options clock)
        random = .ok prepared ∧
      daemon.store.tickets.lookup prepared.2.2.ticketID = none ∧
      ∃ record, record.claims = prepared.2.2 ∧ record.grantID = "" ∧
        daemon' = daemon.addTicket (withClock options clock).now prepared.2.2.ticketID record write

theorem issuePairingBundle_issues (daemon : Daemon) (options : PairingIssueOptions) (clock : Time)
    (random : PairingRandom) (write : Write) :
    Issues packages identity daemon options clock random write
      (daemon.issuePairingBundle packages identity options clock random write).2 := by
  unfold issuePairingBundle
  dsimp only
  split
  · exact .inl rfl
  next bundle payload claims prepared =>
  have changed := persistPairingBundleLocked_daemon packages daemon payload claims
    (withClock options clock).accessLabel (withClock options clock).now write
  split
  all_goals
    next stored =>
    rw [stored] at changed
    exact changed.imp_right fun added => ⟨_, prepared, added⟩

theorem redeemPairingBundle_error {err : PairingError}
    (plan : daemon.store.planRedemption packages identity request = .error err) :
    daemon.redeemPairingBundle packages identity request write = (.error err, daemon) := by
  unfold redeemPairingBundle
  rw [plan]

theorem redeemPairingBundle_repeated
    (plan : daemon.store.planRedemption packages identity request = .ok (.repeated result)) :
    daemon.redeemPairingBundle packages identity request write = (.ok result, daemon) := by
  unfold redeemPairingBundle
  rw [plan]

/-- The error of a write. -/
def Write.error : Write → Option String
  | .published => none
  | .publishedWith err | .failed err => some ("persist client access store: " ++ err)

/-- A redemption that binds its ticket stores the binding unless the write fails. -/
theorem redeemPairingBundle_bind (write : Write)
    (plan : daemon.store.planRedemption packages identity request = .ok (.bind ticket grant result)) :
    (daemon.redeemPairingBundle packages identity request write).1 =
        (Write.error write).elim (.ok result) (fun err => .error (.failed err)) ∧
      (daemon.redeemPairingBundle packages identity request write).2 =
        daemon.bindTicket request.now ticket grant result write := by
  unfold redeemPairingBundle
  rw [plan]
  constructor
  · cases write <;> rfl
  · rw [reportPersist_snd]
    rfl

/-- A grant is revoked, or nothing happens. -/
theorem revokeGrant_daemon (daemon : Daemon) (grantID : String) (now : Time) (write : Write) :
    (daemon.revokeGrant grantID now write).2 = daemon ∨
      ∃ record, daemon.store.grants.lookup (trimSpace grantID) = some record ∧
        (daemon.revokeGrant grantID now write).2 =
          daemon.revokeRecord now (trimSpace grantID) record write := by
  unfold revokeGrant
  dsimp only
  split
  · exact .inl rfl
  split
  · exact .inl rfl
  split
  · exact .inl rfl
  next record known =>
  split
  · exact .inl rfl
  rw [reportPersist_snd]
  exact .inr ⟨record, known, rfl⟩

end Daemon

/-! ### Loading -/

/-- A daemon restarts with the state of its file. -/
theorem loadAccessStore_state {packages : PairingPackages} {identity : Identity}
    {log : List Signature} {entropy : Except String Bytes} {file : Option AccessState}
    {store : AccessStore} (h : loadAccessStore packages identity log entropy file = some store) :
    store.toAccessState = file.getD emptyAccessState ∧
      store.clientGrants = rebuildClientGrantIndex store.grants ∧ store.closed = false := by
  unfold loadAccessStore at h
  dsimp only at h
  split at h
  · cases h
    exact ⟨rfl, rfl, rfl⟩
  · cases h

/-! ### Claims -/

variable {packages : ClaimPackages} {identity : Identity} {world : World} {event : Event}

namespace World

/-- The ticket part of `IssuePairingClaim` changes what `IssuePairingBundle` changes. -/
theorem issueClaim_issues (call : Nat) (claim : Bytes) (options : PairingIssueOptions)
    (clock : Time) (random : PairingRandom) (bootstrap : Option (Except String Bytes))
    (write : Write) :
    ∃ daemon calls, world.issueClaim packages identity call claim options clock random bootstrap
        write = { world with
          daemon, calls
          ticketIDs := (world.drawnTicketID packages identity options clock random).toList ++
            world.ticketIDs } ∧
      Daemon.Issues packages.toPairingPackages identity world.daemon options clock random write
        daemon := by
  unfold issueClaim
  dsimp only
  split
  · exact ⟨_, _, rfl, .inl rfl⟩
  next bundle payload claims prepared =>
  split
  · exact ⟨_, _, rfl, .inl rfl⟩
  have changed := Daemon.persistPairingBundleLocked_daemon packages.toPairingPackages world.daemon
    payload claims (Daemon.withClock options clock).accessLabel (Daemon.withClock options clock).now
    write
  split
  all_goals
    next stored =>
    rw [stored] at changed
    exact ⟨_, _, rfl, changed.imp_right fun added => ⟨_, prepared, added⟩⟩

end World

/-! ### Events -/

/-- The bundle that an event issues. -/
def Event.issue : Event → Option (PairingIssueOptions × Time × PairingRandom × Write)
  | .issueBundle options clock random write | .issueClaim _ options clock random _ write =>
    some (options, clock, random, write)
  | _ => none

/-- The redemption that an event runs. -/
def Event.redemption (world : World) : Event → Option (RedeemRequest × Write)
  | .redeemBundle request write => some (request, write)
  | .redeemClaim call random managed write =>
    match world.calls call with
    | some (.resolved _ payload clientPublicKey clientLabel now) =>
      some (⟨payload, clientPublicKey, clientLabel, now, random, managed⟩, write)
    | _ => none
  | _ => none

/-- What an event can do to the daemon. -/
inductive DaemonStep (packages : ClaimPackages) (identity : Identity) (world : World) :
    Event → Daemon → Prop
  | same (event : Event) : DaemonStep packages identity world event world.daemon
  | issue {event : Event} {options : PairingIssueOptions} {clock : Time} {random : PairingRandom}
      {write : Write} {prepared : PairingBundle × Bytes × PairingTicketClaims}
      {record : StoredPairingTicket}
      (issues : event.issue = some (options, clock, random, write))
      (ok : Daemon.preparePairingBundle packages.toPairingPackages identity world.daemon.store
        (Daemon.withClock options clock) random = .ok prepared)
      (new : world.daemon.store.tickets.lookup prepared.2.2.ticketID = none)
      (claims : record.claims = prepared.2.2) (unredeemed : record.grantID = "") :
      DaemonStep packages identity world event (world.daemon.addTicket
        (Daemon.withClock options clock).now prepared.2.2.ticketID record write)
  | bind {event : Event} {request : RedeemRequest} {write : Write} {ticket : StoredPairingTicket}
      {grant : StoredAccessGrant} {result : PairingExchangeResult}
      (redeems : event.redemption world = some (request, write))
      (plan : world.daemon.store.planRedemption packages.toPairingPackages identity request =
        .ok (.bind ticket grant result))
      (binds : BindsTicket packages.toPairingPackages identity world.daemon.store request ticket
        grant result) :
      DaemonStep packages identity world event
        (world.daemon.bindTicket request.now ticket grant result write)
  | revoke {grantID : String} {now : Time} {write : Write} {record : StoredAccessGrant}
      (known : world.daemon.store.grants.lookup (trimSpace grantID) = some record) :
      DaemonStep packages identity world (.revoke grantID now write)
        (world.daemon.revokeRecord now (trimSpace grantID) record write)
  | receive : DaemonStep packages identity world .receiveChange
      { world.daemon with store := { world.daemon.store with changes := false } }
  | load {entropy : Except String Bytes} {store : AccessStore}
      (loaded : loadAccessStore packages.toPairingPackages identity world.log entropy
        world.daemon.file = some store) :
      DaemonStep packages identity world (.restart entropy) { world.daemon with store }

namespace DaemonStep

theorem of_issues {options : PairingIssueOptions} {clock : Time} {random : PairingRandom}
    {write : Write} {daemon : Daemon} (issues : event.issue = some (options, clock, random, write))
    (h : Daemon.Issues packages.toPairingPackages identity world.daemon options clock random write
      daemon) : DaemonStep packages identity world event daemon := by
  rcases h with rfl | ⟨prepared, ok, new, record, claims, unredeemed, rfl⟩
  · exact .same event
  · exact .issue issues ok new claims unredeemed

theorem of_redemption {request : RedeemRequest} {write : Write}
    (redeems : event.redemption world = some (request, write)) :
    DaemonStep packages identity world event
      (world.daemon.redeemPairingBundle packages.toPairingPackages identity request write).2 := by
  cases plan : world.daemon.store.planRedemption packages.toPairingPackages identity request with
  | error err =>
    rw [Daemon.redeemPairingBundle_error plan]
    exact .same event
  | ok redemption =>
    cases redemption with
    | repeated result =>
      rw [Daemon.redeemPairingBundle_repeated plan]
      exact .same event
    | bind ticket grant result =>
      obtain ⟨_, _, _, same, binds⟩ := (planRedemption_spec plan).resolve_left (by simp)
      cases same
      rw [(Daemon.redeemPairingBundle_bind write plan).2]
      exact .bind redeems plan binds

end DaemonStep

/-- What an event adds to the signatures and to the grant ids that were drawn. -/
inductive HistoryStep (packages : ClaimPackages) (identity : Identity) (world : World) :
    Event → List Signature → List String → Prop
  | same {event : Event} (redeems : event.redemption world = none) :
      HistoryStep packages identity world event world.log world.grantIDs
  | redeem {event : Event} {request : RedeemRequest} {write : Write}
      (redeems : event.redemption world = some (request, write)) :
      HistoryStep packages identity world event
        (signedGrants packages identity world.daemon.store request ++ world.log)
        ((World.drawnGrantID packages request.random).toList ++ world.grantIDs)
  | sign (signature : Signature) :
      HistoryStep packages identity world (.sign signature) (signature :: world.log) world.grantIDs

namespace HistoryStep

variable {log : List Signature} {grantIDs : List String}

section

variable (h : HistoryStep packages identity world event log grantIDs)

include h

theorem sub : world.log ⊆ log := by
  cases h with
  | same => exact List.Subset.refl _
  | redeem => exact subset_append_right _ _
  | sign => exact subset_cons_self _ _

theorem signed
    {request : RedeemRequest} {write : Write}
    (redeems : event.redemption world = some (request, write)) :
    signedGrants packages identity world.daemon.store request ⊆ log := by
  cases h with
  | same none => exact nomatch none.symm.trans redeems
  | redeem redeems' =>
    cases redeems'.symm.trans redeems
    exact subset_append_left _ _
  | sign => cases redeems

end

end HistoryStep

/-- Every event does one of these. -/
theorem perform_steps (packages : ClaimPackages) (identity : Identity) (world : World)
    (event : Event) :
    DaemonStep packages identity world event (world.perform packages identity event).daemon ∧
      HistoryStep packages identity world event (world.perform packages identity event).log
        (world.perform packages identity event).grantIDs := by
  cases event <;> unfold World.perform <;> dsimp only
  case issueBundle options clock random write =>
    exact ⟨.of_issues rfl (world.daemon.issuePairingBundle_issues options clock random write),
      .same rfl⟩
  case issueClaim call options clock random bootstrap write =>
    split
    · next claim _ =>
      split
      · exact ⟨.same _, .same rfl⟩
      obtain ⟨daemon, calls, same, issues⟩ := World.issueClaim_issues call claim options clock random
        bootstrap write
      rw [same]
      exact ⟨.of_issues rfl issues, .same rfl⟩
    · exact ⟨.same _, .same rfl⟩
  case redeemBundle request write => exact ⟨.of_redemption rfl, .redeem rfl⟩
  case redeemClaim call random managed write =>
    split
    · next digest payload clientPublicKey clientLabel now known =>
      have redeems : (Event.redeemClaim call random managed write).redemption world =
          some (⟨payload, clientPublicKey, clientLabel, now, random, managed⟩, write) := by
        unfold Event.redemption
        dsimp only
        rw [known]
      exact ⟨.of_redemption redeems, .redeem redeems⟩
    · next unresolved =>
      refine ⟨.same _, .same ?_⟩
      unfold Event.redemption
      dsimp only
      split
      · next known => exact absurd known (unresolved _ _ _ _ _)
      · rfl
  case revoke grantID now write =>
    refine ⟨?_, .same rfl⟩
    rcases world.daemon.revokeGrant_daemon grantID now write with same | ⟨record, known, same⟩
    · rw [same]
      exact .same _
    · rw [same]
      exact .revoke known
  case receiveChange => exact ⟨.receive, .same rfl⟩
  case sign signature => exact ⟨.same _, .sign signature⟩
  case restart entropy =>
    cases loaded : loadAccessStore packages.toPairingPackages identity world.log entropy
        world.daemon.file with
    | none => exact ⟨.same _, .same rfl⟩
    | some store => exact ⟨.load loaded, .same rfl⟩
  case reserveClaim call claim =>
    split <;> exact ⟨.same _, .same rfl⟩
  case commitClaim call | releaseClaim call | bindClaim call =>
    split <;> exact ⟨.same _, .same rfl⟩
  case resolveClaim call offerPayload clientPublicKey clientLabel now =>
    split
    · split <;> exact ⟨.same _, .same rfl⟩
    · exact ⟨.same _, .same rfl⟩

end Anytty.RemoteAuth
