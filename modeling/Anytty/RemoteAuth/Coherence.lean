import Anytty.RemoteAuth.PairingOnce

/-!
# Memory, file, index and revision of the access store

The state in memory is always that of the last published file, and a change of the client
access list always comes with a new revision. The index and the notifications are less
reliable: a compaction rebuilds the index, and neither the restoration after a failed write
nor the record that `RevokeGrant` puts back goes into it; a write that fails after
publication is not announced. `Careful` is what rules these out.
-/

namespace Anytty.RemoteAuth

open Anytty.Connection (trimSpace trimSpace_trimSpace)
open Anytty.Data

variable {subject id grantID : String} {grants : SortedMap String StoredAccessGrant}

/-! ### The index -/

/-- The index has a grant under a subject. -/
def Listed (index : ClientGrants) (subject grantID : String) : Prop :=
  (((index.lookup subject).getD .empty).lookup grantID).isSome

/-- A grant of a subject is there. -/
def Granted (grants : SortedMap String StoredAccessGrant) (subject grantID : String) : Prop :=
  ∃ record ∈ grants.lookup grantID, record.claims.subjectKeyFingerprint = subject

instance (index : ClientGrants) (subject grantID : String) :
    Decidable (Listed index subject grantID) :=
  inferInstanceAs (Decidable (Option.isSome _ = true))

instance (grants : SortedMap String StoredAccessGrant) (subject grantID : String) :
    Decidable (Granted grants subject grantID) :=
  inferInstanceAs (Decidable (∃ record ∈ grants.lookup grantID, _))

variable {index : ClientGrants}

theorem listed_indexGrant {other : String} :
    Listed (indexGrant index subject grantID) other id ↔
      (other = subject ∧ id = grantID) ∨ Listed index other id := by
  unfold Listed indexGrant
  rw [SortedMap.lookup_insert]
  by_cases same : other = subject
  · subst same
    rw [if_pos rfl, Option.getD_some, SortedMap.lookup_insert]
    by_cases sameID : id = grantID
    · simp [sameID]
    · simp [sameID]
  · simp [same]

/-- The index that is built from the grants lists exactly them. -/
theorem listed_rebuildClientGrantIndex :
    Listed (rebuildClientGrantIndex grants) subject id ↔ Granted grants subject id := by
  have fold : ∀ (entries : List (String × StoredAccessGrant)) (index : ClientGrants),
      Listed (entries.foldl (fun index entry =>
          indexGrant index entry.2.claims.subjectKeyFingerprint entry.1) index) subject id ↔
        Listed index subject id ∨
          ∃ record, (id, record) ∈ entries ∧ record.claims.subjectKeyFingerprint = subject := by
    intro entries
    induction entries with
    | nil => exact fun index => ⟨.inl, fun h => h.resolve_right fun ⟨_, mem, _⟩ => nomatch mem⟩
    | cons entry entries ih =>
      intro index
      rw [List.foldl_cons, ih, listed_indexGrant]
      constructor
      · rintro ((⟨rfl, rfl⟩ | old) | ⟨record, mem, same⟩)
        · exact .inr ⟨entry.2, List.mem_cons_self, rfl⟩
        · exact .inl old
        · exact .inr ⟨record, List.mem_cons_of_mem _ mem, same⟩
      · rintro (old | ⟨record, mem, same⟩)
        · exact .inl (.inr old)
        · rcases List.mem_cons.mp mem with rfl | later
          · exact .inl (.inl ⟨same.symm, rfl⟩)
          · exact .inr ⟨record, later, same⟩
  have none : ¬ Listed SortedMap.empty subject id := by
    unfold Listed
    simp
  unfold rebuildClientGrantIndex
  rw [fold, or_iff_right none]
  unfold Granted
  simp [SortedMap.lookup_eq_some]

/-- Every grant in the index is there. -/
def IndexSound (grants : SortedMap String StoredAccessGrant) (index : ClientGrants) : Prop :=
  ∀ subject id, Listed index subject id → Granted grants subject id

/-- The index lists exactly the grants. -/
def IndexExact (grants : SortedMap String StoredAccessGrant) (index : ClientGrants) : Prop :=
  ∀ subject id, Listed index subject id ↔ Granted grants subject id

theorem rebuildClientGrantIndex_exact (grants : SortedMap String StoredAccessGrant) :
    IndexExact grants (rebuildClientGrantIndex grants) :=
  fun _ _ => listed_rebuildClientGrantIndex

theorem IndexExact.sound (h : IndexExact grants index) :
    IndexSound grants index := fun subject id => (h subject id).mp

theorem granted_insert {record : StoredAccessGrant} :
    Granted (grants.insert grantID record) subject id ↔
      (id = grantID ∧ record.claims.subjectKeyFingerprint = subject) ∨
        (id ≠ grantID ∧ Granted grants subject id) := by
  unfold Granted
  simp only [Option.mem_def, SortedMap.lookup_insert_eq_some]
  constructor
  · rintro ⟨_, ⟨rfl, rfl⟩ | ⟨ne, known⟩, same⟩
    · exact .inl ⟨rfl, same⟩
    · exact .inr ⟨ne, _, known, same⟩
  · rintro (⟨rfl, same⟩ | ⟨ne, _, known, same⟩)
    · exact ⟨record, .inl ⟨rfl, rfl⟩, same⟩
    · exact ⟨_, .inr ⟨ne, known⟩, same⟩

/-! ### Changes of the index -/

namespace AccessStore

variable {store : AccessStore} {now : Time}

theorem compactLocked_keeps (drops : store.compacts now = false) :
    (store.compactLocked now).grants = store.grants := by
  refine SortedMap.ext (List.filter_eq_self.mpr fun entry mem => ?_)
  rw [Bool.not_eq_true']
  exact Bool.eq_false_iff.mpr (List.any_eq_false.mp drops entry mem)

/-- A compaction builds the index anew or changes nothing. -/
theorem compactLocked_index (store : AccessStore) (now : Time) :
    (store.compactLocked now).clientGrants =
        rebuildClientGrantIndex (store.compactLocked now).grants ∨
      store.compacts now = false ∧ (store.compactLocked now).clientGrants = store.clientGrants ∧
        (store.compactLocked now).grants = store.grants := by
  cases drops : store.compacts now with
  | true =>
    refine .inl ?_
    unfold compactLocked
    dsimp only
    rw [if_pos drops]
  | false =>
    refine .inr ⟨rfl, ?_, compactLocked_keeps drops⟩
    unfold compactLocked
    dsimp only
    rw [if_neg (by rw [drops]; exact Bool.false_ne_true)]

theorem compactLocked_exact (h : IndexExact store.grants store.clientGrants) :
    IndexExact (store.compactLocked now).grants (store.compactLocked now).clientGrants := by
  rcases store.compactLocked_index now with rebuilt | ⟨-, index, grants⟩
  · rw [rebuilt]
    exact rebuildClientGrantIndex_exact _
  · rw [index, grants]
    exact h

theorem compactLocked_sound (h : IndexSound store.grants store.clientGrants) :
    IndexSound (store.compactLocked now).grants (store.compactLocked now).clientGrants := by
  rcases store.compactLocked_index now with rebuilt | ⟨-, index, grants⟩
  · rw [rebuilt]
    exact (rebuildClientGrantIndex_exact _).sound
  · rw [index, grants]
    exact h

theorem compactLocked_granted
    (h : Granted (store.compactLocked now).grants subject id) : Granted store.grants subject id :=
  let ⟨record, known, same⟩ := h
  ⟨record, compactLocked_grant known, same⟩

section Bind

variable {ticket : StoredPairingTicket} {grant : StoredAccessGrant} {result : PairingExchangeResult}

theorem bindTicket_sound (h : IndexSound store.grants store.clientGrants)
    (new : store.grants.lookup result.grantID = none)
    (subject : grant.claims.subjectKeyFingerprint = result.subjectKeyFingerprint) :
    IndexSound (store.bindTicket now ticket grant result).grants
      (store.bindTicket now ticket grant result).clientGrants := by
  intro other id listed
  refine granted_insert.mpr ?_
  rcases listed_indexGrant.mp listed with ⟨rfl, rfl⟩ | old
  · exact .inl ⟨rfl, subject⟩
  have granted := compactLocked_sound h other id old
  refine .inr ⟨fun same => ?_, granted⟩
  obtain ⟨record, known, -⟩ := compactLocked_granted granted
  rw [same, new] at known
  cases known

theorem bindTicket_exact (h : IndexExact store.grants store.clientGrants)
    (new : store.grants.lookup result.grantID = none)
    (subject : grant.claims.subjectKeyFingerprint = result.subjectKeyFingerprint) :
    IndexExact (store.bindTicket now ticket grant result).grants
      (store.bindTicket now ticket grant result).clientGrants := by
  refine fun other id => ⟨bindTicket_sound h.sound new subject other id, fun granted => ?_⟩
  refine listed_indexGrant.mpr ?_
  rcases granted_insert.mp granted with ⟨rfl, same⟩ | ⟨-, old⟩
  · exact .inl ⟨same.symm.trans subject, rfl⟩
  · exact .inr ((compactLocked_exact h other id).mpr old)

end Bind

section Revoke

variable {grantID : String} {record : StoredAccessGrant}

theorem revokeRecord_sound (h : IndexSound store.grants store.clientGrants)
    (known : store.grants.lookup grantID = some record) :
    IndexSound (store.revokeRecord now grantID record).grants
      (store.revokeRecord now grantID record).clientGrants := by
  intro subject id listed
  have granted : Granted (store.compactLocked now).grants subject id :=
    compactLocked_sound h subject id listed
  refine granted_insert.mpr ?_
  by_cases same : id = grantID
  · obtain ⟨found, kept, owner⟩ := compactLocked_granted granted
    rw [same, known] at kept
    cases kept
    exact .inl ⟨same, owner⟩
  · exact .inr ⟨same, granted⟩

/-- The index stays exact if the compaction keeps the grant that is revoked. -/
theorem revokeRecord_exact (h : IndexExact store.grants store.clientGrants)
    (known : store.grants.lookup grantID = some record) (kept : record.stale now = false) :
    IndexExact (store.revokeRecord now grantID record).grants
      (store.revokeRecord now grantID record).clientGrants := by
  refine fun subject id => ⟨revokeRecord_sound h.sound known subject id, fun granted => ?_⟩
  refine (compactLocked_exact h subject id).mpr ?_
  rcases granted_insert.mp granted with ⟨rfl, same⟩ | ⟨-, old⟩
  · refine ⟨record, ?_, same⟩
    have filtered : (store.compactLocked now).grants = store.grants.filter (!·.stale now) := rfl
    rw [filtered, SortedMap.lookup_filter, known]
    exact Option.filter_some_pos (by rw [kept]; rfl)
  · exact old

end Revoke

end AccessStore

/-! ### Steps -/

/-- The event makes no change that is announced to nobody, and compacts no grant that it has to put
back. -/
def Careful (world : World) : Event → Prop
  | .issueBundle options clock _ write | .issueClaim _ options clock _ _ write =>
    world.daemon.store.compacts (Daemon.withClock options clock).now = true → write = .published
  | .redeemBundle _ write | .redeemClaim _ _ _ write => ∀ err, write ≠ .publishedWith err
  | .revoke grantID now write => (∀ err, write ≠ .publishedWith err) ∧
    (world.daemon.store.compacts now = true → write = .published) ∧
    ∀ record ∈ world.daemon.store.grants.lookup (trimSpace grantID), record.stale now = false
  | _ => True

open Daemon

theorem Careful.issue {world : World} {event : Event} {options : PairingIssueOptions} {clock : Time}
    {random : PairingRandom} {write : Write} (h : Careful world event)
    (issues : event.issue = some (options, clock, random, write)) :
    world.daemon.store.compacts (withClock options clock).now = true →
      write = .published := by
  cases event with
  | issueBundle | issueClaim =>
    cases issues
    exact h
  | _ => cases issues

theorem Careful.redemption {world : World} {event : Event} {request : RedeemRequest} {write : Write}
    (h : Careful world event) (redeems : event.redemption world = some (request, write)) :
    ∀ err, write ≠ .publishedWith err := by
  cases event with
  | redeemBundle =>
    cases redeems
    exact h
  | redeemClaim =>
    unfold Event.redemption at redeems
    dsimp only at redeems
    split at redeems
    · cases redeems
      exact h
    · cases redeems
  | _ => cases redeems

/-- A revision for each change of the grants. -/
def Revised (store store' : AccessStore) : Prop :=
  store'.grants ≠ store.grants → store.accessProjectionRevision < store'.accessProjectionRevision

/-- A notification for each change of the grants. -/
def Notified (store store' : AccessStore) : Prop :=
  store'.grants ≠ store.grants → store'.changes = true

namespace Daemon

variable {daemon : Daemon} {updated restored : AccessStore} {notify : Bool} {write : Write}

open AccessState

section

variable (restores : restored.toAccessState = daemon.store.toAccessState)

include restores

theorem persist_revised
    (revised : Revised daemon.store updated) :
    Revised daemon.store (daemon.persist updated restored notify write).2.store := by
  intro changed
  rcases persist_cases restores with ⟨kept, -⟩ | ⟨stored, -⟩
  · exact absurd (congrArg grants kept.1) changed
  rw [congrArg grants stored.1] at changed
  rw [congrArg accessProjectionRevision stored.1]
  exact revised changed

theorem persist_notified
    (announced : updated.grants ≠ daemon.store.grants → notify = true ∧
      ∀ err, write ≠ .publishedWith err) :
    Notified daemon.store (daemon.persist updated restored notify write).2.store := by
  intro changed
  cases write with
  | published =>
    cases notify with
    | true => rfl
    | false => exact absurd (announced changed).1 Bool.false_ne_true
  | publishedWith err => exact absurd rfl ((announced changed).2 err)
  | failed err => exact absurd (congrArg grants restores) changed

end

theorem persist_index {P : SortedMap String StoredAccessGrant → ClientGrants → Prop}
    (stored : P updated.grants updated.clientGrants)
    (kept : (∃ err, write = .failed err) → P restored.grants restored.clientGrants) :
    P (daemon.persist updated restored notify write).2.store.grants
      (daemon.persist updated restored notify write).2.store.clientGrants := by
  cases write with
  | published =>
    cases notify with
    | true | false => exact stored
  | publishedWith err => exact stored
  | failed err => exact kept ⟨err, rfl⟩

theorem persist_closed (same : updated.closed = daemon.store.closed)
    (same' : restored.closed = daemon.store.closed) :
    (daemon.persist updated restored notify write).2.store.closed = daemon.store.closed := by
  cases write with
  | published =>
    cases notify with
    | true | false => exact same
  | publishedWith err => exact same
  | failed err => exact same'

end Daemon

variable {packages : ClaimPackages} {identity : Identity} {world : World}

namespace DaemonStep

variable {event : Event} {daemon : Daemon}

section

variable (h : DaemonStep packages identity world event daemon)
include h

theorem published (published : world.daemon.Published) : daemon.Published := by
  have writes : ∀ {write updated daemon'}, world.daemon.Writes write updated daemon' →
      daemon'.Published := fun h => h.elim (fun kept => kept.1.published published)
    fun stored => stored.1.published
  cases h with
  | same | receive => exact published
  | issue => exact writes (addTicket_writes ..)
  | bind => exact writes (bindTicket_writes ..)
  | revoke => exact writes (revokeRecord_writes ..)
  | load loaded => exact (loadAccessStore_state loaded).1.symm

theorem isOpen (isOpen : world.daemon.store.closed = false) : daemon.store.closed = false := by
  cases h with
  | same | receive => exact isOpen
  | issue | bind | revoke => exact (persist_closed (by rfl) (by rfl)).trans isOpen
  | load loaded => exact (loadAccessStore_state loaded).2.2

open AccessStore

theorem revised (published : world.daemon.Published) : Revised world.daemon.store daemon.store := by
  cases h with
  | same | receive => exact absurd rfl
  | issue =>
    refine persist_revised (by rfl) fun changed => ?_
    cases drops : world.daemon.store.compacts _ with
    | true => exact Nat.lt_add_of_pos_right (by rw [drops]; decide)
    | false => exact absurd (compactLocked_keeps drops) changed
  | bind | revoke => exact persist_revised (by rfl) fun _ => Nat.lt_succ_self _
  | load loaded =>
    have state := (loadAccessStore_state loaded).1.trans published
    exact absurd (congrArg AccessState.grants state)

theorem notified (careful : Careful world event) (published : world.daemon.Published) :
    Notified world.daemon.store daemon.store := by
  cases h with
  | same | receive => exact absurd rfl
  | issue issues =>
    refine persist_notified (by rfl) fun changed => ?_
    cases drops : world.daemon.store.compacts _ with
    | true =>
      refine ⟨rfl, ?_⟩
      rw [careful.issue issues drops]
      exact nofun
    | false => exact absurd (compactLocked_keeps drops) changed
  | bind redeems =>
    exact persist_notified (by rfl) fun _ => ⟨rfl, careful.redemption redeems⟩
  | revoke => exact persist_notified (by rfl) fun _ => ⟨rfl, careful.1⟩
  | load loaded =>
    have state := (loadAccessStore_state loaded).1.trans published
    exact absurd (congrArg AccessState.grants state)

end

/-- Restoring the maps keeps an exact index if the compaction dropped no grant. -/
theorem restored_exact {now : Time} {write : Write}
    (h : IndexExact world.daemon.store.grants world.daemon.store.clientGrants)
    (careful : world.daemon.store.compacts now = true → write = .published)
    (failed : ∃ err, write = .failed err) :
    IndexExact world.daemon.store.grants (world.daemon.store.compactLocked now).clientGrants := by
  obtain ⟨err, rfl⟩ := failed
  rcases world.daemon.store.compactLocked_index now with rebuilt | ⟨-, index, -⟩
  · cases drops : world.daemon.store.compacts now with
    | true => exact nomatch careful drops
    | false =>
      rw [rebuilt, AccessStore.compactLocked_keeps drops]
      exact rebuildClientGrantIndex_exact _
  · rw [index]
    exact h

/-- An index that was built over fewer grants. -/
theorem restored_sound {now : Time}
    (h : IndexSound world.daemon.store.grants world.daemon.store.clientGrants) :
    IndexSound world.daemon.store.grants (world.daemon.store.compactLocked now).clientGrants :=
  fun subject id listed =>
    AccessStore.compactLocked_granted (AccessStore.compactLocked_sound h subject id listed)

section

variable (base64 : packages.toPackages.Base64) (h : DaemonStep packages identity world event daemon)

include base64 h

/-- The index lists no grant that is not there, whatever fails. -/
theorem sound
    (sound : IndexSound world.daemon.store.grants world.daemon.store.clientGrants) :
    IndexSound daemon.store.grants daemon.store.clientGrants := by
  cases h with
  | same | receive => exact sound
  | issue =>
    exact Daemon.persist_index (AccessStore.compactLocked_sound sound) fun _ => restored_sound sound
  | bind _ _ binds =>
    exact persist_index
      (AccessStore.bindTicket_sound sound binds.new (binds.claimsSubject base64))
      fun _ => (rebuildClientGrantIndex_exact _).sound
  | revoke known =>
    exact Daemon.persist_index (AccessStore.revokeRecord_sound sound known)
      fun _ => restored_sound sound
  | load loaded =>
    rw [(loadAccessStore_state loaded).2.1]
    exact (rebuildClientGrantIndex_exact _).sound

theorem exact (careful : Careful world event)
    (exact : IndexExact world.daemon.store.grants world.daemon.store.clientGrants) :
    IndexExact daemon.store.grants daemon.store.clientGrants := by
  cases h with
  | same | receive => exact exact
  | issue issues =>
    exact Daemon.persist_index (AccessStore.compactLocked_exact exact)
      (restored_exact exact (careful.issue issues))
  | bind _ _ binds =>
    exact persist_index
      (AccessStore.bindTicket_exact exact binds.new (binds.claimsSubject base64))
      fun _ => rebuildClientGrantIndex_exact _
  | revoke known =>
    exact persist_index
      (AccessStore.revokeRecord_exact exact known (careful.2.2 _ (Option.mem_def.mpr known)))
      (restored_exact exact careful.2.1)
  | load loaded =>
    rw [(loadAccessStore_state loaded).2.1]
    exact rebuildClientGrantIndex_exact _

end

end DaemonStep

/-! ### Runs -/

section Runs

variable {allowed : World → Event → Prop}

/-- In every run the daemon is open and its state is that of the last file. -/
theorem published_run (run : Reachable packages identity allowed world) :
    world.daemon.Published ∧ world.daemon.store.closed = false := by
  induction run with
  | refl => exact ⟨rfl, rfl⟩
  | @tail before _ _ step ih =>
    obtain ⟨event, -, rfl⟩ := step
    have change := (perform_steps packages identity before event).1
    exact ⟨change.published ih.1, change.isOpen ih.2⟩

theorem sound_run (base64 : packages.toPackages.Base64)
    (run : Reachable packages identity allowed world) :
    IndexSound world.daemon.store.grants world.daemon.store.clientGrants := by
  induction run with
  | refl => exact (rebuildClientGrantIndex_exact .empty).sound
  | tail _ step ih =>
    obtain ⟨event, -, rfl⟩ := step
    exact (perform_steps packages identity _ event).1.sound base64 ih

theorem exact_run (base64 : packages.toPackages.Base64)
    (run : Reachable packages identity Careful world) :
    IndexExact world.daemon.store.grants world.daemon.store.clientGrants := by
  induction run with
  | refl => exact rebuildClientGrantIndex_exact .empty
  | tail _ step ih =>
    obtain ⟨event, careful, rfl⟩ := step
    exact (perform_steps packages identity _ event).1.exact base64 careful ih

/-- The client access list of an open store changes with its grants. -/
theorem listClientAccess_changed {store store' : AccessStore} (isOpen : store.closed = false)
    (isOpen' : store'.closed = false)
    (changed : store'.listClientAccess ≠ store.listClientAccess) : store'.grants ≠ store.grants := by
  intro same
  refine changed ?_
  unfold AccessStore.listClientAccess
  rw [isOpen, isOpen', same]

/-- In every run the state in memory is that of the last published file, and a change of the
client access list comes with a new revision. In a run of careful events the index is exact too,
and each change of the list is announced. -/
theorem access_store_coherent (base64 : packages.toPackages.Base64) :
    (∀ world, Reachable packages identity (fun _ _ => True) world →
      world.daemon.file.getD emptyAccessState = world.daemon.store.toAccessState ∧
      ∀ event, (world.perform packages identity event).daemon.store.listClientAccess ≠
          world.daemon.store.listClientAccess →
        world.daemon.store.accessProjectionRevision <
          (world.perform packages identity event).daemon.store.accessProjectionRevision) ∧
    (∀ world, Reachable packages identity Careful world →
      (∀ subject id, Listed world.daemon.store.clientGrants subject id ↔
        Granted world.daemon.store.grants subject id) ∧
      ∀ event, Careful world event →
        (world.perform packages identity event).daemon.store.listClientAccess ≠
          world.daemon.store.listClientAccess →
        (world.perform packages identity event).daemon.store.changes = true) := by
  constructor
  · intro world run
    obtain ⟨published, isOpen⟩ := published_run run
    refine ⟨published, fun event changed => ?_⟩
    have change := (perform_steps packages identity world event).1
    exact change.revised published (listClientAccess_changed isOpen (change.isOpen isOpen) changed)
  · intro world run
    obtain ⟨published, isOpen⟩ := published_run run
    refine ⟨exact_run base64 run, fun event careful changed => ?_⟩
    have change := (perform_steps packages identity world event).1
    exact change.notified careful published
      (listClientAccess_changed isOpen (change.isOpen isOpen) changed)

/-- The sample ticket is redeemed, and its grant is revoked within its lifetime. -/
theorem access_store_coherent_sample :
    ∃ world, Reachable writingPackages sampleIdentity Careful world ∧
      (∃ record ∈ world.daemon.store.listClientAccess, record.revokedAt ≠ 0) ∧
      ∀ subject id, Listed world.daemon.store.clientGrants subject id ↔
        Granted world.daemon.store.grants subject id := by
  have start : Reachable writingPackages sampleIdentity Careful initialWorld := .refl
  have issued := start.tail ⟨sampleIssue (unixEpoch + second) .published, fun _ => rfl, rfl⟩
  have redeemed := issued.tail ⟨sampleRedeem 7 (unixEpoch + 3 * second) .published, nofun, rfl⟩
  have revoked := redeemed.tail ⟨.revoke ("grant-" ++ sampleBase64 (List.replicate 18 7))
    (unixEpoch + 4 * second) .published, ⟨nofun, fun _ => rfl, by decide +kernel⟩, rfl⟩
  exact ⟨_, revoked, by decide +kernel,
    ((access_store_coherent (samplePackages_base64 _ _)).2 _ revoked).1⟩

/-- A grant that is revoked long after it expired is in the store and not in the index. A
redemption whose write fails after publication changes the client access list, and announces
nothing. -/
theorem access_store_incoherent :
    (∃ world, Reachable writingPackages sampleIdentity (fun _ _ => True) world ∧
      ∃ subject id, Granted world.daemon.store.grants subject id ∧
        ¬ Listed world.daemon.store.clientGrants subject id) ∧
    ∃ world event, Reachable writingPackages sampleIdentity (fun _ _ => True) world ∧
      (world.perform writingPackages sampleIdentity event).daemon.store.listClientAccess ≠
        world.daemon.store.listClientAccess ∧
      (world.perform writingPackages sampleIdentity event).daemon.store.changes = false := by
  have start : Reachable writingPackages sampleIdentity (fun _ _ => True) initialWorld := .refl
  have issued := start.tail ⟨sampleIssue (unixEpoch + second) .published, trivial, rfl⟩
  have redeemed := issued.tail ⟨sampleRedeem 7 (unixEpoch + 3 * second) .published, trivial, rfl⟩
  have revoked := redeemed.tail ⟨.revoke ("grant-" ++ sampleBase64 (List.replicate 18 7))
    (unixEpoch + 31 * 24 * hour) .published, trivial, rfl⟩
  refine ⟨⟨_, revoked, fingerprint writingPackages.toPackages (List.replicate 32 9),
    "grant-" ++ sampleBase64 (List.replicate 18 7), by decide +kernel, by decide +kernel⟩, ?_⟩
  exact ⟨_, sampleRedeem 7 (unixEpoch + 3 * second) (.publishedWith "sync directory"), issued,
    by decide +kernel, by decide +kernel⟩

/-- No event, failed write or restart changes the claims of a grant that stays stored, or makes a
revoked grant active again. -/
theorem stored_grant_fixed (run : Reachable packages identity allowed world) (event : Event)
    {id : String} {old new : StoredAccessGrant}
    (known : world.daemon.store.grants.lookup id = some old)
    (kept : (world.perform packages identity event).daemon.store.grants.lookup id = some new) :
    new.claims = old.claims ∧ (old.revokedAt ≠ 0 → new = old) := by
  suffices world.daemon.store.grants.lookup id = some new ∨
      new.claims = old.claims ∧ old.revokedAt = 0 by
    rcases this with same | ⟨same, active⟩
    · cases same.symm.trans known
      exact ⟨rfl, fun _ => rfl⟩
    · exact ⟨same, absurd active⟩
  have change := (perform_steps packages identity world event).1
  generalize after : (world.perform packages identity event).daemon = daemon at change kept
  have writes {write updated} (h : world.daemon.Writes write updated daemon) :
      world.daemon.store.grants.lookup id = some new ∨ updated.grants.lookup id = some new := by
    rcases h with ⟨⟨state, -⟩, -⟩ | ⟨⟨state, -⟩, -⟩
    · exact .inl (state ▸ kept)
    · exact .inr (state ▸ kept)
  cases change with
  | same | receive => exact .inl kept
  | issue => exact .inl ((writes (addTicket_writes ..)).elim (·) AccessStore.addTicket_grant)
  | bind _ _ binds =>
    refine (writes (bindTicket_writes ..)).elim .inl fun stored => ?_
    rcases AccessStore.bindTicket_grant stored with ⟨rfl, -⟩ | ⟨-, same⟩
    · cases binds.new.symm.trans known
    · exact .inl same
  | revoke found =>
    refine (writes (revokeRecord_writes ..)).elim .inl fun stored => ?_
    rcases AccessStore.revokeRecord_grant stored with ⟨rfl, rfl⟩ | ⟨-, same⟩
    · cases found.symm.trans known
      by_cases active : old.revokedAt = 0
      · exact .inr ⟨rfl, active⟩
      -- A grant that is revoked already is left alone.
      rw [← after, World.perform, Daemon.revokeGrant] at kept
      simp only [found, if_pos active] at kept
      split_ifs at kept <;> exact .inl kept
    · exact .inl same
  | load loaded =>
    rw [(loadAccessStore_state loaded).1, (published_run run).1] at kept
    exact .inl kept

end Runs

end Anytty.RemoteAuth
