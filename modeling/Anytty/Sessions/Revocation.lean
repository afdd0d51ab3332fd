import Anytty.Sessions.Registry

/-!
# Revoked grants keep no session

In every run the groups hold exactly the entries that were not released, expired or taken by a
`CloseGrant`, a `CloseGrant` closes connections of its own grant only, and a revoked grant gets no
new entry (`Sound`). An expiry callback that has fired is not held up by the `Stop` of its timer,
so it may close a connection that a `CloseGrant` closes as well; and a `CloseGrant` does not wait
for the connections that others have taken out of the registry. `Careful` rules these two out.
-/

namespace Anytty.Sessions

open List Finset Function SessionEntry Data

open Anytty.Connection (trimSpace)

namespace Registry

theorem members_removeEntry (registry : Registry) (grantID : String) (id : Nat) (other : String) :
    ((registry.removeEntry grantID id other).getD ∅) =
      if other = grantID then (registry.members grantID).erase id else registry.members other := by
  unfold removeEntry members
  cases known : registry.byGrant grantID with
  | none =>
    by_cases same : other = grantID
    · rw [if_pos same, same]
      show (registry.byGrant grantID).getD ∅ = _
      rw [known]
      rfl
    · rw [if_neg same]
  | some group =>
    by_cases same : other = grantID
    · rw [same]
      simp only [update_self, Option.getD_some]
      split
      · next empty => exact empty.symm
      · rfl
    · rw [if_neg same]
      simp only [update_of_ne same]

theorem of_take {registry : Registry} {group : Finset Nat} {id : Nat} {entry : SessionEntry}
    (found : (registry.entries id).map (fun entry =>
      if id ∈ group then { entry with taken := true } else entry) = some entry) :
    (id ∈ group ∧ ∃ old, registry.entries id = some old ∧ entry = { old with taken := true }) ∨
      (id ∉ group ∧ registry.entries id = some entry) := by
  obtain ⟨old, known, rfl⟩ := Option.map_eq_some_iff.1 found
  split
  · next mem => exact .inl ⟨mem, old, known, rfl⟩
  · next out => exact .inr ⟨out, known⟩

end Registry

/-- The entry is out of the registry. -/
def SessionEntry.removed (entry : SessionEntry) : Bool :=
  entry.released || entry.expired || entry.taken

/-- The events that change a registry, with what they find in it. -/
inductive Step (registry : Registry) : Event → Registry → Prop
  | refuse {call grantID connection expires} : trimSpace grantID ∈ registry.revoked →
      registry.calls call = none →
      Step registry (.track call grantID (some connection) expires) { registry with
        calls := update registry.calls call
          (some (.refusing (trimSpace grantID) connection)) }
  | track {call grantID connection expires} : trimSpace grantID ≠ "" →
      trimSpace grantID ∉ registry.revoked →
      Step registry (.track call grantID (some connection) expires) { registry with
        byGrant := update registry.byGrant (trimSpace grantID)
          (some (insert registry.nextEntry (registry.members (trimSpace grantID))))
        entries := registry.setEntry registry.nextEntry
          { grantID := trimSpace grantID, connection, timer := if expires then .armed else .none }
        nextEntry := registry.nextEntry + 1 }
  | closeRefused {call grantID connection} :
      registry.calls call = some (.refusing grantID connection) →
      Step registry (.closeRefused call) { registry with
        calls := update registry.calls call none
        refused := (grantID, connection) :: registry.refused }
  | release {id entry} : registry.entries id = some entry → entry.released = false →
      Step registry (.release id) { registry with
        byGrant := registry.removeEntry entry.grantID id
        entries := registry.setEntry id { entry with released := true, timer := entry.timer.stop } }
  | fire {id entry} : registry.entries id = some entry → entry.timer = .armed →
      Step registry (.fire id) { registry with
        entries := registry.setEntry id { entry with timer := .fired } }
  | expire {id entry} : registry.entries id = some entry → entry.timer = .fired →
      Step registry (.expire id) { registry with
        byGrant := registry.removeEntry entry.grantID id
        entries := registry.setEntry id { entry with timer := .closing, expired := true } }
  | closeExpired {id entry} : registry.entries id = some entry → entry.timer = .closing →
      Step registry (.closeExpired id) { registry with
        entries := registry.setEntry id { entry with timer := .ended }
        closes := ⟨id, none⟩ :: registry.closes }
  | closeBlank {call grantID order} : trimSpace grantID = "" →
      Step registry (.closeGrant call grantID order) { registry with
        returned := "" :: registry.returned }
  | closeGrant {call grantID order} : registry.calls call = none → order.Nodup →
      order.toFinset = registry.members (trimSpace grantID) →
      Step registry (.closeGrant call grantID order) { registry with
        byGrant := update registry.byGrant (trimSpace grantID) none
        revoked := insert (trimSpace grantID) registry.revoked
        entries := fun id => (registry.entries id).map fun entry =>
          if id ∈ registry.members (trimSpace grantID) then { entry with taken := true } else entry
        calls := update registry.calls call
          (some (.closing (trimSpace grantID) false order)) }
  | stopTimer {call grantID id pending entry} :
      registry.calls call = some (.closing grantID false (id :: pending)) →
      registry.entries id = some entry →
      Step registry (.stopTimer call) { registry with
        entries := registry.setEntry id { entry with timer := entry.timer.stop }
        calls := update registry.calls call (some (.closing grantID true (id :: pending))) }
  | closeNext {call grantID id pending} :
      registry.calls call = some (.closing grantID true (id :: pending)) →
      Step registry (.closeNext call) { registry with
        calls := update registry.calls call (some (.closing grantID false pending))
        closes := ⟨id, some grantID⟩ :: registry.closes }
  | returnCloseGrant {call grantID stopped} :
      registry.calls call = some (.closing grantID stopped []) →
      Step registry (.returnCloseGrant call) { registry with
        calls := update registry.calls call none
        returned := grantID :: registry.returned }

open Registry

theorem Registry.perform_step (registry : Registry) (event : Event) :
    registry.perform event = registry ∨ Step registry event (registry.perform event) := by
  cases event <;> unfold perform <;> dsimp only
  case track call grantID connection expires =>
    split
    · next idle =>
      split
      · exact .inl rfl
      next named =>
      split
      · next revoked => exact .inr (.refuse revoked idle)
      · next live => exact .inr (.track named live)
    · exact .inl rfl
  case closeRefused call =>
    split
    · next known => exact .inr (.closeRefused known)
    · exact .inl rfl
  case release id =>
    split
    · next known =>
      split
      · exact .inl rfl
      · next unreleased => exact .inr (.release known (Bool.eq_false_of_not_eq_true unreleased))
    · exact .inl rfl
  case fire id =>
    split
    · next known =>
      split
      · next armed => exact .inr (.fire known armed)
      · exact .inl rfl
    · exact .inl rfl
  case expire id =>
    split
    · next known =>
      split
      · next fired => exact .inr (.expire known fired)
      · exact .inl rfl
    · exact .inl rfl
  case closeExpired id =>
    split
    · next known =>
      split
      · next closing => exact .inr (.closeExpired known closing)
      · exact .inl rfl
    · exact .inl rfl
  case closeGrant call grantID order =>
    split
    · next blank => exact .inr (.closeBlank blank)
    split
    · exact .inl rfl
    next fits =>
    simp only [not_or, Option.not_isSome_iff_eq_none, not_not] at fits
    obtain ⟨idle, nodup, whole⟩ := fits
    exact .inr (.closeGrant idle nodup whole)
  case stopTimer call =>
    split
    · next known =>
      split
      · next found => exact .inr (.stopTimer known found)
      · exact .inl rfl
    · exact .inl rfl
  case closeNext call =>
    split
    · next known => exact .inr (.closeNext known)
    · exact .inl rfl
  case returnCloseGrant call =>
    split
    · next known => exact .inr (.returnCloseGrant known)
    · exact .inl rfl

/-! ### What holds in every run -/

structure Sound (registry : Registry) : Prop where
  fresh : ∀ id, registry.nextEntry ≤ id → registry.entries id = none
  named : ∀ id entry, registry.entries id = some entry → entry.grantID ≠ ""
  exact : ∀ grantID id, id ∈ registry.members grantID ↔
    ∃ entry, registry.entries id = some entry ∧ entry.grantID = grantID ∧ entry.removed = false
  revoked : ∀ grantID ∈ registry.revoked, registry.members grantID = ∅
  returned : ∀ grantID ∈ registry.returned, grantID ≠ "" → grantID ∈ registry.revoked
  pending : ∀ call grantID stopped pending,
    registry.calls call = some (.closing grantID stopped pending) → grantID ∈ registry.revoked ∧
      ∀ id ∈ pending, ∃ entry, registry.entries id = some entry ∧ entry.grantID = grantID ∧
        entry.taken = true
  expired : ∀ id entry, registry.entries id = some entry →
    (entry.expired = true ↔ entry.timer = .closing ∨ entry.timer = .ended)
  closes : ∀ close ∈ registry.closes, ∃ entry, registry.entries close.entry = some entry ∧
    (entry.taken = true ∨ entry.expired = true) ∧
    ∀ grantID, close.closedGrant = some grantID → entry.grantID = grantID

/-- A later state of an entry. -/
structure SessionEntry.Follows (new old : SessionEntry) : Prop where
  grantID : new.grantID = old.grantID
  taken : old.taken = true → new.taken = true
  expired : old.expired = true → new.expired = true

theorem SessionEntry.Follows.refl (entry : SessionEntry) : entry.Follows entry :=
  ⟨rfl, fun taken => taken, fun expired => expired⟩

theorem SessionEntry.removed_of_taken {entry : SessionEntry} (taken : entry.taken = true) :
    entry.removed = true := by
  unfold removed
  rw [taken, Bool.or_true]

theorem SessionEntry.removed_eq_false {entry : SessionEntry} : entry.removed = false ↔
    entry.released = false ∧ entry.expired = false ∧ entry.taken = false := by
  unfold removed
  rw [Bool.or_eq_false_iff, Bool.or_eq_false_iff, and_assoc]

@[simp] theorem Timer.stop_eq_closing (timer : Timer) : timer.stop = .closing ↔ timer = .closing := by
  cases timer <;> decide

@[simp] theorem Timer.stop_eq_ended (timer : Timer) : timer.stop = .ended ↔ timer = .ended := by
  cases timer <;> decide

namespace Sound

variable {registry : Registry} {id call connection : Nat} {entry old : SessionEntry}
  {grantID : String} {timer : Timer}

theorem initial : Sound newRegistry where
  fresh := fun _ _ => rfl
  named := fun _ _ known => nomatch known
  exact := fun _ id => ⟨fun mem => absurd mem (notMem_empty id), nofun⟩
  revoked := fun grantID mem => absurd mem (notMem_empty grantID)
  returned := forall_mem_nil _
  pending := fun _ _ _ _ known => nomatch known
  expired := fun _ _ known => nomatch known
  closes := forall_mem_nil _

section

variable (h : Sound registry)
include h

/-- The calls and the closes keep their entries when every entry has a later state. -/
theorem of_follows {byGrant : String → Option (Finset Nat)}
    {revoked : Finset String} {entries : Nat → Option SessionEntry} {nextEntry : Nat}
    (grows : registry.revoked ⊆ revoked) (follows : ∀ id old, registry.entries id = some old →
      ∃ new, entries id = some new ∧ new.Follows old)
    (fresh : ∀ id, nextEntry ≤ id → entries id = none)
    (exact : ∀ grantID id, id ∈ (byGrant grantID).getD ∅ ↔
      ∃ entry, entries id = some entry ∧ entry.grantID = grantID ∧ entry.removed = false)
    (empty : ∀ grantID ∈ revoked, (byGrant grantID).getD ∅ = ∅)
    (each : ∀ id entry, entries id = some entry → entry.grantID ≠ "" ∧
      (entry.expired = true ↔ entry.timer = .closing ∨ entry.timer = .ended)) :
    Sound { registry with byGrant, revoked, entries, nextEntry } where
  fresh := fresh
  named := fun id entry known => (each id entry known).1
  exact := exact
  revoked := empty
  returned := fun grantID mem named => grows (h.returned grantID mem named)
  pending := by
    intro call grantID stopped pending known
    obtain ⟨revoked, taken⟩ := h.pending call grantID stopped pending known
    refine ⟨grows revoked, fun id mem => ?_⟩
    obtain ⟨old, found, same, isTaken⟩ := taken id mem
    obtain ⟨new, found', later⟩ := follows id old found
    exact ⟨new, found', later.grantID.trans same, later.taken isTaken⟩
  expired := fun id entry known => (each id entry known).2
  closes := by
    intro close mem
    obtain ⟨old, found, gone, same⟩ := h.closes close mem
    obtain ⟨new, found', later⟩ := follows close.entry old found
    exact ⟨new, found', gone.imp later.taken later.expired, fun grantID closed =>
      later.grantID.trans (same grantID closed)⟩

/-- One entry changes and stays in its group, or leaves it. -/
theorem update (byGrant : String → Option (Finset Nat)) (new : SessionEntry)
    (known : registry.entries id = some old) (follows : new.Follows old)
    (expired : new.expired = true ↔ new.timer = .closing ∨ new.timer = .ended)
    (groups : (byGrant = registry.byGrant ∧ new.removed = old.removed) ∨
      (byGrant = registry.removeEntry old.grantID id ∧ new.removed = true)) :
    Sound { registry with byGrant, entries := registry.setEntry id new } := by
  have self : registry.setEntry id new id = some new := update_self ..
  have others : ∀ {other}, other ≠ id → registry.setEntry id new other = registry.entries other :=
    fun ne => update_of_ne ne ..
  refine h.of_follows (refl _) (fun other entry found => ?_) (fun other le => ?_)
    (fun grantID other => ?_) (fun grantID revoked => ?_) ?_
  · by_cases same : other = id
    · subst same
      cases known.symm.trans found
      exact ⟨new, self, follows⟩
    · exact ⟨entry, (others same).trans found, .refl entry⟩
  · have ne : other ≠ id := by
      rintro rfl
      cases (h.fresh other le).symm.trans known
    exact (others ne).trans (h.fresh other le)
  · by_cases same : other = id
    · subst same
      rcases groups with ⟨rfl, kept⟩ | ⟨rfl, gone⟩
      · refine (h.exact grantID other).trans ⟨?_, ?_⟩
        · rintro ⟨entry, found, rfl, stays⟩
          cases known.symm.trans found
          exact ⟨new, self, follows.grantID, kept.trans stays⟩
        · rintro ⟨entry, found, rfl, stays⟩
          cases self.symm.trans found
          exact ⟨old, known, follows.grantID.symm, kept.symm.trans stays⟩
      · rw [members_removeEntry]
        constructor
        · intro mem
          split at mem
          · exact absurd mem (notMem_erase _ _)
          next ne =>
          obtain ⟨entry, found, same, _⟩ := (h.exact grantID other).1 mem
          cases known.symm.trans found
          exact absurd same.symm ne
        · rintro ⟨entry, found, _, stays⟩
          cases self.symm.trans found
          cases gone.symm.trans stays
    · rw [others same]
      refine Iff.trans ?_ (h.exact grantID other)
      rcases groups with ⟨rfl, _⟩ | ⟨rfl, _⟩
      · exact Iff.rfl
      rw [members_removeEntry]
      split
      · next eq => rw [mem_erase, eq, and_iff_right same]
      · exact Iff.rfl
  · rcases groups with ⟨rfl, _⟩ | ⟨rfl, _⟩
    · exact h.revoked grantID revoked
    · rw [members_removeEntry]
      split
      · next eq => rw [← eq, h.revoked grantID revoked, erase_empty]
      · exact h.revoked grantID revoked
  · refine forall_update_some ⟨fun blank => ?_, expired⟩
      fun other _ entry found => ⟨h.named other entry found, h.expired other entry found⟩
    exact h.named id old known (follows.grantID.symm.trans blank)

theorem pending_update (call : Nat) (next : Option Call)
    (holds : ∀ grantID stopped pending, next = some (.closing grantID stopped pending) →
      grantID ∈ registry.revoked ∧ ∀ id ∈ pending, ∃ entry, registry.entries id = some entry ∧
        entry.grantID = grantID ∧ entry.taken = true) :
    Sound { registry with calls := Function.update registry.calls call next } := by
  refine { h with pending := fun other grantID stopped pending known => ?_ }
  rcases update_eq_some known with ⟨-, new⟩ | ⟨-, old⟩
  · exact holds grantID stopped pending new
  · exact h.pending other grantID stopped pending old

theorem close (closedGrant : Option String)
    (known : registry.entries id = some entry) (gone : entry.taken = true ∨ entry.expired = true)
    (own : ∀ grantID, closedGrant = some grantID → entry.grantID = grantID) :
    Sound { registry with closes := ⟨id, closedGrant⟩ :: registry.closes } :=
  { h with closes := forall_mem_cons.2 ⟨⟨entry, known, gone, own⟩, h.closes⟩ }

theorem track (named : grantID ≠ "") (live : grantID ∉ registry.revoked)
    (running : timer ≠ .closing ∧ timer ≠ .ended) : Sound { registry with
      byGrant := Function.update registry.byGrant grantID
        (some (insert registry.nextEntry (registry.members grantID)))
      entries := registry.setEntry registry.nextEntry { grantID, connection, timer }
      nextEntry := registry.nextEntry + 1 } := by
  have new : registry.entries registry.nextEntry = none := h.fresh _ le_rfl
  have others : ∀ {id entry}, registry.entries id = some entry →
      registry.setEntry registry.nextEntry { grantID, connection, timer } id = some entry := by
    intro id entry found
    have ne : id ≠ registry.nextEntry := by
      rintro rfl
      cases new.symm.trans found
    exact (update_of_ne ne ..).trans found
  refine h.of_follows (refl _) (fun id entry found => ⟨entry, others found, .refl entry⟩)
    (fun id le => ?_) (fun other id => ?_) (fun other revoked => ?_) ?_
  · have ne : id ≠ registry.nextEntry := by omega
    exact (update_of_ne ne ..).trans (h.fresh id (by omega))
  · by_cases same : id = registry.nextEntry
    · subst same
      constructor
      · intro mem
        rw [update_apply] at mem
        split at mem
        · next eq => exact ⟨_, update_self .., eq.symm, rfl⟩
        · obtain ⟨entry, found, _⟩ := (h.exact other _).1 mem
          cases new.symm.trans found
      · rintro ⟨entry, found, rfl, _⟩
        cases (update_self ..).symm.trans found
        rw [update_self]
        exact mem_insert_self ..
    · have kept : registry.setEntry registry.nextEntry { grantID, connection, timer } id =
          registry.entries id := update_of_ne same ..
      rw [kept]
      refine Iff.trans ?_ (h.exact other id)
      rw [update_apply]
      split
      · next eq =>
        rw [eq]
        exact ⟨fun mem => (mem_insert.1 mem).resolve_left same, mem_insert_of_mem⟩
      · exact Iff.rfl
  · have ne : other ≠ grantID := fun same => live (same ▸ revoked)
    rw [update_of_ne ne]
    exact h.revoked other revoked
  · refine forall_update_some ⟨named, nofun, fun ended => absurd ended (not_or.2 running)⟩
      fun id _ entry found => ⟨h.named id entry found, h.expired id entry found⟩

theorem closeGrant (grantID : String) : Sound { registry with
      byGrant := Function.update registry.byGrant grantID none
      revoked := insert grantID registry.revoked
      entries := fun id => (registry.entries id).map fun entry =>
        if id ∈ registry.members grantID then { entry with taken := true } else entry } := by
  refine h.of_follows (subset_insert ..) (fun id entry found => ?_) (fun id le => ?_)
    (fun other id => ?_) (fun other revoked => ?_) (fun id entry found => ?_)
  · refine ⟨_, congrArg _ found, ?_⟩
    split
    · exact ⟨rfl, fun _ => rfl, fun expired => expired⟩
    · exact .refl entry
  · rw [h.fresh id le]
    rfl
  · rw [update_apply]
    split
    · next same =>
      subst same
      refine ⟨fun mem => absurd mem (notMem_empty id), ?_⟩
      rintro ⟨entry, found, same, kept⟩
      rcases of_take found with ⟨_, old, _, rfl⟩ | ⟨out, found⟩
      · cases kept.symm.trans (removed_of_taken rfl)
      · exact absurd ((h.exact other id).2 ⟨entry, found, same, kept⟩) out
    · next ne =>
      refine (h.exact other id).trans ⟨?_, ?_⟩
      · rintro ⟨entry, found, same, kept⟩
        have out : id ∉ registry.members grantID := by
          intro mem
          obtain ⟨entry', found', same', _⟩ := (h.exact grantID id).1 mem
          cases found.symm.trans found'
          exact ne (same.symm.trans same')
        refine ⟨entry, ?_, same, kept⟩
        rw [found, Option.map_some, if_neg out]
      · rintro ⟨entry, found, same, kept⟩
        rcases of_take found with ⟨_, old, _, rfl⟩ | ⟨_, found⟩
        · cases kept.symm.trans (removed_of_taken rfl)
        · exact ⟨entry, found, same, kept⟩
  · rw [update_apply]
    split
    · rfl
    · next ne => exact h.revoked other ((mem_insert.1 revoked).resolve_left ne)
  · rcases of_take found with ⟨_, old, known, rfl⟩ | ⟨_, known⟩
    · exact ⟨h.named id old known, h.expired id old known⟩
    · exact ⟨h.named id entry known, h.expired id entry known⟩

theorem step (event : Event) : Sound (registry.perform event) := by
  rcases registry.perform_step event with same | step
  · rw [same]
    exact h
  generalize registry.perform event = next at step
  cases step with
  | refuse revoked idle => exact h.pending_update _ _ nofun
  | track named live =>
    refine h.track named live ?_
    split <;> exact ⟨nofun, nofun⟩
  | @closeRefused call _ _ known =>
    have quiet := h.pending_update call none nofun
    exact { quiet with }
  | @release id entry known unreleased =>
    refine h.update _ _ known ⟨rfl, fun taken => taken, fun expired => expired⟩ ?_ (.inr ⟨rfl, rfl⟩)
    simpa only [Timer.stop_eq_closing, Timer.stop_eq_ended] using h.expired id entry known
  | @fire id entry known armed =>
    refine h.update _ _ known ⟨rfl, fun taken => taken, fun expired => expired⟩ ?_
      (.inl ⟨rfl, rfl⟩)
    rw [h.expired id entry known, armed]
    simp
  | expire known fired =>
    refine h.update _ _ known ⟨rfl, fun taken => taken, fun _ => rfl⟩ ⟨fun _ => .inl rfl, fun _ => rfl⟩
      (.inr ⟨rfl, ?_⟩)
    unfold removed
    rw [Bool.or_true, Bool.true_or]
  | @closeExpired id entry known closing =>
    have expired := (h.expired id entry known).2 (.inl closing)
    have ended := h.update registry.byGrant { entry with timer := .ended } known
      ⟨rfl, fun taken => taken, fun expired => expired⟩ (iff_of_true expired (.inr rfl))
      (.inl ⟨rfl, rfl⟩)
    exact ended.close none (update_self ..) (.inr expired) nofun
  | closeBlank blank =>
    exact { h with
      returned := forall_mem_cons.2 ⟨absurd rfl, h.returned⟩ }
  | @closeGrant call grantID order idle nodup whole =>
    generalize trimSpace grantID = grantID at *
    refine (h.closeGrant _).pending_update _ _ ?_
    rintro _ _ _ ⟨⟩
    refine ⟨mem_insert_self .., fun id mem => ?_⟩
    have member := whole ▸ mem_toFinset.2 mem
    obtain ⟨entry, found, same, _⟩ := (h.exact _ id).1 member
    refine ⟨{ entry with taken := true }, ?_, same, rfl⟩
    dsimp only
    rw [found, Option.map_some, if_pos member]
  | @stopTimer call grantID id pending entry known found =>
    have stopped := h.update registry.byGrant { entry with timer := entry.timer.stop } found
      ⟨rfl, fun taken => taken, fun expired => expired⟩
      (by simpa only [Timer.stop_eq_closing, Timer.stop_eq_ended] using h.expired id entry found)
      (.inl ⟨rfl, rfl⟩)
    refine stopped.pending_update _ _ ?_
    rintro _ _ _ ⟨⟩
    exact stopped.pending call grantID false (id :: pending) known
  | @closeNext call grantID id pending known =>
    obtain ⟨revoked, taken⟩ := h.pending call grantID true (id :: pending) known
    obtain ⟨entry, found, same, isTaken⟩ := taken id mem_cons_self
    have closed := h.close (some grantID) found (.inl isTaken)
      (fun _ eq => same.trans (Option.some.inj eq))
    refine closed.pending_update _ _ ?_
    rintro _ _ _ ⟨⟩
    exact ⟨revoked, fun other mem => taken other (mem_cons_of_mem _ mem)⟩
  | @returnCloseGrant call grantID stopped known =>
    have quiet := h.pending_update call none nofun
    have revoked := (h.pending call grantID stopped [] known).1
    exact { quiet with
      returned := forall_mem_cons.2 ⟨fun _ => revoked, h.returned⟩ }

end

end Sound

variable {registry : Registry}

theorem sound_run {allowed : Registry → Event → Prop} (run : Reachable allowed registry) :
    Sound registry := by
  induction run with
  | refl => exact Sound.initial
  | tail _ step ih =>
    obtain ⟨event, _, rfl⟩ := step
    exact ih.step event

/-! ### Careful runs -/

/-- No expiry callback gets the lock after a `CloseGrant` has taken its entry, and no `CloseGrant`
returns before the connections of its grant that others have taken are closed. -/
def Careful (registry : Registry) : Event → Prop
  | .expire id => ∀ entry, registry.entries id = some entry → entry.timer = .fired →
      entry.taken = false
  | .returnCloseGrant call => ∀ grantID stopped,
      registry.calls call = some (.closing grantID stopped []) →
      (∀ other stopped pending, registry.calls other = some (.closing grantID stopped pending) →
        pending = []) ∧
      ∀ id entry, registry.entries id = some entry → entry.grantID = grantID →
        entry.released = false → entry.timer ≠ .closing
  | _ => True

def Registry.Closed (registry : Registry) (id : Nat) : Prop :=
  id ∈ registry.closes.map Close.entry

/-- The entries that a call has taken and not closed yet. -/
def pendingOf : Option Call → List Nat
  | some (.closing _ _ pending) => pending
  | _ => []

theorem pendingOf_update {calls : Nat → Option Call} {call : Nat} {next : Option Call}
    (same : pendingOf next = pendingOf (calls call)) (other : Nat) :
    pendingOf (update calls call next other) = pendingOf (calls other) := by
  rw [update_apply]
  split
  · next eq => rw [eq, same]
  · rfl

theorem mem_pendingOf {call : Option Call} {id : Nat} (mem : id ∈ pendingOf call) :
    ∃ grantID stopped pending, call = some (.closing grantID stopped pending) ∧ id ∈ pending := by
  unfold pendingOf at mem
  split at mem
  · exact ⟨_, _, _, rfl, mem⟩
  · exact absurd mem not_mem_nil

theorem Sound.taken_of_pending (h : Sound registry) {call id : Nat}
    (mem : id ∈ pendingOf (registry.calls call)) :
    ∃ entry, registry.entries id = some entry ∧ entry.taken = true := by
  obtain ⟨grantID, stopped, pending, known, mem⟩ := mem_pendingOf mem
  obtain ⟨entry, found, _, taken⟩ := (h.pending call grantID stopped pending known).2 id mem
  exact ⟨entry, found, taken⟩

theorem Sound.gone_of_closed (h : Sound registry) {id : Nat} {entry : SessionEntry}
    (found : registry.entries id = some entry) (closed : registry.Closed id) :
    entry.taken = true ∨ entry.expired = true := by
  obtain ⟨close, mem, rfl⟩ := mem_map.1 closed
  obtain ⟨entry', found', gone, _⟩ := h.closes close mem
  cases found.symm.trans found'
  exact gone

structure Settled (registry : Registry) : Prop where
  removed : ∀ id entry, registry.entries id = some entry → entry.released = false →
    entry.removed = true → registry.Closed id ∨ entry.timer = .closing ∨
      ∃ call, id ∈ pendingOf (registry.calls call)
  returned : ∀ id entry, registry.entries id = some entry → entry.grantID ∈ registry.returned →
    entry.released = false → registry.Closed id
  pending : ∀ call, (pendingOf (registry.calls call)).Nodup ∧
    ∀ id ∈ pendingOf (registry.calls call), ¬ registry.Closed id
  apart : ∀ call call' id, id ∈ pendingOf (registry.calls call) →
    id ∈ pendingOf (registry.calls call') → call' = call
  exclusive : ∀ id entry, registry.entries id = some entry → entry.taken = true →
    entry.expired = false
  closing : ∀ id entry, registry.entries id = some entry → entry.timer = .closing →
    ¬ registry.Closed id
  once : (registry.closes.map Close.entry).Nodup

namespace Settled

variable {registry : Registry} {id call connection : Nat} {entry old : SessionEntry}
  {grantID : String} {timer : Timer}

theorem initial : Settled newRegistry where
  removed := fun _ _ known => nomatch known
  returned := fun _ _ known => nomatch known
  pending := fun _ => ⟨nodup_nil, forall_mem_nil _⟩
  apart := fun _ _ _ mem => absurd mem not_mem_nil
  exclusive := fun _ _ known => nomatch known
  closing := fun _ _ known => nomatch known
  once := nodup_nil

section

variable (h : Settled registry)
include h

/-- One entry changes, and nothing is closed. -/
theorem update (byGrant : String → Option (Finset Nat)) (new : SessionEntry)
    (known : registry.entries id = some old) (sameGrant : new.grantID = old.grantID)
    (unreleased : new.released = false → old.released = false)
    (exclusive : new.taken = true → new.expired = false)
    (closing : new.timer = .closing → ¬ registry.Closed id)
    (removed : new.released = false → new.removed = true → new.timer = .closing ∨
      (old.removed = true ∧ old.timer ≠ .closing)) :
    Settled { registry with byGrant, entries := registry.setEntry id new } := by
  refine { h with removed := ?_, returned := ?_, exclusive := ?_, closing := ?_ }
  · refine forall_update_some (fun live gone => ?_) fun other _ => h.removed other
    rcases removed live gone with closing | ⟨gone, still⟩
    · exact .inr (.inl closing)
    · exact (h.removed id old known (unreleased live) gone).imp_right fun rest =>
        .inr (rest.resolve_left still)
  · refine forall_update_some (fun returned live => ?_) fun other _ => h.returned other
    exact h.returned id old known (sameGrant ▸ returned) (unreleased live)
  · exact forall_update_some exclusive fun other _ => h.exclusive other
  · exact forall_update_some closing fun other _ => h.closing other

theorem calls_update (call : Nat) (next : Option Call)
    (same : pendingOf next = pendingOf (registry.calls call)) :
    Settled { registry with calls := Function.update registry.calls call next } := by
  have pending := pendingOf_update same
  refine { h with removed := ?_, pending := ?_, apart := ?_ }
  · intro id entry found live gone
    refine (h.removed id entry found live gone).imp_right (Or.imp_right fun ⟨other, mem⟩ => ?_)
    exact ⟨other, (pending other).symm ▸ mem⟩
  · intro other
    rw [pending]
    exact h.pending other
  · intro first second id
    rw [pending, pending]
    exact h.apart first second id

section

variable (sound : Sound registry)
include sound

theorem track (named : grantID ≠ "")
    (live : grantID ∉ registry.revoked) (running : timer ≠ .closing)
    (byGrant : String → Option (Finset Nat)) : Settled { registry with
      byGrant
      entries := registry.setEntry registry.nextEntry { grantID, connection, timer }
      nextEntry := registry.nextEntry + 1 } := by
  refine { h with removed := ?_, returned := ?_, exclusive := ?_, closing := ?_ }
  · exact forall_update_some nofun fun id _ => h.removed id
  · refine forall_update_some (fun returned _ => ?_) fun id _ => h.returned id
    exact absurd (sound.returned grantID returned named) live
  · exact forall_update_some (fun _ => rfl) fun id _ => h.exclusive id
  · exact forall_update_some (fun closing => absurd closing running) fun id _ => h.closing id

theorem closeExpired (known : registry.entries id = some entry) (closing : entry.timer = .closing) :
    Settled { registry with
      entries := registry.setEntry id { entry with timer := .ended }
      closes := ⟨id, none⟩ :: registry.closes } := by
  have expired := (sound.expired id entry known).2 (.inl closing)
  refine ⟨?_, ?_, ?_, h.apart, ?_, ?_, nodup_cons.2 ⟨h.closing id entry known closing, h.once⟩⟩
  · refine forall_update_some (fun _ _ => .inl mem_cons_self) ?_
    exact fun other _ entry found live gone =>
      (h.removed other entry found live gone).imp_left (mem_cons_of_mem _)
  · refine forall_update_some (fun _ _ => mem_cons_self) ?_
    exact fun other _ entry found returned live =>
      mem_cons_of_mem _ (h.returned other entry found returned live)
  · refine fun call => ⟨(h.pending call).1, fun other mem closed => ?_⟩
    rcases mem_cons.1 closed with rfl | closed
    · obtain ⟨entry', found, taken⟩ := sound.taken_of_pending mem
      cases known.symm.trans found
      cases expired.symm.trans (h.exclusive _ entry known taken)
    · exact (h.pending call).2 other mem closed
  · exact forall_update_some (h.exclusive id entry known) fun other _ => h.exclusive other
  · refine forall_update_some nofun fun other ne entry found closing closed => ?_
    exact h.closing other entry found closing ((mem_cons.1 closed).resolve_left ne)

/-- `CloseGrant` takes the entries of its grant; those taken before are pending elsewhere. -/
theorem closeGrant {order : List Nat} (idle : registry.calls call = none) (nodup : order.Nodup)
    (whole : order.toFinset = registry.members grantID) (byGrant : String → Option (Finset Nat)) :
    Settled { registry with
      byGrant
      revoked := insert grantID registry.revoked
      entries := fun id => (registry.entries id).map fun entry =>
        if id ∈ registry.members grantID then { entry with taken := true } else entry
      calls := Function.update registry.calls call (some (.closing grantID false order)) } := by
  have member : ∀ id, id ∈ order ↔ id ∈ registry.members grantID := by
    intro id
    rw [← whole, mem_toFinset]
  have unclosed : ∀ id ∈ order, ¬ registry.Closed id := by
    intro id mem closed
    obtain ⟨entry, found, _, kept⟩ := (sound.exact grantID id).1 ((member id).1 mem)
    obtain ⟨_, unexpired, untaken⟩ := removed_eq_false.1 kept
    rcases sound.gone_of_closed found closed with taken | expired
    · cases untaken.symm.trans taken
    · cases unexpired.symm.trans expired
  have before : ∀ other id, id ∈ pendingOf (registry.calls other) → id ∉ order := by
    intro other id mem ordered
    obtain ⟨entry, found, _, kept⟩ := (sound.exact grantID id).1 ((member id).1 ordered)
    obtain ⟨entry', found', taken⟩ := sound.taken_of_pending mem
    cases found.symm.trans found'
    cases kept.symm.trans (removed_of_taken taken)
  have pending : ∀ other id, id ∈ pendingOf (Function.update registry.calls call
      (some (.closing grantID false order)) other) →
      (other = call ∧ id ∈ order) ∨ id ∈ pendingOf (registry.calls other) := by
    intro other id mem
    rw [update_apply] at mem
    split at mem
    · next same => exact .inl ⟨same, mem⟩
    · exact .inr mem
  refine ⟨?_, ?_, ?_, ?_, ?_, ?_, h.once⟩
  · intro id entry found live gone
    rcases of_take found with ⟨taken, _⟩ | ⟨_, found⟩
    · refine .inr (.inr ⟨call, ?_⟩)
      dsimp only
      rw [update_self]
      exact (member id).2 taken
    · refine (h.removed id entry found live gone).imp_right (Or.imp_right fun ⟨other, mem⟩ => ?_)
      have ne : other ≠ call := by
        rintro rfl
        rw [idle] at mem
        exact absurd mem not_mem_nil
      refine ⟨other, ?_⟩
      dsimp only
      rw [update_of_ne ne]
      exact mem
  · intro id entry found returned live
    rcases of_take found with ⟨_, old, known, rfl⟩ | ⟨_, known⟩
    · exact h.returned id old known returned live
    · exact h.returned id entry known returned live
  · refine fun other => ⟨?_, fun id mem => ?_⟩
    · dsimp only
      rw [update_apply]
      split
      · exact nodup
      · exact (h.pending other).1
    · rcases pending other id mem with ⟨_, ordered⟩ | mem
      · exact unclosed id ordered
      · exact (h.pending other).2 id mem
  · intro first second id mem mem'
    rcases pending first id mem with ⟨isCall, ordered⟩ | mem
    · rcases pending second id mem' with ⟨isCall', _⟩ | mem'
      · exact isCall'.trans isCall.symm
      · exact absurd ordered (before second id mem')
    · rcases pending second id mem' with ⟨_, ordered⟩ | mem'
      · exact absurd ordered (before first id mem)
      · exact h.apart first second id mem mem'
  · intro id entry found taken
    rcases of_take found with ⟨mem, old, known, rfl⟩ | ⟨_, known⟩
    · obtain ⟨entry, known', _, kept⟩ := (sound.exact grantID id).1 mem
      cases known.symm.trans known'
      exact (removed_eq_false.1 kept).2.1
    · exact h.exclusive id entry known taken
  · intro id entry found closing
    rcases of_take found with ⟨_, old, known, rfl⟩ | ⟨_, known⟩
    · exact h.closing id old known closing
    · exact h.closing id entry known closing

theorem closeNext {pending : List Nat}
    (known : registry.calls call = some (.closing grantID true (id :: pending))) :
    Settled { registry with
      calls := Function.update registry.calls call (some (.closing grantID false pending))
      closes := ⟨id, some grantID⟩ :: registry.closes } := by
  have waiting : pendingOf (registry.calls call) = id :: pending := by
    rw [known]
    rfl
  have first : id ∈ pendingOf (registry.calls call) := waiting ▸ mem_cons_self
  obtain ⟨nodup, unclosed⟩ := h.pending call
  rw [waiting, nodup_cons] at nodup
  have fewer : ∀ other id', id' ∈ pendingOf (Function.update registry.calls call
      (some (.closing grantID false pending)) other) ↔
      id' ∈ pendingOf (registry.calls other) ∧ id' ≠ id := by
    intro other id'
    rw [update_apply]
    split
    · next same =>
      rw [same, waiting]
      refine ⟨fun mem => ⟨mem_cons_of_mem _ mem, ?_⟩, fun ⟨mem, ne⟩ =>
        (mem_cons.1 mem).resolve_left ne⟩
      rintro rfl
      exact nodup.1 mem
    · next ne =>
      refine ⟨fun mem => ⟨mem, ?_⟩, And.left⟩
      rintro rfl
      exact ne (h.apart call other id' first mem)
  refine ⟨?_, ?_, ?_, ?_, h.exclusive, ?_, nodup_cons.2 ⟨unclosed id first, h.once⟩⟩
  · intro id' entry found live gone
    by_cases same : id' = id
    · exact .inl (same ▸ mem_cons_self)
    rcases h.removed id' entry found live gone with closed | closing | ⟨other, mem⟩
    · exact .inl (mem_cons_of_mem _ closed)
    · exact .inr (.inl closing)
    · exact .inr (.inr ⟨other, (fewer other id').2 ⟨mem, same⟩⟩)
  · intro id' entry found returned live
    exact mem_cons_of_mem _ (h.returned id' entry found returned live)
  · refine fun other => ⟨?_, fun id' mem closed => ?_⟩
    · dsimp only
      rw [update_apply]
      split
      · exact nodup.2
      · exact (h.pending other).1
    · obtain ⟨mem, ne⟩ := (fewer other id').1 mem
      exact (h.pending other).2 id' mem ((mem_cons.1 closed).resolve_left ne)
  · intro other other' id' mem mem'
    exact h.apart other other' id' ((fewer other id').1 mem).1 ((fewer other' id').1 mem').1
  · intro id' entry found closing closed
    rcases mem_cons.1 closed with rfl | closed
    · obtain ⟨entry', found', taken⟩ := sound.taken_of_pending first
      cases found.symm.trans found'
      cases (h.exclusive _ entry found taken).symm.trans
        ((sound.expired _ entry found).2 (.inl closing))
    · exact h.closing id' entry found closing closed

/-- Nothing of the grant is left to others when a careful `CloseGrant` returns. -/
theorem returnCloseGrant {stopped : Bool}
    (known : registry.calls call = some (.closing grantID stopped []))
    (careful : Careful registry (.returnCloseGrant call)) : Settled { registry with
      calls := Function.update registry.calls call none
      returned := grantID :: registry.returned } := by
  have quiet := h.calls_update call none (by rw [known]; rfl)
  refine { quiet with returned := fun id entry found returned live => ?_ }
  rcases mem_cons.1 returned with same | returned
  · obtain ⟨alone, unhurried⟩ := careful grantID stopped known
    have revoked := (sound.pending call grantID stopped [] known).1
    have removed : entry.removed = true := by
      cases kept : entry.removed with
      | true => rfl
      | false =>
        have member := (sound.exact grantID id).2 ⟨entry, found, same, kept⟩
        rw [sound.revoked grantID revoked] at member
        exact absurd member (notMem_empty id)
    rcases h.removed id entry found live removed with closed | closing | ⟨other, mem⟩
    · exact closed
    · exact absurd closing (unhurried id entry found same live)
    obtain ⟨grantID', stopped', pending, known', mem⟩ := mem_pendingOf mem
    obtain ⟨entry', found', same', _⟩ := (sound.pending other _ _ _ known').2 id mem
    cases found.symm.trans found'
    obtain rfl := same'.symm.trans same
    rw [alone other stopped' pending known'] at mem
    exact absurd mem not_mem_nil
  · exact h.returned id entry found returned live

theorem step {event : Event}
    (careful : Careful registry event) : Settled (registry.perform event) := by
  rcases registry.perform_step event with same | step
  · rw [same]
    exact h
  generalize registry.perform event = next at step
  cases step with
  | refuse revoked idle => exact h.calls_update _ _ (by rw [idle]; rfl)
  | track named live =>
    refine h.track sound named live ?_ _
    split <;> nofun
  | @closeRefused call _ _ known =>
    have quiet := h.calls_update call none (by rw [known]; rfl)
    exact { quiet with }
  | @release id entry known unreleased =>
    refine h.update _ _ known rfl nofun (h.exclusive id entry known) (fun closing => ?_) nofun
    exact h.closing id entry known ((Timer.stop_eq_closing _).1 closing)
  | @fire id entry known armed =>
    refine h.update _ _ known rfl (fun live => live) (h.exclusive id entry known) nofun
      (fun _ gone => .inr ⟨gone, ?_⟩)
    rw [armed]
    nofun
  | @expire id entry known fired =>
    have untaken := careful entry known fired
    refine h.update _ _ known rfl (fun live => live) (fun taken => ?_) (fun _ closed => ?_)
      (fun _ _ => .inl rfl)
    · cases untaken.symm.trans taken
    · rcases sound.gone_of_closed known closed with taken | expired
      · cases untaken.symm.trans taken
      · have running := (sound.expired id entry known).1 expired
        rw [fired] at running
        simp only [reduceCtorEq, or_self] at running
  | closeExpired known closing => exact h.closeExpired sound known closing
  | closeBlank blank =>
    refine { h with returned := fun id entry found returned live => ?_ }
    refine h.returned id entry found ((mem_cons.1 returned).resolve_left ?_) live
    exact sound.named id entry found
  | closeGrant idle nodup whole => exact h.closeGrant sound idle nodup whole _
  | @stopTimer call grantID id pending entry known found =>
    have stopped := h.update registry.byGrant { entry with timer := entry.timer.stop } found rfl
      (fun live => live) (h.exclusive id entry found)
      (fun closing => h.closing id entry found ((Timer.stop_eq_closing _).1 closing))
      (fun _ gone => by
        by_cases closing : entry.timer = .closing
        · exact .inl ((Timer.stop_eq_closing _).2 closing)
        · exact .inr ⟨gone, closing⟩)
    exact stopped.calls_update call _ (by dsimp only; rw [known]; rfl)
  | closeNext known => exact h.closeNext sound known
  | returnCloseGrant known => exact h.returnCloseGrant sound known careful

end

end

end Settled

theorem settled_run (run : Reachable Careful registry) : Settled registry := by
  induction run with
  | refl => exact Settled.initial
  | tail before step ih =>
    obtain ⟨event, careful, rfl⟩ := step
    exact ih.step (sound_run before) careful

/-! ### Revocation -/

/-- A `Track` of a revoked grant closes its connection, whatever else happens before. -/
theorem refusing_step {call : Nat} {grantID : String} {connection : Nat}
    (refusing : registry.calls call = some (.refusing grantID connection)) (event : Event) :
    (registry.perform event).calls call = some (.refusing grantID connection) ∨
      event = .closeRefused call ∧
        (registry.perform event).refused = (grantID, connection) :: registry.refused := by
  have other : ∀ {busy : Nat} {found : Option Call} (next : Option Call),
      registry.calls busy = found → found ≠ some (.refusing grantID connection) →
      update registry.calls busy next call = some (.refusing grantID connection) := by
    intro busy found next known differs
    have ne : call ≠ busy := by
      rintro rfl
      exact differs (known.symm.trans refusing)
    exact (update_of_ne ne ..).trans refusing
  rcases registry.perform_step event with same | step
  · rw [same]
    exact .inl refusing
  generalize registry.perform event = next at step
  cases step with
  | refuse revoked idle | closeGrant idle nodup whole => exact .inl (other _ idle nofun)
  | @closeRefused busy _ _ known =>
    by_cases same : busy = call
    · subst same
      cases known.symm.trans refusing
      exact .inr ⟨rfl, rfl⟩
    · exact .inl ((update_of_ne (symm same) ..).trans refusing)
  | stopTimer known found | closeNext known | returnCloseGrant known =>
    exact .inl (other _ known nofun)
  | _ => exact .inl refusing

/-- In a careful run, once `CloseGrant` has returned every connection tracked for its grant and not
released is closed, and a later `Track` of the grant closes its connection. A `CloseGrant` closes
connections of its grant only, the groups hold exactly the entries that are not removed, and the
connection of an entry is closed at most once, after its removal. -/
theorem revoked_grants_keep_no_session (run : Reachable Careful registry) :
    (∀ grantID ∈ registry.returned,
      (∀ id entry, registry.entries id = some entry → entry.grantID = grantID →
        entry.released = false → registry.Closed id) ∧
      (grantID ≠ "" → ∀ call name connection expires, trimSpace name = grantID →
        registry.calls call = none →
        registry.perform (.track call name (some connection) expires) = { registry with
          calls := update registry.calls call (some (.refusing grantID connection)) })) ∧
    (∀ call grantID connection, registry.calls call = some (.refusing grantID connection) →
      ∀ event, (registry.perform event).calls call = some (.refusing grantID connection) ∨
        event = .closeRefused call ∧
          (registry.perform event).refused = (grantID, connection) :: registry.refused) ∧
    (∀ close ∈ registry.closes, ∃ entry, registry.entries close.entry = some entry ∧
      (entry.taken = true ∨ entry.expired = true) ∧
      ∀ grantID, close.closedGrant = some grantID → entry.grantID = grantID) ∧
    (∀ grantID id, id ∈ registry.members grantID ↔ ∃ entry, registry.entries id = some entry ∧
      entry.grantID = grantID ∧ entry.released = false ∧ entry.expired = false ∧
      entry.taken = false) ∧
    (registry.closes.map Close.entry).Nodup := by
  have sound := sound_run run
  have settled := settled_run run
  refine ⟨fun grantID returned => ⟨fun id entry found same live => ?_, ?_⟩,
    fun call grantID connection refusing => refusing_step refusing, sound.closes,
    fun grantID id => ?_, settled.once⟩
  · exact settled.returned id entry found (same.symm ▸ returned) live
  · rintro named call name connection expires rfl idle
    simp only [perform, idle, if_neg named, if_pos (sound.returned _ returned named)]
  · rw [sound.exact]
    simp only [removed_eq_false]

/-- The registry after the events. -/
def afterEvents (events : List Event) : Registry := events.foldl perform newRegistry

def Allows (allowed : Registry → Event → Prop) : Registry → List Event → Prop
  | _, [] => True
  | registry, event :: events => allowed registry event ∧
      Allows allowed (registry.perform event) events

theorem Reachable.events {allowed : Registry → Event → Prop} (run : Reachable allowed registry)
    {events : List Event} (fits : Allows allowed registry events) :
    Reachable allowed (events.foldl perform registry) := by
  induction events generalizing registry with
  | nil => exact run
  | cons event events ih => exact ih (run.tail ⟨event, fits.1, rfl⟩) fits.2

/-- A session of `g` with an expiry and one of `h`; `g` is revoked. -/
def revokingEvents : List Event :=
  [.track 0 "g" (some 7) true, .track 0 "h" (some 8) false, .closeGrant 0 " g " [0], .stopTimer 0,
    .closeNext 0]

theorem revokingEvents_careful :
    Reachable Careful (afterEvents (revokingEvents ++ [.returnCloseGrant 0])) := by
  have run : Reachable Careful (afterEvents revokingEvents) :=
    Reachable.events .refl ⟨trivial, trivial, trivial, trivial, trivial, trivial⟩
  refine run.tail ⟨.returnCloseGrant 0, fun grantID stopped known => ⟨?_, ?_⟩, rfl⟩
  · intro other stopped pending known
    by_cases same : other = 0
    · subst same
      cases known
      rfl
    · have idle : (afterEvents revokingEvents).calls other = none :=
        (update_of_ne same ..).trans ((update_of_ne same ..).trans
          (update_of_ne same ..))
      cases idle.symm.trans known
  · intro id entry found _ _
    match id with
    | 0 | 1 =>
      cases found
      decide
    | id + 2 => cases ((sound_run run).fresh (id + 2) (Nat.le_add_left 2 id)).symm.trans found

theorem revoked_grants_keep_no_session_sample :
    (afterEvents (revokingEvents ++ [.returnCloseGrant 0])).Closed 0 :=
  ((revoked_grants_keep_no_session revokingEvents_careful).1 "g" (by decide)).1 0 _ rfl (by decide)
    rfl

/-- An expiry callback that has fired closes the connection after the `CloseGrant` that has closed
it. -/
def firedEvents : List Event :=
  [.track 0 "g" (some 7) true, .fire 0, .closeGrant 0 "g" [0], .stopTimer 0, .closeNext 0, .expire 0,
    .closeExpired 0]

/-- A `CloseGrant` returns before an expiry callback closes the connection that it has removed. -/
def hurriedEvents : List Event :=
  [.track 0 "g" (some 7) true, .fire 0, .expire 0, .closeGrant 0 "g" [], .returnCloseGrant 0]

theorem revoked_grants_keep_sessions :
    (Reachable (fun _ _ => True) (afterEvents firedEvents) ∧
      (afterEvents firedEvents).closes.map Close.entry = [0, 0]) ∧
    (Reachable (fun _ _ => True) (afterEvents hurriedEvents) ∧
      "g" ∈ (afterEvents hurriedEvents).returned ∧
      (afterEvents hurriedEvents).entries 0 = some ⟨"g", 7, .closing, false, true, false⟩ ∧
      (afterEvents hurriedEvents).closes = []) ∧
    (Reachable (fun _ _ => True) (afterEvents [.closeGrant 0 " " []]) ∧
      (afterEvents [.closeGrant 0 " " []]).returned = [""] ∧
      (afterEvents [.closeGrant 0 " " [], .track 0 " " (some 7) false]).calls 0 = none ∧
      (afterEvents [.closeGrant 0 " " [], .track 0 " " (some 7) false]).refused = []) := by
  refine ⟨⟨.events .refl ?_, by decide⟩, ⟨.events .refl ?_, by decide, by decide, by decide⟩,
    ⟨.events .refl ?_, by decide, by decide, by decide⟩⟩
  · exact ⟨trivial, trivial, trivial, trivial, trivial, trivial, trivial, trivial⟩
  · exact ⟨trivial, trivial, trivial, trivial, trivial, trivial⟩
  · exact ⟨trivial, trivial⟩

/-- In every interleaving a group holds exactly the entries of its grant that were not removed, and
none once the grant is revoked. -/
theorem groups_exact (events : List Event) (grantID : String) :
    let registry := afterEvents events
    (∀ id, id ∈ registry.members grantID ↔ ∃ entry, registry.entries id = some entry ∧
      entry.grantID = grantID ∧ entry.removed = false) ∧
    (grantID ∈ registry.revoked → registry.members grantID = ∅) := by
  have sound : Sound (afterEvents events) :=
    foldlRecOn events perform Sound.initial fun _ sound event _ => sound.step event
  exact ⟨sound.exact grantID, sound.revoked grantID⟩

end Anytty.Sessions
