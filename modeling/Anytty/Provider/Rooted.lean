import Anytty.Provider.Dispatch

/-!
# Keys and owners of the registry under outside writes

Between the calls of the registry, sessions write to their own attachment objects, and after an
`update` the registry holds such an object. So policies and epochs of stored attachments can
change at any time. What remains true is `Rooted`: a stored object has the key it is stored
under, and an owner is stored and belongs to its terminal. Every operation keeps it, together
with the identities of all objects (`Extends`).
-/

namespace Anytty.Provider

open AttachmentRegistry Function AList Data

/-- The part of the registry's invariant that survives writes to attachments from
outside: every stored object has its key, and every owner is stored. -/
structure Rooted (r : AttachmentRegistry) : Prop where
  live : ∀ k p, r.byKey.lookup k = some p → p < r.nextPtr
  keyed : ∀ k p, r.byKey.lookup k = some p → attachmentKey (r.objects p) = k
  terminal : ∀ p q, p < r.nextPtr → q < r.nextPtr →
    attachmentKey (r.objects p) = attachmentKey (r.objects q) →
    (r.objects p).terminalID = (r.objects q).terminalID
  owned : ∀ t k, r.owners t = some k → ∃ p, r.byKey.lookup k = some p ∧
    (r.objects p).terminalID = t

/-- No object changes its identity, and a new one has the identity of an old one. -/
structure Extends (r s : AttachmentRegistry) : Prop where
  nextPtr : r.nextPtr ≤ s.nextPtr
  ident : ∀ p, p < r.nextPtr → (s.objects p).ident = (r.objects p).ident
  origin : ∀ q, q < s.nextPtr → ∃ p, p < r.nextPtr ∧ (s.objects q).ident = (r.objects p).ident

section Registry

variable {r s u : AttachmentRegistry} {p : Ptr} {t : TerminalID} {key : AttachmentKey}
  {a : ProviderAttachment}

theorem Extends.of_ident (hn : s.nextPtr = r.nextPtr)
    (hid : ∀ q, (s.objects q).ident = (r.objects q).ident) : Extends r s where
  nextPtr := Nat.le_of_eq hn.symm
  ident := fun p _ => hid p
  origin := fun q hq => ⟨q, hn ▸ hq, hid q⟩

theorem Extends.refl (r : AttachmentRegistry) : Extends r r := .of_ident rfl fun _ => rfl

theorem Extends.trans (h : Extends r s) (h' : Extends s u) : Extends r u where
  nextPtr := Nat.le_trans h.nextPtr h'.nextPtr
  ident := fun p hp => (h'.ident p (Nat.lt_of_lt_of_le hp h.nextPtr)).trans (h.ident p hp)
  origin := by
    intro q hq
    obtain ⟨q', hq', he'⟩ := h'.origin q hq
    obtain ⟨p, hp, he⟩ := h.origin q' hq'
    exact ⟨p, hp, he'.trans he⟩

theorem Extends.attachmentKey (h : Extends r s) (hp : p < r.nextPtr) :
    Provider.attachmentKey (s.objects p) = Provider.attachmentKey (r.objects p) :=
  congrArg Prod.fst (h.ident p hp)

/-- Only the owner of its own terminal can have the key of an object. -/
theorem Rooted.home (h : Rooted r) (hp : p < r.nextPtr)
    (ht : r.owners t = some (attachmentKey (r.objects p))) : (r.objects p).terminalID = t := by
  obtain ⟨q, hq, hterm⟩ := h.owned t _ ht
  rw [← hterm]
  exact h.terminal p q hp (h.live _ q hq) (h.keyed _ q hq).symm

theorem Rooted.toKeyed (h : Rooted r) : Keyed r := ⟨h.live, h.keyed, h.terminal⟩

theorem Rooted.congr (h : Rooted r) (hid : ∀ q, (s.objects q).ident = (r.objects q).ident)
    (hn : s.nextPtr = r.nextPtr) (hk : s.byKey = r.byKey) (ho : s.owners = r.owners) :
    Rooted s := by
  refine { h.toKeyed.congr hid hn hk with owned := fun t k ht => ?_ }
  rw [ho] at ht
  obtain ⟨p, hp, hpt⟩ := h.owned t k ht
  exact ⟨p, hk ▸ hp, (congrArg Prod.snd (hid p)).trans hpt⟩

theorem Rooted.store (h : Rooted r) (hid : a.ident = (r.objects p).ident) : Rooted (r.store p a) :=
  h.congr (store_ident hid) rfl rfl rfl

theorem Extends.store (hid : a.ident = (r.objects p).ident) : Extends r (r.store p a) :=
  .of_ident rfl (store_ident hid)

theorem Rooted.setByKey (h : Rooted r) (hp : p < r.nextPtr)
    (hkey : attachmentKey (r.objects p) = key) : Rooted (r.setByKey key p) := by
  refine { h.toKeyed.setByKey hp hkey with owned := fun t k ht => ?_ }
  by_cases hk : k = key
  · subst hk
    exact ⟨p, lookup_insert _, h.home hp (hkey ▸ ht)⟩
  · obtain ⟨q, hq, hterm⟩ := h.owned t k ht
    exact ⟨q, (lookup_insert_ne hk).trans hq, hterm⟩

theorem Rooted.setOwner (h : Rooted r) {o : Option AttachmentKey}
    (ho : ∀ k, o = some k → ∃ p, r.byKey.lookup k = some p ∧ (r.objects p).terminalID = t) :
    Rooted (r.setOwner t o) := by
  refine { h with owned := fun t' k ht' => ?_ }
  rcases update_eq_some ht' with ⟨rfl, hnew⟩ | ⟨_, hold⟩
  · exact ho k hnew
  · exact h.owned t' k hold

theorem Rooted.alloc (h : Rooted r) (ha : r.SameTerminal a) : Rooted (r.alloc a) := by
  refine { h.toKeyed.alloc ha with owned := fun t k ht => ?_ }
  obtain ⟨q, hq, hterm⟩ := h.owned t k ht
  exact ⟨q, hq, by rw [alloc_old a (h.live k q hq)]; exact hterm⟩

theorem Extends.copy (hp : p < r.nextPtr) : Extends r (r.alloc (r.objects p)) := by
  refine ⟨Nat.le_succ _, fun q hq => congrArg _ (alloc_old _ hq), fun q hq => ?_⟩
  rcases Nat.lt_succ_iff_lt_or_eq.mp hq with hlt | rfl
  · exact ⟨q, hlt, congrArg _ (alloc_old _ hlt)⟩
  · exact ⟨p, hp, congrArg _ (update_self _ _ _)⟩

/-! ## The operations of the registry -/

theorem owning_ident (a : ProviderAttachment) (epoch : Nat) :
    (a.owning epoch).ident = a.ident := rfl

theorem withEpoch_ident (a : ProviderAttachment) (epoch : Nat) :
    (a.withEpoch epoch).ident = a.ident := rfl

theorem adopt_ident (a caller : ProviderAttachment) : (a.adopt caller).ident = a.ident := rfl

theorem Rooted.takeOwnership (h : Rooted r) (hp : p < r.nextPtr)
    (hstored : r.byKey.lookup (attachmentKey (r.objects p)) ≠ none) :
    Rooted (r.takeOwnership p) ∧ Extends r (r.takeOwnership p) := by
  obtain ⟨q, hq⟩ := Option.ne_none_iff_exists'.mp hstored
  have hterm : (r.objects q).terminalID = (r.objects p).terminalID :=
    h.terminal q p (h.live _ q hq) hp (h.keyed _ q hq)
  have hwritten : Rooted ((r.advanceEpochLocked (r.objects p).terminalID).store p
      ((r.objects p).owning (r.nextEpoch + 1))) :=
    (h.congr (s := r.advanceEpochLocked _) (fun _ => rfl) rfl rfl rfl).store
      (owning_ident _ _)
  refine ⟨hwritten.setOwner ?_, .of_ident rfl fun q' => store_ident
    (r := r.advanceEpochLocked _) (owning_ident _ _) q'⟩
  rintro k ⟨⟩
  have hsame := congrArg Prod.snd (store_ident (r := r.advanceEpochLocked (r.objects p).terminalID)
    (p := p) (owning_ident (r.objects p) (r.nextEpoch + 1)) q)
  exact ⟨q, hq, hsame.trans hterm⟩

theorem Rooted.releaseOwnership (h : Rooted (r.setOwner t none)) (key : AttachmentKey) :
    Rooted (r.releaseOwnership t key) ∧ Extends r (r.releaseOwnership t key) := by
  rcases releaseOwnership_cases r t key with ⟨k, q, hq, _, hterm, heq⟩ | heq
  · have hid := fun q' => store_ident (r := (r.setOwner t none).advanceEpochLocked t) (p := q)
      (owning_ident (r.objects q) (r.nextEpoch + 1)) q'
    have hwritten : Rooted (((r.setOwner t none).advanceEpochLocked t).store q
        ((r.objects q).owning (r.nextEpoch + 1))) := h.congr hid rfl rfl rfl
    have howned := hwritten.setOwner (t := t) (o := some k) (by
      rintro k' ⟨⟩
      exact ⟨q, hq, (congrArg Prod.snd (hid q)).trans hterm⟩)
    rw [heq]
    refine ⟨howned.congr (fun _ => rfl) rfl rfl ?_, .of_ident rfl hid⟩
    simp
  · rw [heq]
    exact ⟨h.congr (fun _ => rfl) rfl rfl rfl, .of_ident rfl fun _ => rfl⟩

theorem Rooted.erase (h : Rooted r) (hfree : ∀ t, r.owners t ≠ some key) :
    Rooted { r with byKey := r.byKey.erase key } := by
  refine { h.toKeyed.erase key with owned := fun t k ht => ?_ }
  obtain ⟨q, hq, hterm⟩ := h.owned t k ht
  have hk : k ≠ key := fun he => hfree t (he ▸ ht)
  exact ⟨q, (lookup_erase_ne hk).trans hq, hterm⟩

theorem unregister_byKey (r : AttachmentRegistry) (p : Ptr) :
    (r.unregister p).byKey = r.byKey.erase (attachmentKey (r.objects p)) := by
  simp only [unregister]
  split
  · exact (releaseOwnership_frame _ _ _).1
  · rfl

theorem Rooted.unregister (h : Rooted r) (hp : p < r.nextPtr) :
    Rooted (r.unregister p) ∧ Extends r (r.unregister p) := by
  have hhome := fun t => h.home (t := t) hp
  simp only [AttachmentRegistry.unregister]
  split
  · next hown =>
    have hfree : ∀ t, (r.setOwner (r.objects p).terminalID none).owners t ≠
        some (attachmentKey (r.objects p)) := by
      intro t ht
      by_cases he : t = (r.objects p).terminalID
      · subst he
        simp at ht
      · rw [setOwner_owners, update_of_ne he] at ht
        exact he (hhome t ht).symm
    have hrest := (h.setOwner (t := (r.objects p).terminalID) (o := none) (by rintro _ ⟨⟩)).erase hfree
    have hreleased := hrest.releaseOwnership
      (r := { r with byKey := r.byKey.erase (attachmentKey (r.objects p)) })
      (attachmentKey (r.objects p))
    exact ⟨hreleased.1, ⟨hreleased.2.nextPtr, hreleased.2.ident, hreleased.2.origin⟩⟩
  · next hown =>
    refine ⟨h.erase fun t ht => hown ?_, .of_ident rfl fun _ => rfl⟩
    rw [hhome t ht]
    exact ht

/-- The registration of an attachment, whose key may be stored already. -/
theorem Rooted.register (h : Rooted r) (hp : p < r.nextPtr) (size : Size) (locked : Bool) :
    Rooted (r.register p size locked).1 ∧ Extends r (r.register p size locked).1 ∧
    (r.register p size locked).1.byKey =
      r.byKey.insert (attachmentKey (r.objects p)) r.nextPtr := by
  obtain ⟨locks, hinit, -⟩ := initialLock_spec r (r.objects p).terminalID locked
  simp only [AttachmentRegistry.register]
  rw [hinit]
  have hl : Rooted { r with sizeLocks := locks } := h.congr (fun _ => rfl) rfl rfl rfl
  have hext : Extends r { r with sizeLocks := locks } := .of_ident rfl fun _ => rfl
  generalize hsame : { r with sizeLocks := locks } = l at hl hext
  obtain ⟨hobj, hnext, hby⟩ : r.objects = l.objects ∧ r.nextPtr = l.nextPtr ∧ r.byKey = l.byKey :=
    hsame ▸ ⟨rfl, rfl, rfl⟩
  rw [hobj, hnext, hby]
  rw [hnext] at hp
  -- the key is stored with the caller's object first, so that it can own its terminal
  have hkeyed := hl.setByKey hp rfl
  have howning : ∀ o, o = (if l.registerTakesOwner (l.objects p) then l.takeOwnership p else l) →
      Rooted (o.setByKey (attachmentKey (l.objects p)) p) ∧ Extends l o ∧
        o.byKey = l.byKey ∧ o.nextPtr = l.nextPtr := by
    rintro o rfl
    split
    · have htaken := hkeyed.takeOwnership hp (by simp)
      exact ⟨htaken.1, ⟨htaken.2.nextPtr, htaken.2.ident, htaken.2.origin⟩, rfl, rfl⟩
    · exact ⟨hkeyed, .refl l, rfl, rfl⟩
  generalize ho : (if l.registerTakesOwner (l.objects p) then l.takeOwnership p else l) = o
  obtain ⟨hrooted, hextends, hbyKey, hnextPtr⟩ := howning o ho.symm
  have hpo : p < o.nextPtr := hnextPtr ▸ hp
  have hkey : attachmentKey (o.objects p) = attachmentKey (l.objects p) :=
    hextends.attachmentKey hp
  have hcopy : Rooted ((o.setByKey (attachmentKey (l.objects p)) p).alloc (o.objects p)) :=
    hrooted.alloc fun q hq he => hrooted.terminal q p hq hpo he
  have hcopied : Rooted (((o.setByKey (attachmentKey (l.objects p)) p).alloc
      (o.objects p)).setByKey (attachmentKey (l.objects p)) o.nextPtr) :=
    hcopy.setByKey (Nat.lt_succ_self _) (by
      rw [alloc_objects, setByKey_nextPtr, update_self]
      exact hkey)
  refine ⟨hcopied.congr (fun _ => rfl) rfl ?_ rfl, ?_, ?_⟩
  · simp
  · have hcopied := Extends.copy hpo
    exact (hext.trans hextends).trans ⟨hcopied.nextPtr, hcopied.ident, hcopied.origin⟩
  · simp [hbyKey, hnextPtr]

theorem syncStored_byKey (r : AttachmentRegistry) (p : Ptr) :
    (r.syncStored p).byKey.lookup (attachmentKey (r.objects p)) ≠ none ∧
    ∀ k, k ∈ (r.syncStored p).byKey → k ∈ r.byKey ∨ k = attachmentKey (r.objects p) := by
  unfold syncStored
  dsimp only
  split
  · next current hcur => exact ⟨by simp [hcur], fun k hk => .inl hk⟩
  · exact ⟨by simp, fun k hk => (mem_insert _).mp hk |>.symm⟩

theorem Rooted.syncStored (h : Rooted r) (hp : p < r.nextPtr) :
    Rooted (r.syncStored p) ∧ Extends r (r.syncStored p) := by
  unfold AttachmentRegistry.syncStored
  dsimp only
  split
  · exact ⟨(h.store (adopt_ident _ _)).store (withEpoch_ident _ _),
      (Extends.store (adopt_ident _ _)).trans (.store (withEpoch_ident _ _))⟩
  · exact ⟨h.setByKey hp rfl, .of_ident rfl fun _ => rfl⟩

theorem settleOwner_byKey (r : AttachmentRegistry) (p : Ptr) (takeOwner : Bool) (expected : Nat) :
    (r.settleOwner p takeOwner expected).byKey = r.byKey ∧
    (r.settleOwner p takeOwner expected).nextPtr = r.nextPtr := by
  simp only [settleOwner]
  split
  · exact ⟨rfl, rfl⟩
  split
  · obtain ⟨hby, hnext, _⟩ := releaseOwnership_frame r (r.objects p).terminalID
      (attachmentKey (r.objects p))
    exact ⟨hby, hnext⟩
  split <;> exact ⟨rfl, rfl⟩

theorem Rooted.settleOwner (h : Rooted r) (hp : p < r.nextPtr)
    (hstored : r.byKey.lookup (attachmentKey (r.objects p)) ≠ none) (takeOwner : Bool)
    (expected : Nat) : Rooted (r.settleOwner p takeOwner expected) ∧
      Extends r (r.settleOwner p takeOwner expected) := by
  simp only [AttachmentRegistry.settleOwner]
  split
  · exact h.takeOwnership hp hstored
  split
  · exact (h.setOwner (o := none) (by rintro _ ⟨⟩)).releaseOwnership _
  split
  · exact ⟨h.store (owning_ident _ _), .store (owning_ident _ _)⟩
  · exact ⟨h, .refl r⟩

/-- `update` stores the caller's key, whether or not it was known. -/
theorem Rooted.update (h : Rooted r) (hp : p < r.nextPtr) (size : Size) (takeOwner : Bool)
    (expected : Nat) : Rooted (r.update p size takeOwner expected).1 ∧
      Extends r (r.update p size takeOwner expected).1 ∧
      ∀ k, k ∈ (r.update p size takeOwner expected).1.byKey →
        k ∈ r.byKey ∨ k = attachmentKey (r.objects p) := by
  obtain ⟨hstored, hkeys⟩ := syncStored_byKey r p
  obtain ⟨hsync, hext⟩ := h.syncStored hp
  obtain ⟨hkey, _, _, hnext⟩ := syncStored_caller r p
  obtain ⟨hsettled, hext'⟩ := hsync.settleOwner (hnext ▸ hp) (by rwa [hkey]) takeOwner expected
  obtain ⟨hby, hnext'⟩ := settleOwner_byKey (r.syncStored p) p takeOwner expected
  have hall := hext.trans hext'
  refine ⟨hsettled.setByKey (by rw [hnext', hnext]; exact hp) (hall.attachmentKey hp),
    ⟨hall.nextPtr, hall.ident, hall.origin⟩, ?_⟩
  intro k hk
  rcases (mem_insert _).mp hk with rfl | hold
  · exact .inr rfl
  · rw [hby] at hold
    exact hkeys k hold

theorem changeLock_frame (r : AttachmentRegistry) (t : TerminalID) (locked : Bool) :
    (r.changeLock t locked).byKey = r.byKey ∧ (r.changeLock t locked).owners = r.owners ∧
    (r.changeLock t locked).nextPtr = r.nextPtr ∧
    ∀ q, ((r.changeLock t locked).objects q).ident = (r.objects q).ident := by
  unfold changeLock
  split
  · dsimp only
    split
    · exact ⟨rfl, rfl, rfl, fun q => store_ident (r := (r.advanceEpochLocked t).setLock t locked)
        (withEpoch_ident _ _) q⟩
    · exact ⟨rfl, rfl, rfl, fun _ => rfl⟩
  · exact ⟨rfl, rfl, rfl, fun _ => rfl⟩

theorem Rooted.setSizeLock (h : Rooted r) (hp : p < r.nextPtr) (size : Size) (locked : Bool) :
    Rooted (r.setSizeLock p size locked).1 ∧ Extends r (r.setSizeLock p size locked).1 ∧
    (r.setSizeLock p size locked).1.byKey = r.byKey := by
  simp only [AttachmentRegistry.setSizeLock]
  split
  · exact ⟨h, .refl r, rfl⟩
  split
  · exact ⟨h, .refl r, rfl⟩
  obtain ⟨hby, howners, hnext, hid⟩ := changeLock_frame r (r.objects p).terminalID locked
  have hlocked := h.congr hid hnext hby howners
  have hext : Extends r (r.changeLock (r.objects p).terminalID locked) := .of_ident hnext hid
  split
  · next current hcur =>
    -- the stored object has the key of the caller's, hence its terminal
    rw [← hext.attachmentKey hp] at hcur
    have hsame := hlocked.keyed _ current hcur
    have hident : ((r.changeLock (r.objects p).terminalID locked).objects current).ident =
        ((r.changeLock (r.objects p).terminalID locked).objects p).ident :=
      Prod.ext hsame (hlocked.terminal current p (hlocked.live _ current hcur) (hnext ▸ hp) hsame)
    exact ⟨hlocked.store hident, hext.trans (.store hident), hby⟩
  · exact ⟨hlocked, hext, hby⟩

end Registry

end Anytty.Provider
