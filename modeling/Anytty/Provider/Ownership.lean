import Anytty.Data.Update
import Anytty.Provider.Registry

/-!
# Ownership of terminals in the attachment registry

What every sequence of registry calls keeps: the owner of a terminal is a
stored attachment of that terminal, with policy `owner` and the terminal's
epoch; and the epoch of a terminal moves with its owner.
-/

namespace Anytty.Provider

open AttachmentRegistry Function

open Anytty.Data (update_eq_some)

/-! ## Calls on the registry -/

/-- What a caller of the registry does. A session builds an attachment (`new`),
writes to an attachment of its own that the registry does not hold (`assign`),
and passes attachments to the registry. `dispatchResize` stores the requested
policy in its attachment right before `update`; that write is the argument
`policy` here. -/
inductive Call
  | new (attachment : ProviderAttachment)
  | assign (p : Ptr) (attachment : ProviderAttachment)
  | register (p : Ptr) (size : Size) (initialSizeLocked : Bool)
  | update (p : Ptr) (policy : ResizePolicy) (size : Size) (takeOwner : Bool)
      (expectedOwnerEpoch : Nat)
  | unregister (p : Ptr)
  | setSizeLock (p : Ptr) (size : Size) (locked : Bool)
  | control (p : Ptr) (size : Size)

namespace AttachmentRegistry

variable (r : AttachmentRegistry)

/-- `attachment.resizePolicy = policy`, by the caller. -/
def setPolicy (p : Ptr) (policy : ResizePolicy) : AttachmentRegistry :=
  r.store p ((r.objects p).withPolicy policy)

def exec : Call → AttachmentRegistry
  | .new attachment => r.alloc attachment
  | .assign p attachment => r.store p attachment
  | .register p size initialSizeLocked => (r.register p size initialSizeLocked).1
  | .update p policy size takeOwner expectedOwnerEpoch =>
    ((r.setPolicy p policy).update p size takeOwner expectedOwnerEpoch).1
  | .unregister p => r.unregister p
  | .setSizeLock p size locked => (r.setSizeLock p size locked).1
  | .control _ _ => r

/-- A key names one attachment: `terminalID` is only set where an attachment is
built, under a channel number the session has never used before. -/
def SameTerminal (a : ProviderAttachment) : Prop :=
  ∀ q, q < r.nextPtr → attachmentKey (r.objects q) = attachmentKey a →
    (r.objects q).terminalID = a.terminalID

/-- The calls the callers can make in state `r`: pointers are to objects that
exist, a registered key is not present, and callers do not write to objects the
registry holds other than through `update`. -/
def Admissible : Call → Prop
  | .new attachment => r.SameTerminal attachment
  | .assign p attachment => p < r.nextPtr ∧ (∀ k, r.byKey.lookup k ≠ some p) ∧
      attachmentKey attachment = attachmentKey (r.objects p) ∧
      attachment.terminalID = (r.objects p).terminalID
  | .register p _ _ => p < r.nextPtr ∧ attachmentKey (r.objects p) ∉ r.byKey
  | .update p _ _ _ _ | .unregister p | .setSizeLock p _ _ | .control p _ => p < r.nextPtr

end AttachmentRegistry

/-! ## The ownership invariant -/

/-- `k` is an attachment of `t` that may own it: stored, of that terminal, with
policy `owner` and the epoch of `t`. -/
def OwnedBy (r : AttachmentRegistry) (t : TerminalID) (k : AttachmentKey) : Prop :=
  ∃ p, r.byKey.lookup k = some p ∧ (r.objects p).terminalID = t ∧
    (r.objects p).resizePolicy = .owner ∧ (r.objects p).epoch = r.epochs t

/-- The part of the invariant that does not speak about owners. -/
structure WellKeyed (r : AttachmentRegistry) : Prop where
  live : ∀ k p, r.byKey.lookup k = some p → p < r.nextPtr
  keyed : ∀ k p, r.byKey.lookup k = some p → attachmentKey (r.objects p) = k
  terminal : ∀ p q, p < r.nextPtr → q < r.nextPtr →
    attachmentKey (r.objects p) = attachmentKey (r.objects q) →
    (r.objects p).terminalID = (r.objects q).terminalID
  epoch_le : ∀ t, r.epochs t ≤ r.nextEpoch

structure OwnersValid (r : AttachmentRegistry) : Prop extends WellKeyed r where
  owned : ∀ t k, r.owners t = some k → OwnedBy r t k
  versioned : ∀ t k, r.owners t = some k → 0 < r.epochs t

/-! ## What the operations do -/

section Lemmas

section Attachment

variable (a caller : ProviderAttachment) (n : Nat) (policy : ResizePolicy)

@[simp] theorem owning_key : attachmentKey (a.owning n) = attachmentKey a := rfl
@[simp] theorem owning_terminalID : (a.owning n).terminalID = a.terminalID := rfl
@[simp] theorem owning_resizePolicy : (a.owning n).resizePolicy = .owner := rfl
@[simp] theorem owning_epoch : (a.owning n).epoch = n := rfl
@[simp] theorem adopt_self : a.adopt a = a := rfl
@[simp] theorem withEpoch_key : attachmentKey (a.withEpoch n) = attachmentKey a := rfl
@[simp] theorem withEpoch_terminalID : (a.withEpoch n).terminalID = a.terminalID := rfl
@[simp] theorem withEpoch_resizePolicy : (a.withEpoch n).resizePolicy = a.resizePolicy := rfl
@[simp] theorem withEpoch_epoch : (a.withEpoch n).epoch = n := rfl
@[simp] theorem withPolicy_key : attachmentKey (a.withPolicy policy) = attachmentKey a := rfl
@[simp] theorem withPolicy_terminalID : (a.withPolicy policy).terminalID = a.terminalID := rfl

end Attachment

variable {r r' : AttachmentRegistry} {t : TerminalID} {key k : AttachmentKey} {p q : Ptr}
  {a : ProviderAttachment}

theorem selectStep_inv {ex : AttachmentKey} {P : (Σ _ : AttachmentKey, Ptr) → Prop}
    {acc : Option (Σ _ : AttachmentKey, Ptr)} {e s : Σ _ : AttachmentKey, Ptr}
    (hacc : ∀ x, acc = some x → P x)
    (he : e.1 ≠ ex → (r.objects e.2).terminalID = t → P e)
    (h : r.selectStep t ex acc e = some s) : P s := by
  unfold selectStep at h
  by_cases hskip : e.1 = ex ∨ (r.objects e.2).terminalID ≠ t ∨
      (r.objects e.2).resizePolicy = .observer
  · exact hacc s (by simpa [hskip] using h)
  · simp only [hskip, if_false] at h
    simp only [not_or, not_not] at hskip
    cases acc with
    | none => cases h; exact he hskip.1 hskip.2.1
    | some best =>
      simp only at h
      split at h
      · cases h; exact he hskip.1 hskip.2.1
      · exact hacc s h

/-- The attachment selected for promotion is stored, of the terminal, and not
the excluded one. -/
theorem selectOwner_spec {ex : AttachmentKey} {s : Σ _ : AttachmentKey, Ptr}
    (h : r.selectOwner t ex = some s) :
    r.byKey.lookup s.1 = some s.2 ∧ s.1 ≠ ex ∧ (r.objects s.2).terminalID = t := by
  suffices H : ∀ (l : List (Σ _ : AttachmentKey, Ptr)) (acc : Option (Σ _ : AttachmentKey, Ptr)),
      (∀ e ∈ l, e ∈ r.byKey.entries) →
      (∀ x, acc = some x → x ∈ r.byKey.entries ∧ x.1 ≠ ex ∧ (r.objects x.2).terminalID = t) →
      l.foldl (r.selectStep t ex) acc = some s →
      s ∈ r.byKey.entries ∧ s.1 ≠ ex ∧ (r.objects s.2).terminalID = t by
    obtain ⟨hmem, hrest⟩ := H _ none (fun _ he => he) (fun _ hx => nomatch hx) h
    exact ⟨AList.mem_lookup_iff.mpr hmem, hrest⟩
  intro l
  induction l with
  | nil => intro acc _ hacc hs; exact hacc s hs
  | cons e l ih =>
    intro acc hl hacc hs
    refine ih _ (fun x hx => hl x (List.mem_cons_of_mem _ hx)) (fun x hx => ?_) hs
    exact selectStep_inv hacc (fun h1 h2 => ⟨hl e List.mem_cons_self, h1, h2⟩) hx

/-- What giving up the ownership of `t` does: another attachment of `t` is made
owner, or nobody; in both cases `t` takes a new epoch. -/
theorem releaseOwnership_cases (r : AttachmentRegistry) (t : TerminalID) (key : AttachmentKey) :
    (∃ k q, r.byKey.lookup k = some q ∧ k ≠ key ∧ (r.objects q).terminalID = t ∧
      r.releaseOwnership t key =
        ((r.advanceEpochLocked t).store q ((r.objects q).owning (r.nextEpoch + 1))).setOwner
          t (some k)) ∨
    r.releaseOwnership t key = (r.advanceEpochLocked t).setOwner t none := by
  unfold releaseOwnership promoteOwnerLocked
  cases hs : (r.setOwner t none).selectOwner t key with
  | none => exact .inr rfl
  | some s =>
    obtain ⟨hl, hk, ht⟩ := selectOwner_spec hs
    refine .inl ⟨s.1, s.2, hl, hk, ht, ?_⟩
    simp [setOwner, store, advanceEpochLocked]

/-- What never changes about an attachment object. -/
def ProviderAttachment.ident (a : ProviderAttachment) : AttachmentKey × TerminalID :=
  (attachmentKey a, a.terminalID)

/-- Every stored object has its key, and objects of one key are of one terminal. -/
structure Keyed (r : AttachmentRegistry) : Prop where
  live : ∀ k p, r.byKey.lookup k = some p → p < r.nextPtr
  keyed : ∀ k p, r.byKey.lookup k = some p → attachmentKey (r.objects p) = k
  terminal : ∀ p q, p < r.nextPtr → q < r.nextPtr →
    attachmentKey (r.objects p) = attachmentKey (r.objects q) →
    (r.objects p).terminalID = (r.objects q).terminalID

theorem store_ident (hid : a.ident = (r.objects p).ident) (q : Ptr) :
    ((r.store p a).objects q).ident = (r.objects q).ident := by
  by_cases hq : q = p
  · subst hq
    simpa using hid
  · simp [hq]

theorem Keyed.congr (h : Keyed r) (hid : ∀ q, (r'.objects q).ident = (r.objects q).ident)
    (hn : r'.nextPtr = r.nextPtr) (hk : r'.byKey = r.byKey) : Keyed r' := by
  have hkey : ∀ q, attachmentKey (r'.objects q) = attachmentKey (r.objects q) := fun q =>
    congrArg Prod.fst (hid q)
  have hterm : ∀ q, (r'.objects q).terminalID = (r.objects q).terminalID := fun q =>
    congrArg Prod.snd (hid q)
  refine ⟨?_, ?_, ?_⟩
  · rw [hk, hn]
    exact h.live
  · intro k p hp
    rw [hkey]
    exact h.keyed k p (hk ▸ hp)
  · intro p q hp hq he
    rw [hterm, hterm]
    exact h.terminal p q (hn ▸ hp) (hn ▸ hq) (by rwa [hkey, hkey] at he)

theorem Keyed.setByKey (h : Keyed r) (hp : p < r.nextPtr)
    (hkey : attachmentKey (r.objects p) = key) : Keyed (r.setByKey key p) := by
  have hlook : ∀ k q, (r.setByKey key p).byKey.lookup k = some q →
      (k = key ∧ q = p) ∨ r.byKey.lookup k = some q := by
    intro k q hq
    by_cases hk : k = key
    · subst hk
      rw [setByKey_byKey, AList.lookup_insert] at hq
      exact .inl ⟨rfl, (Option.some.inj hq).symm⟩
    · rw [setByKey_byKey, AList.lookup_insert_ne hk] at hq
      exact .inr hq
  refine ⟨?_, ?_, h.terminal⟩
  · intro k q hq
    rcases hlook k q hq with ⟨_, rfl⟩ | hold
    · exact hp
    · exact h.live k q hold
  · intro k q hq
    rcases hlook k q hq with ⟨rfl, rfl⟩ | hold
    · exact hkey
    · exact h.keyed k q hold

theorem alloc_old (a : ProviderAttachment) (hq : q < r.nextPtr) :
    (r.alloc a).objects q = r.objects q :=
  update_of_ne (Nat.ne_of_lt hq) _ _

/-- A new object either has a new key or the identity of another object. -/
theorem Keyed.alloc (h : Keyed r) (ha : r.SameTerminal a) : Keyed (r.alloc a) := by
  have hnew : (r.alloc a).objects r.nextPtr = a := update_self _ _ _
  have hsplit : ∀ q, q < (r.alloc a).nextPtr → q < r.nextPtr ∨ q = r.nextPtr := fun q hq =>
    Nat.lt_succ_iff_lt_or_eq.mp hq
  refine ⟨fun k q hq => Nat.lt_succ_of_lt (h.live k q hq), ?_, ?_⟩
  · intro k q hq
    rw [alloc_old a (h.live k q hq)]
    exact h.keyed k q hq
  · intro q q' hq hq' he
    rcases hsplit q hq with hlt | rfl <;> rcases hsplit q' hq' with hlt' | rfl
    · rw [alloc_old a hlt, alloc_old a hlt'] at he ⊢
      exact h.terminal q q' hlt hlt' he
    · rw [alloc_old a hlt, hnew] at he ⊢
      exact ha q hlt he
    · rw [alloc_old a hlt', hnew] at he ⊢
      exact (ha q' hlt' he.symm).symm
    · rfl

theorem lookup_of_erase {α : Type} [DecidableEq α] {m : AList fun _ : α => Ptr} {a b : α}
    (h : (m.erase a).lookup b = some p) : m.lookup b = some p := by
  by_cases he : b = a
  · subst he
    simp at h
  · rwa [AList.lookup_erase_ne he] at h

theorem Keyed.erase (h : Keyed r) (key : AttachmentKey) :
    Keyed { r with byKey := r.byKey.erase key } :=
  ⟨fun k q hq => h.live k q (lookup_of_erase hq), fun k q hq => h.keyed k q (lookup_of_erase hq),
    h.terminal⟩

theorem WellKeyed.toKeyed (h : WellKeyed r) : Keyed r := ⟨h.live, h.keyed, h.terminal⟩

/-- The invariant while the entry of `key` is being rewritten: every owner other
than `key` is in order, and `key` owns no terminal but its own. -/
structure OthersValid (key : AttachmentKey) (r : AttachmentRegistry) : Prop extends
    WellKeyed r where
  owned : ∀ t k, r.owners t = some k → k ≠ key → OwnedBy r t k
  versioned : ∀ t k, r.owners t = some k → 0 < r.epochs t
  home : ∀ t p, r.owners t = some key → p < r.nextPtr → attachmentKey (r.objects p) = key →
    (r.objects p).terminalID = t

theorem ownedBy_congr (h : OwnedBy r t k) (hl : r'.byKey.lookup k = r.byKey.lookup k)
    (ho : ∀ p, r.byKey.lookup k = some p → r'.objects p = r.objects p)
    (he : r'.epochs t = r.epochs t) : OwnedBy r' t k := by
  obtain ⟨p, hp, ht, hpol, hep⟩ := h
  refine ⟨p, hl.trans hp, ?_⟩
  rw [ho p hp, he]
  exact ⟨ht, hpol, hep⟩

theorem OwnersValid.others (h : OwnersValid r) (key : AttachmentKey) : OthersValid key r where
  toWellKeyed := h.toWellKeyed
  owned := fun t k hk _ => h.owned t k hk
  versioned := h.versioned
  home := by
    intro t p ht hp hkey
    obtain ⟨q, hq, hterm, _⟩ := h.owned t key ht
    have hsame := h.terminal p q hp (h.live _ _ hq) (hkey.trans (h.keyed _ _ hq).symm)
    exact hsame.trans hterm

section

variable (h : OthersValid key r)
include h

namespace OthersValid

theorem ownersValid (hkey : ∀ t, r.owners t = some key → OwnedBy r t key) : OwnersValid r where
  toWellKeyed := h.toWellKeyed
  versioned := h.versioned
  owned := by
    intro t k hk
    by_cases hkk : k = key
    · subst hkk; exact hkey t hk
    · exact h.owned t k hk hkk

/-- Writing an object that no owner but `key` uses, and that keeps its identity. -/
theorem storeFree (hfree : ∀ t k, r.owners t = some k → k ≠ key → r.byKey.lookup k ≠ some p)
    (hkey : attachmentKey a = attachmentKey (r.objects p))
    (hterm : a.terminalID = (r.objects p).terminalID) : OthersValid key (r.store p a) := by
  have hid := store_ident (r := r) (p := p) (a := a) (Prod.ext hkey hterm)
  refine { h.toKeyed.congr hid rfl rfl with
    epoch_le := h.epoch_le, owned := ?_, versioned := h.versioned, home := ?_ }
  · intro t k hk hne
    refine ownedBy_congr (h.owned t k hk hne) rfl (fun q hq => ?_) rfl
    have hqp : q ≠ p := by
      intro he
      subst he
      exact hfree t k hk hne hq
    exact update_of_ne hqp _ _
  · intro t q ht hq hqk
    obtain ⟨hkey, hterm⟩ := Prod.ext_iff.1 (hid q)
    exact hterm.trans (h.home t q ht hq (hkey.symm.trans hqk))

theorem store (hp : attachmentKey (r.objects p) = key) (hkey : attachmentKey a = key)
    (hterm : a.terminalID = (r.objects p).terminalID) : OthersValid key (r.store p a) := by
  refine h.storeFree ?_ (hkey.trans hp.symm) hterm
  intro t k _ hne hq
  exact hne ((h.keyed k p hq).symm.trans hp)

theorem setByKey (hp : p < r.nextPtr)
    (hkey : attachmentKey (r.objects p) = key) : OthersValid key (r.setByKey key p) := by
  refine { h.toKeyed.setByKey hp hkey with
    epoch_le := h.epoch_le, owned := ?_, versioned := h.versioned, home := h.home }
  intro t k hk hne
  exact ownedBy_congr (h.owned t k hk hne) (AList.lookup_insert_ne hne) (fun _ _ => rfl) rfl

theorem alloc (hp : p < r.nextPtr) (hkey : attachmentKey a = attachmentKey (r.objects p))
    (hterm : a.terminalID = (r.objects p).terminalID) : OthersValid key (r.alloc a) := by
  have ha : r.SameTerminal a := fun q hq he =>
    (h.terminal q p hq hp (he.trans hkey)).trans hterm.symm
  refine { h.toKeyed.alloc ha with
    epoch_le := h.epoch_le, owned := ?_, versioned := h.versioned, home := ?_ }
  · intro t k hk hne
    exact ownedBy_congr (h.owned t k hk hne) rfl (fun q hq => alloc_old a (h.live k q hq)) rfl
  · intro t q ht hq hqk
    rcases Nat.lt_succ_iff_lt_or_eq.mp hq with hlt | rfl
    · rw [alloc_old a hlt] at hqk ⊢
      exact h.home t q ht hlt hqk
    · rw [alloc_objects, update_self] at hqk ⊢
      exact hterm.trans (h.home t p ht hp (hkey.symm.trans hqk))

theorem erase : OthersValid key { r with byKey := r.byKey.erase key } := by
  refine { h.toKeyed.erase key with
    epoch_le := h.epoch_le, owned := ?_, versioned := h.versioned, home := h.home }
  intro t k hk hne
  exact ownedBy_congr (h.owned t k hk hne) (AList.lookup_erase_ne hne) (fun _ _ => rfl) rfl

/-- `t` takes a new epoch while it is owned by `key` or by nobody. -/
theorem advance
    (ht : ∀ k, r.owners t = some k → k = key) : OthersValid key (r.advanceEpochLocked t) := by
  refine { live := h.live, keyed := h.keyed, terminal := h.terminal, epoch_le := ?_, owned := ?_,
           versioned := ?_, home := h.home }
  · intro t'
    by_cases he : t' = t
    · subst he; simp
    · simp only [advanceEpochLocked_epochs, update_of_ne he, advanceEpochLocked_nextEpoch]
      exact Nat.le_succ_of_le (h.epoch_le t')
  · intro t' k hk hne
    refine ownedBy_congr (h.owned t' k hk hne) rfl (fun _ _ => rfl) ?_
    have htt : t' ≠ t := by
      intro he
      subst he
      exact hne (ht k hk)
    exact update_of_ne htt _ _
  · intro t' k hk
    by_cases he : t' = t
    · subst he; simp
    · simp only [advanceEpochLocked_epochs, update_of_ne he]
      exact h.versioned t' k hk

theorem setOwner {o : Option AttachmentKey}
    (hown : ∀ k, o = some k → 0 < r.epochs t ∧ (k ≠ key → OwnedBy r t k) ∧
      (k = key → ∃ p, p < r.nextPtr ∧ attachmentKey (r.objects p) = key ∧
        (r.objects p).terminalID = t)) :
    OthersValid key (r.setOwner t o) := by
  refine { live := h.live, keyed := h.keyed, terminal := h.terminal, epoch_le := h.epoch_le,
           owned := ?_, versioned := ?_, home := ?_ }
  · intro t' k hk hne
    rcases update_eq_some hk with ⟨rfl, ho⟩ | ⟨_, hk⟩
    · exact (hown k ho).2.1 hne
    · exact h.owned t' k hk hne
  · intro t' k hk
    rcases update_eq_some hk with ⟨rfl, ho⟩ | ⟨_, hk⟩
    · exact (hown k ho).1
    · exact h.versioned t' k hk
  · intro t' q hk hq hqk
    rcases update_eq_some hk with ⟨rfl, ho⟩ | ⟨_, hk⟩
    · obtain ⟨p, hp, hpk, hpt⟩ := (hown key ho).2.2 rfl
      exact (h.terminal q p hq hp (hqk.trans hpk.symm)).trans hpt
    · exact h.home t' q hk hq hqk

section

variable (hp : p < r.nextPtr) (hkey : attachmentKey (r.objects p) = key)

include hp hkey

theorem takeOwnership : OthersValid key (r.takeOwnership p) := by
  have hfree := h.setOwner (t := (r.objects p).terminalID) (o := none) (fun _ ho => nomatch ho)
  have hnew := hfree.advance (t := (r.objects p).terminalID) (fun k hk => by simp at hk)
  have hwritten := hnew.store (p := p)
    (a := (r.objects p).owning (r.nextEpoch + 1))
    (by simp only [advanceEpochLocked_objects, setOwner_objects]; exact hkey)
    hkey rfl
  have hdone := hwritten.setOwner (t := (r.objects p).terminalID) (o := some key) (by
    intro k hk
    cases hk
    refine ⟨by simp, absurd rfl, fun _ => ⟨p, hp, ?_, by simp⟩⟩
    simp only [store_objects, update_self]
    exact hkey)
  subst hkey
  simpa [AttachmentRegistry.takeOwnership, AttachmentRegistry.setOwner, AttachmentRegistry.store,
    advanceEpochLocked] using hdone

/-- Promotion writes to the object of another key, which owns nothing while `t`
has no owner. -/
theorem release (ht : (r.objects p).terminalID = t) : OwnersValid (r.releaseOwnership t key) := by
  have hfree := h.setOwner (t := t) (o := none) (fun _ ho => nomatch ho)
  have hnew := hfree.advance (t := t) (fun k hk => by simp at hk)
  -- `key` itself owns nothing any more
  have hnone : ∀ {r' : AttachmentRegistry}, (∀ t' ≠ t, r'.owners t' = r.owners t') →
      r'.owners t ≠ some key → ∀ t', r'.owners t' = some key → OwnedBy r' t' key := by
    intro r' hothers hself t' ht'
    by_cases he : t' = t
    · exact absurd (he ▸ ht') hself
    · exact absurd ((h.home t' p ((hothers t' he).symm.trans ht') hp hkey).symm.trans ht) he
  rcases releaseOwnership_cases r t key with ⟨k, q, hq, hk, hqt, heq⟩ | heq
  · have hwritten := hnew.storeFree (p := q)
      (a := (r.objects q).owning (r.nextEpoch + 1))
      (by
        intro t' k' hk' hne hq'
        have hkk : k' = k := (h.keyed k' q hq').symm.trans (h.keyed k q hq)
        subst hkk
        by_cases he : t' = t
        · subst he; simp at hk'
        obtain ⟨q₂, hq₂, hterm, _⟩ := h.owned t' k' (by
          simpa [update_of_ne he] using hk') hk
        rw [hq] at hq₂
        cases hq₂
        exact he (hterm.symm.trans hqt))
      rfl rfl
    have hdone := hwritten.setOwner (t := t) (o := some k) (by
      intro k' hk'
      cases hk'
      refine ⟨by simp, fun _ => ⟨q, hq, by simp [hqt], by simp, by simp⟩, fun he => absurd he hk⟩)
    have hall := hdone.ownersValid
      (hnone (fun t' he => by simp [update_of_ne he]) (by simp [hk]))
    rw [heq]
    simpa [AttachmentRegistry.setOwner, AttachmentRegistry.store, advanceEpochLocked] using hall
  · have hall := hnew.ownersValid (hnone (fun t' he => by simp [update_of_ne he]) (by simp))
    rw [heq]
    simpa [AttachmentRegistry.setOwner, advanceEpochLocked] using hall

end

end OthersValid

omit h in
/-- The first block of `update` leaves identity and policy of the caller's object
alone, also when that object is the stored one. -/
theorem syncStored_caller (r : AttachmentRegistry) (p : Ptr) :
    attachmentKey ((r.syncStored p).objects p) = attachmentKey (r.objects p) ∧
    ((r.syncStored p).objects p).terminalID = (r.objects p).terminalID ∧
    ((r.syncStored p).objects p).resizePolicy = (r.objects p).resizePolicy ∧
    (r.syncStored p).nextPtr = r.nextPtr := by
  cases hq : r.byKey.lookup (attachmentKey (r.objects p)) with
  | none => simp [syncStored, hq]
  | some current =>
    simp only [syncStored, hq]
    by_cases hpc : p = current
    · subst hpc; simp
    · simp [update_of_ne hpc]

section

variable (hp : p < r.nextPtr) (hkey : attachmentKey (r.objects p) = key)

include hp hkey

theorem OthersValid.syncStored : OthersValid key (r.syncStored p) := by
  subst hkey
  cases hq : r.byKey.lookup (attachmentKey (r.objects p)) with
  | none =>
    simp only [syncStored, hq]
    exact h.setByKey hp rfl
  | some current =>
    have hcaller := syncStored_caller r p
    simp only [syncStored, hq, store_objects, update_self,
      withEpoch_key] at hcaller
    simp only [syncStored, hq]
    have hcur : attachmentKey (r.objects current) = attachmentKey (r.objects p) := h.keyed _ _ hq
    have hone := h.store (p := current) (a := (r.objects current).adopt (r.objects p)) hcur hcur rfl
    exact hone.store hcaller.1 hcaller.1 rfl

/-- The entry `key` is in order once it is stored at `p`, if the object at `p` is
that of an owner whenever `key` owns its terminal. -/
theorem OthersValid.finish
    (hown : r.owners (r.objects p).terminalID = some key →
      (r.objects p).resizePolicy = .owner ∧
      (r.objects p).epoch = r.epochs (r.objects p).terminalID) :
    OwnersValid (r.setByKey key p) := by
  refine (h.setByKey hp hkey).ownersValid (fun t ht => ?_)
  have hterm := h.home t p ht hp hkey
  subst hterm
  obtain ⟨hpol, hep⟩ := hown ht
  exact ⟨p, by simp, rfl, hpol, hep⟩

end

omit h in
theorem releaseOwnership_frame (r : AttachmentRegistry) (t : TerminalID) (key : AttachmentKey) :
    (r.releaseOwnership t key).byKey = r.byKey ∧
    (r.releaseOwnership t key).nextPtr = r.nextPtr ∧
    (r.releaseOwnership t key).sizeLocks = r.sizeLocks ∧
    (r.releaseOwnership t key).owners t ≠ some key := by
  rcases releaseOwnership_cases r t key with ⟨k, q, _, hk, _, heq⟩ | heq
  · rw [heq]; simp [hk]
  · rw [heq]; simp

/-- A promotion does not touch the objects of `key`. -/
theorem OthersValid.release_objects (hkey : attachmentKey (r.objects p) = key) :
    (r.releaseOwnership t key).objects p = r.objects p := by
  rcases releaseOwnership_cases r t key with ⟨k, q, hq, hk, _, heq⟩ | heq
  · have hpq : p ≠ q := by
      intro he
      subst he
      exact hk ((h.keyed k p hq).symm.trans hkey)
    rw [heq]
    simp [update_of_ne hpq]
  · rw [heq]; simp

theorem OthersValid.ownerEpoch (ht : r.owners t = some k) : r.ownerEpoch t = r.epochs t := by
  have hpos := h.versioned t k ht
  unfold AttachmentRegistry.ownerEpoch
  rw [if_neg (by omega)]

/-- `update` leaves a valid registry, whatever the caller stored in its
attachment before. -/
theorem OthersValid.update (hp : p < r.nextPtr)
    (hkey : attachmentKey (r.objects p) = key) (size : Size) (takeOwner : Bool) (expected : Nat) :
    OwnersValid (r.update p size takeOwner expected).1 := by
  have hs := h.syncStored hp hkey
  obtain ⟨hsk, _, _, hsn⟩ := syncStored_caller r p
  rw [hkey] at hsk
  have hsp : p < (r.syncStored p).nextPtr := hsn ▸ hp
  simp only [AttachmentRegistry.update, AttachmentRegistry.settleOwner, hkey, hsk]
  split
  · -- take-over
    refine (hs.takeOwnership hsp hsk).finish hsp ?_ (fun _ => ?_)
    · simpa [AttachmentRegistry.takeOwnership] using hsk
    · simp [AttachmentRegistry.takeOwnership]
  split
  · -- demotion of the owner by itself
    next hdem =>
    have hrel := hs.release hsp hsk rfl
    obtain ⟨_, hn, _, hout⟩ := releaseOwnership_frame (r.syncStored p)
      ((r.syncStored p).objects p).terminalID key
    have hobj := hs.release_objects (t := ((r.syncStored p).objects p).terminalID) hsk
    refine (hrel.others key).finish (hn ▸ hsp) (by rw [hobj]; exact hsk) (fun hc => ?_)
    rw [hobj] at hc
    exact absurd hc hout
  split
  · next hown =>
    refine (hs.store (a := ((r.syncStored p).objects p).owning _) hsk hsk rfl).finish hsp ?_
      (fun _ => ?_)
    · simpa using hsk
    · simpa using hs.ownerEpoch hown
  · next hown => exact hs.finish hsp hsk (fun hc => absurd hc hown)

omit h in
theorem OwnersValid.unregister (h : OwnersValid r) (hp : p < r.nextPtr) :
    OwnersValid (r.unregister p) := by
  have hs := (h.others (attachmentKey (r.objects p))).erase
  simp only [AttachmentRegistry.unregister]
  split
  · exact hs.release hp rfl rfl
  next hown =>
  refine hs.ownersValid (fun t ht => ?_)
  have hterm := hs.home t p ht hp rfl
  subst hterm
  exact absurd ht hown

theorem OthersValid.setLock (locked : Bool) : OthersValid key (r.setLock t locked) :=
  { live := h.live, keyed := h.keyed, terminal := h.terminal, epoch_le := h.epoch_le,
    owned := fun t' k hk hne => ownedBy_congr (h.owned t' k hk hne) rfl (fun _ _ => rfl) rfl,
    versioned := h.versioned, home := h.home }

theorem OthersValid.initialLock (locked : Bool) : OthersValid key (r.initialLock t locked) := by
  unfold AttachmentRegistry.initialLock
  split
  · exact h.setLock true
  · exact h

end

/-- `initialLock` stores a first lock for its terminal, and changes nothing else. -/
theorem initialLock_spec (r : AttachmentRegistry) (t : TerminalID) (locked : Bool) :
    ∃ locks, r.initialLock t locked = { r with sizeLocks := locks } ∧
      ∀ u, locks u = r.sizeLocks u ∨ u = t ∧ r.sizeLocks t = none ∧ locked = true := by
  unfold initialLock
  split
  · next hfirst =>
    refine ⟨_, rfl, fun u => ?_⟩
    by_cases hu : u = t
    · exact .inr ⟨hu, hfirst⟩
    · exact .inl (update_of_ne hu _ _)
  · exact ⟨_, rfl, fun _ => .inl rfl⟩

section

variable (h : OwnersValid r)

include h

theorem OwnersValid.register (hp : p < r.nextPtr)
    (hnew : attachmentKey (r.objects p) ∉ r.byKey) (size : Size) (locked : Bool) :
    OwnersValid (r.register p size locked).1 := by
  have hs := (h.others (attachmentKey (r.objects p))).initialLock
    (t := (r.objects p).terminalID) locked
  -- an unknown key owns nothing
  have hnone : ∀ t, r.owners t ≠ some (attachmentKey (r.objects p)) := by
    intro t ht
    obtain ⟨q, hq, _⟩ := h.owned t _ ht
    rw [AList.lookup_eq_none.mpr hnew] at hq
    cases hq
  obtain ⟨locks, hinit, -⟩ := initialLock_spec r (r.objects p).terminalID locked
  simp only [AttachmentRegistry.register]
  rw [hinit] at hs ⊢
  split
  · have ht := hs.takeOwnership hp rfl
    refine (ht.alloc (p := p) hp rfl rfl).finish (Nat.lt_succ_self _) ?_ (fun _ => ?_)
    · simp [takeOwnership]
    · simp [takeOwnership]
  · refine (hs.alloc (p := p) hp rfl rfl).finish (Nat.lt_succ_self _) ?_ (fun hc => ?_)
    · simp
    · simp only [alloc_objects, update_self, alloc_owners] at hc
      exact absurd hc (hnone _)

/-- The lock change keeps the owner's epoch in step with the epoch of the
terminal. -/
theorem OwnersValid.changeLock (ht : r.owners t = some key)
    (locked : Bool) :
    OwnersValid (r.changeLock t locked) ∧ (r.changeLock t locked).byKey = r.byKey ∧
    (r.changeLock t locked).nextPtr = r.nextPtr ∧
    ∀ q, attachmentKey ((r.changeLock t locked).objects q) = attachmentKey (r.objects q) ∧
      ((r.changeLock t locked).objects q).terminalID = (r.objects q).terminalID := by
  obtain ⟨current, hcur, hterm, hpol, _⟩ := h.owned t key ht
  unfold AttachmentRegistry.changeLock
  split
  · have hptr : ((r.advanceEpochLocked t).setLock t locked).ownerPtr t = some current := by
      simp [ownerPtr, ht, hcur]
    have hkc := h.keyed key current hcur
    simp only [hptr]
    have hs := (((h.others key).advance (t := t) (fun k hk => by
      rw [ht] at hk; cases hk; rfl)).setLock (t := t) locked).store (p := current)
        (a := (r.objects current).withEpoch (r.nextEpoch + 1)) hkc hkc rfl
    refine ⟨hs.ownersValid (fun t' ht' => ?_), rfl, rfl, fun q => ?_⟩
    · have hsame : t' = t := (hs.home t' current ht' (h.live _ _ hcur) (by simpa using hkc)).symm.trans
        (by simpa using hterm)
      subst hsame
      exact ⟨current, hcur, by simpa using hterm, by simpa using hpol, by simp⟩
    · by_cases hq : q = current
      · subst hq; simp
      · simp [update_of_ne hq]
  · exact ⟨h, rfl, rfl, fun q => ⟨rfl, rfl⟩⟩

theorem OwnersValid.setSizeLock (hp : p < r.nextPtr) (size : Size)
    (locked : Bool) : OwnersValid (r.setSizeLock p size locked).1 := by
  simp only [AttachmentRegistry.setSizeLock]
  cases hq : r.byKey.lookup (attachmentKey (r.objects p)) with
  | none => exact h
  | some current =>
    simp only
    split
    · exact h
    next hown =>
    simp only [not_or, not_not] at hown
    obtain ⟨hv, hby, hnext, hid⟩ := h.changeLock hown.1 locked
    simp only [hby, hq]
    have hkc : attachmentKey (r.objects current) = attachmentKey (r.objects p) := h.keyed _ _ hq
    have hterm : (r.objects current).terminalID = (r.objects p).terminalID :=
      h.terminal _ _ (h.live _ _ hq) hp hkc
    have hs := (hv.others (attachmentKey (r.objects p))).store (p := p)
      (a := (r.changeLock (r.objects p).terminalID locked).objects current)
      (hid p).1 ((hid current).1.trans hkc) (by rw [(hid current).2, (hid p).2, hterm])
    refine hs.ownersValid (fun t ht => ?_)
    obtain ⟨q, hlook, hqt, hpol, hep⟩ := hv.owned t _ ht
    have hqc : q = current := by
      rw [hby, hq] at hlook
      exact (Option.some.inj hlook).symm
    subst hqc
    refine ⟨q, hlook, ?_⟩
    -- the object read back is the stored one, also when the caller shares it
    rw [store_objects, update_apply, ite_self]
    exact ⟨hqt, hpol, hep⟩

theorem OwnersValid.alloc (ha : r.SameTerminal a) : OwnersValid (r.alloc a) := by
  refine { h.toKeyed.alloc ha with epoch_le := h.epoch_le, owned := ?_, versioned := h.versioned }
  intro t k hk
  exact ownedBy_congr (h.owned t k hk) rfl (fun q hq => alloc_old a (h.live k q hq)) rfl

end

end Lemmas

end Anytty.Provider
