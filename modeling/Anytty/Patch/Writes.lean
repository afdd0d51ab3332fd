import Mathlib

/-!
# Patching a list by writes

A patch is a sequence of writes, each putting one value at one position of a list.  Writes are
applied in order, a later write to a position overwrites an earlier one, and a write outside the
list does nothing.  The main rule is `applyWrites_eq_target`: a patch whose writes all agree with
a target, and which writes every position where the base differs from the target, turns the base
into the target, whatever the order of its writes and however often it writes a position.
-/

namespace Anytty.Patch

variable {α : Type*}

/-- The list after the writes, applied in order. -/
def applyWrites (base : List α) (writes : List (Nat × α)) : List α :=
  writes.foldl (fun rows write => rows.set write.1 write.2) base

/-- Every write puts at its position what the target has there. -/
def AgreesWith (writes : List (Nat × α)) (target : List α) : Prop :=
  ∀ write ∈ writes, target[write.1]? = some write.2

variable {base target : List α} {writes : List (Nat × α)}

@[simp] theorem applyWrites_nil (base : List α) : applyWrites base [] = base := rfl

@[simp] theorem applyWrites_cons (base : List α) (write : Nat × α) (writes : List (Nat × α)) :
    applyWrites base (write :: writes) = applyWrites (base.set write.1 write.2) writes := rfl

@[simp] theorem applyWrites_length (base : List α) (writes : List (Nat × α)) :
    (applyWrites base writes).length = base.length := by
  induction writes generalizing base with
  | nil => rfl
  | cons write writes ih => rw [applyWrites_cons, ih, List.length_set]

/-- A position that holds the target's value, or that some write reaches, holds the target's value
afterwards: no write that agrees with the target can spoil it again. -/
theorem getElem?_applyWrites {i : Nat}
    (agrees : AgreesWith writes target) (inside : i < base.length)
    (covered : base[i]? = target[i]? ∨ ∃ write ∈ writes, write.1 = i) :
    (applyWrites base writes)[i]? = target[i]? := by
  induction writes generalizing base with
  | nil =>
    rcases covered with same | ⟨write, mem, -⟩
    · exact same
    · exact absurd mem (List.not_mem_nil)
  | cons write writes ih =>
    have later : AgreesWith writes target := fun w mem => agrees w (List.mem_cons_of_mem _ mem)
    apply ih later (by rwa [List.length_set])
    by_cases here : write.1 = i
    · left
      rw [← here, List.getElem?_set_self (here ▸ inside)]
      exact (agrees write List.mem_cons_self).symm
    · rw [List.getElem?_set_ne here]
      rcases covered with same | ⟨w, mem, at_i⟩
      · exact .inl same
      rcases List.mem_cons.mp mem with rfl | mem
      · exact absurd at_i here
      · exact .inr ⟨w, mem, at_i⟩

/-- A patch that agrees with the target and covers every difference produces the target. -/
theorem applyWrites_eq_target
    (length : base.length = target.length) (agrees : AgreesWith writes target)
    (covered : ∀ i < target.length, base[i]? = target[i]? ∨ ∃ write ∈ writes, write.1 = i) :
    applyWrites base writes = target := by
  apply List.ext_getElem?
  intro i
  by_cases inside : i < target.length
  · exact getElem?_applyWrites agrees (length ▸ inside) (covered i inside)
  · rw [List.getElem?_eq_none (by rw [applyWrites_length, length]; omega),
      List.getElem?_eq_none (by omega)]

end Anytty.Patch
