import Mathlib

/-!
# Triples for programs with state and errors

A program in `EStateM` leaves a state behind whether it succeeds or fails. `Triple P m Q E`
says that from a state with `P` it ends in a value and a state with `Q`, or fails in a state
with `E`. `Maintains I m` is the triple of an invariant; it passes from the steps of a
program to the program.
-/

namespace Anytty.Data

variable {ε σ α β : Type}

/-- The state after a run. -/
def stateOf : EStateM.Result ε σ α → σ
  | .ok _ s | .error _ s => s

/-- Partial correctness, with what holds after an error. -/
def Triple (P : σ → Prop) (m : EStateM ε σ α) (Q : α → σ → Prop) (E : σ → Prop) : Prop :=
  ∀ s, P s → match m s with
    | .ok a t => Q a t
    | .error _ t => E t

/-- `I` holds after `m`, with or without an error, if it held before. -/
def Maintains (I : σ → Prop) (m : EStateM ε σ α) : Prop := Triple I m (fun _ => I) I

namespace Triple

variable {P : σ → Prop} {Q : α → σ → Prop} {E : σ → Prop}

theorem pure {a : α} (h : ∀ s, P s → Q a s) : Triple P (pure a : EStateM ε σ α) Q E := h

theorem throw {e : ε} (h : ∀ s, P s → E s) : Triple P (throw e : EStateM ε σ α) Q E := h

theorem bind {m : EStateM ε σ α} {f : α → EStateM ε σ β} {R : β → σ → Prop}
    (first : Triple P m Q E) (rest : ∀ a, Triple (Q a) (f a) R E) :
    Triple P (m >>= f) R E := by
  intro s holds
  have before := first s holds
  change match EStateM.bind m f s with | .ok a t => R a t | .error _ t => E t
  unfold EStateM.bind
  cases step : m s with
  | ok a t =>
    rw [step] at before
    exact rest a t before
  | error e t =>
    rw [step] at before
    exact before

/-- What is read is the state. -/
theorem read {f : σ → EStateM ε σ α} (h : ∀ s, Triple (fun t => t = s ∧ P s) (f s) Q E) :
    Triple P (get >>= f) Q E := fun s holds => h s s ⟨rfl, holds⟩

theorem ite {c : Prop} [Decidable c] {m n : EStateM ε σ α} (pos : c → Triple P m Q E)
    (neg : ¬ c → Triple P n Q E) : Triple P (if c then m else n) Q E := by
  split
  · next holds => exact pos holds
  · next fails => exact neg fails

end Triple

namespace Maintains

variable {I : σ → Prop}

theorem pure (a : α) : Maintains I (pure a : EStateM ε σ α) := Triple.pure fun _ h => h

theorem throw (e : ε) : Maintains I (throw e : EStateM ε σ α) := Triple.throw fun _ h => h

theorem modify {f : σ → σ} (h : ∀ s, I s → I (f s)) :
    Maintains I (modify f : EStateM ε σ PUnit) := h

theorem bind {m : EStateM ε σ α} {f : α → EStateM ε σ β} (first : Maintains I m)
    (rest : ∀ a, Maintains I (f a)) : Maintains I (m >>= f) := Triple.bind first rest

theorem read {f : σ → EStateM ε σ α} (h : ∀ s, Maintains I (f s)) : Maintains I (get >>= f) :=
  fun s holds => h s s holds

theorem ite {c : Prop} [Decidable c] {m n : EStateM ε σ α} (pos : c → Maintains I m)
    (neg : ¬ c → Maintains I n) : Maintains I (if c then m else n) := Triple.ite pos neg

theorem stateOf {m : EStateM ε σ α} (maintains : Maintains I m) {s : σ} (holds : I s) :
    I (stateOf (m s)) := by
  have after := maintains s holds
  cases step : m s with
  | ok a t | error e t =>
    rw [step] at after
    exact after

end Maintains

end Anytty.Data
