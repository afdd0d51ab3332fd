import Anytty.Data.Update

/-!
# A ledger of obligations

An obligation is raised once, lies with one holder at a time, may be handed on, and ends by
being paid or by being forfeited. The ledger keeps who holds what and which obligations
were raised and paid. When every entry is valid for the ledger it is posted to, an
obligation is paid at most once; and every raised obligation is either paid or still held
exactly when none was forfeited, since a forfeited one is lost for good.
-/

namespace Anytty.Data

open Function List

/-- Obligations of type `ι`, held at places of type `π`. -/
structure Ledger (ι π : Type) where
  holder : ι → Option π
  raised : List ι
  paid : List ι

namespace Ledger

inductive Entry (ι π : Type)
  | raise (id : ι) (place : π)
  | hand (id : ι) (place : π)
  | pay (id : ι)
  | forfeit (id : ι)
deriving DecidableEq, Repr

def empty {ι π : Type} : Ledger ι π := ⟨fun _ => none, [], []⟩

variable {ι π : Type} [DecidableEq ι] {ledger : Ledger ι π} {entry : Entry ι π}
  {entries : List (Entry ι π)} {id : ι}

def post (ledger : Ledger ι π) : Entry ι π → Ledger ι π
  | .raise id place =>
    { ledger with
      holder := update ledger.holder id (some place), raised := id :: ledger.raised }
  | .hand id place => { ledger with holder := update ledger.holder id (some place) }
  | .pay id =>
    { ledger with holder := update ledger.holder id none, paid := id :: ledger.paid }
  | .forfeit id => { ledger with holder := update ledger.holder id none }

def postAll (ledger : Ledger ι π) (entries : List (Entry ι π)) : Ledger ι π :=
  entries.foldl post ledger

/-- Only a new obligation is raised, and only a held one is handed on or ended. -/
def Entry.Valid (ledger : Ledger ι π) : Entry ι π → Prop
  | .raise id _ => id ∉ ledger.raised
  | .hand id _ | .pay id | .forfeit id => (ledger.holder id).isSome

def Entry.isForfeit : Entry ι π → Bool
  | .forfeit _ => true
  | _ => false

/-- Each entry is valid when its turn comes. -/
def Valid (ledger : Ledger ι π) : List (Entry ι π) → Prop
  | [] => True
  | entry :: entries => entry.Valid ledger ∧ (ledger.post entry).Valid entries

theorem valid_append {more : List (Entry ι π)} :
    ledger.Valid (entries ++ more) ↔
      ledger.Valid entries ∧ (ledger.postAll entries).Valid more := by
  induction entries generalizing ledger with
  | nil => simp [Valid, postAll]
  | cons entry entries ih =>
    simp only [cons_append, Valid, ih, and_assoc]
    rfl

@[simp]
theorem postAll_append (ledger : Ledger ι π) (entries more : List (Entry ι π)) :
    ledger.postAll (entries ++ more) = (ledger.postAll entries).postAll more :=
  foldl_append

@[simp]
theorem postAll_nil (ledger : Ledger ι π) : ledger.postAll [] = ledger := rfl

@[simp]
theorem postAll_cons (ledger : Ledger ι π) (entry : Entry ι π) (entries : List (Entry ι π)) :
    ledger.postAll (entry :: entries) = (ledger.post entry).postAll entries := rfl

/-- What a ledger keeps when all its entries were valid. -/
structure Sound (ledger : Ledger ι π) : Prop where
  raised_nodup : ledger.raised.Nodup
  paid_nodup : ledger.paid.Nodup
  held : ∀ id place, ledger.holder id = some place → id ∈ ledger.raised
  paid : ∀ id ∈ ledger.paid, id ∈ ledger.raised ∧ ledger.holder id = none

omit [DecidableEq ι] in
theorem empty_sound : (empty : Ledger ι π).Sound where
  raised_nodup := nodup_nil
  paid_nodup := nodup_nil
  held := by
    intro id place h
    cases h
  paid := fun _ h => absurd h not_mem_nil

/-- Taking an obligation from its holder, whether paid or not. -/
theorem Sound.take (sound : ledger.Sound) (id other : ι) (place : π)
    (h : update ledger.holder id none other = some place) :
    other ∈ ledger.raised := by
  rcases update_eq_some h with ⟨-, none⟩ | ⟨-, old⟩
  · cases none
  · exact sound.held other place old

omit [DecidableEq ι] in
theorem Sound.not_paid (sound : ledger.Sound) (held : (ledger.holder id).isSome) :
    id ∉ ledger.paid := by
  intro paid
  rw [(sound.paid id paid).2] at held
  cases held

theorem Sound.post (sound : ledger.Sound) (valid : entry.Valid ledger) :
    (ledger.post entry).Sound := by
  cases entry with
  | raise id place =>
    refine ⟨nodup_cons.mpr ⟨valid, sound.raised_nodup⟩, sound.paid_nodup, ?_, ?_⟩
    · intro other there h
      rcases update_eq_some h with ⟨rfl, -⟩ | ⟨-, old⟩
      · exact mem_cons_self
      · exact mem_cons_of_mem _ (sound.held other there old)
    · intro other member
      obtain ⟨was, free⟩ := sound.paid other member
      have ne : other ≠ id := fun same => valid (same ▸ was)
      exact ⟨mem_cons_of_mem _ was, (update_of_ne ne _ _).trans free⟩
  | hand id place =>
    obtain ⟨there, held⟩ := Option.isSome_iff_exists.mp valid
    refine ⟨sound.raised_nodup, sound.paid_nodup, ?_, ?_⟩
    · intro other new h
      rcases update_eq_some h with ⟨rfl, -⟩ | ⟨-, old⟩
      · exact sound.held other there held
      · exact sound.held other new old
    · intro other member
      obtain ⟨was, free⟩ := sound.paid other member
      have ne : other ≠ id := fun same => sound.not_paid valid (same ▸ member)
      exact ⟨was, (update_of_ne ne _ _).trans free⟩
  | pay id =>
    obtain ⟨there, held⟩ := Option.isSome_iff_exists.mp valid
    have fresh := sound.not_paid valid
    refine ⟨sound.raised_nodup, nodup_cons.mpr ⟨fresh, sound.paid_nodup⟩,
      sound.take id, ?_⟩
    intro other member
    rcases mem_cons.mp member with rfl | member
    · exact ⟨sound.held other there held, update_self _ _ _⟩
    have ne : other ≠ id := fun same => fresh (same ▸ member)
    obtain ⟨was, free⟩ := sound.paid other member
    exact ⟨was, (update_of_ne ne _ _).trans free⟩
  | forfeit id =>
    refine { sound with held := sound.take id, paid := fun other member => ?_ }
    obtain ⟨was, free⟩ := sound.paid other member
    by_cases same : other = id
    · exact ⟨was, same ▸ update_self _ _ _⟩
    · exact ⟨was, (update_of_ne same _ _).trans free⟩

theorem Sound.postAll (sound : ledger.Sound) (valid : ledger.Valid entries) :
    (ledger.postAll entries).Sound := by
  induction entries generalizing ledger with
  | nil => exact sound
  | cons entry entries ih => exact ih (sound.post valid.1) valid.2

/-! ### Settled ledgers -/

/-- No obligation is lost. -/
def Settled (ledger : Ledger ι π) : Prop :=
  ∀ id ∈ ledger.raised, id ∈ ledger.paid ∨ (ledger.holder id).isSome

/-- Raised, and neither paid nor held. -/
structure Lost (ledger : Ledger ι π) (id : ι) : Prop where
  raised : id ∈ ledger.raised
  unpaid : id ∉ ledger.paid
  free : ledger.holder id = none

omit [DecidableEq ι] in
theorem Lost.not_settled (lost : ledger.Lost id) : ¬ ledger.Settled := by
  intro settled
  rcases settled id lost.raised with paid | held
  · exact lost.unpaid paid
  · rw [lost.free] at held
    cases held

omit [DecidableEq ι] in
theorem exists_lost (h : ¬ ledger.Settled) : ∃ id, ledger.Lost id := by
  unfold Settled at h
  push Not at h
  obtain ⟨id, raised, unpaid, free⟩ := h
  exact ⟨id, raised, unpaid, by simpa using free⟩

/-- What is lost stays lost: every entry about it would need a holder. -/
theorem Lost.post (lost : ledger.Lost id) (valid : entry.Valid ledger) :
    (ledger.post entry).Lost id := by
  have held_ne : ∀ other, (ledger.holder other).isSome → id ≠ other := by
    rintro other held rfl
    rw [lost.free] at held
    cases held
  cases entry with
  | raise other place =>
    have ne : id ≠ other := fun same => valid (same ▸ lost.raised)
    exact ⟨mem_cons_of_mem _ lost.raised, lost.unpaid,
      (update_of_ne ne _ _).trans lost.free⟩
  | hand other place | forfeit other =>
    exact ⟨lost.raised, lost.unpaid,
      (update_of_ne (held_ne other valid) _ _).trans lost.free⟩
  | pay other =>
    have ne := held_ne other valid
    refine ⟨lost.raised, ?_, (update_of_ne ne _ _).trans lost.free⟩
    exact fun member => (mem_cons.mp member).elim ne lost.unpaid

theorem Sound.forfeit_lost (sound : ledger.Sound) (held : (ledger.holder id).isSome) :
    (ledger.post (.forfeit id)).Lost id := by
  obtain ⟨place, there⟩ := Option.isSome_iff_exists.mp held
  exact ⟨sound.held id place there, sound.not_paid held, update_self _ _ _⟩

theorem settled_post (sound : ledger.Sound) (valid : entry.Valid ledger) :
    (ledger.post entry).Settled ↔ ledger.Settled ∧ entry.isForfeit = false := by
  constructor
  · intro settled
    refine ⟨?_, ?_⟩
    · by_contra lossy
      obtain ⟨id, lost⟩ := exists_lost lossy
      exact (lost.post valid).not_settled settled
    · cases entry with
      | forfeit id => exact absurd settled (sound.forfeit_lost valid).not_settled
      | _ => rfl
  · rintro ⟨settled, kept⟩ id member
    cases entry with
    | raise other place =>
      by_cases same : id = other
      · exact .inr (by simp [post, same])
      · have was : id ∈ ledger.raised := (mem_cons.mp member).resolve_left same
        exact (settled id was).imp_right fun held => by simpa [post, same] using held
    | hand other place =>
      refine (settled id member).imp_right fun held => ?_
      by_cases same : id = other
      · simp [post, same]
      · simpa [post, same] using held
    | pay other =>
      by_cases same : id = other
      · exact .inl (mem_cons.mpr (.inl same))
      · exact (settled id member).imp (mem_cons_of_mem _)
          fun held => by simpa [post, same] using held
    | forfeit other => cases kept

/-- A ledger stays settled exactly as long as nothing is forfeited. -/
theorem settled_postAll (sound : ledger.Sound) (valid : ledger.Valid entries) :
    (ledger.postAll entries).Settled ↔
      ledger.Settled ∧ ∀ entry ∈ entries, entry.isForfeit = false := by
  induction entries generalizing ledger with
  | nil => simp
  | cons entry entries ih =>
    rw [postAll_cons, ih (sound.post valid.1) valid.2, settled_post sound valid.1,
      forall_mem_cons, and_assoc]

omit [DecidableEq ι] in
theorem empty_settled : (empty : Ledger ι π).Settled := fun _ h => absurd h not_mem_nil

end Ledger

end Anytty.Data
