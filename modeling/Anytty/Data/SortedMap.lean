import Mathlib

/-!
# Finite maps as sorted lists

A finite map is the list of its entries in the order of their keys. Two maps with the
same entries are equal, and a loop over the keys in their order is a fold over the list.
-/

namespace Anytty.Data

open List

/-- A finite map from `κ` to `ν`. -/
structure SortedMap (κ ν : Type) [LinearOrder κ] where
  entries : List (κ × ν)
  sorted : entries.Pairwise fun a b => a.1 < b.1

namespace SortedMap

variable {κ ν μ : Type} [LinearOrder κ] {m m' : SortedMap κ ν} {key : κ} {value : ν}

@[ext]
theorem ext (h : m.entries = m'.entries) : m = m' := by
  cases m
  cases m'
  cases h
  rfl

instance [DecidableEq ν] : DecidableEq (SortedMap κ ν) := fun m m' =>
  decidable_of_iff (m.entries = m'.entries) ⟨ext, congrArg entries⟩

def empty : SortedMap κ ν := ⟨[], List.Pairwise.nil⟩

/-- Put an entry in its place, or replace the one with its key. -/
def insertEntry (key : κ) (value : ν) : List (κ × ν) → List (κ × ν)
  | [] => [(key, value)]
  | entry :: entries =>
    if key < entry.1 then (key, value) :: entry :: entries
    else if key = entry.1 then (key, value) :: entries
    else entry :: insertEntry key value entries

variable {entries : List (κ × ν)}

theorem mem_insertEntry {e : κ × ν} (h : e ∈ insertEntry key value entries) :
    e = (key, value) ∨ e ∈ entries := by
  induction entries with
  | nil => exact .inl (mem_singleton.mp h)
  | cons entry entries ih =>
    unfold insertEntry at h
    split at h
    · exact mem_cons.mp h
    split at h
    · rcases mem_cons.mp h with new | old
      · exact .inl new
      · exact .inr (mem_cons_of_mem _ old)
    · rcases mem_cons.mp h with first | rest
      · exact .inr (first ▸ mem_cons_self)
      · exact (ih rest).imp_right (mem_cons_of_mem _)

theorem insertEntry_sorted (h : entries.Pairwise fun a b => a.1 < b.1) :
    (insertEntry key value entries).Pairwise fun a b => a.1 < b.1 := by
  induction entries with
  | nil => exact pairwise_singleton _ _
  | cons entry entries ih =>
    obtain ⟨first, rest⟩ := pairwise_cons.mp h
    unfold insertEntry
    split
    · next lt =>
      refine pairwise_cons.mpr ⟨fun other mem => ?_, h⟩
      rcases mem_cons.mp mem with same | later
      · exact same ▸ lt
      · exact lt_trans lt (first other later)
    · next notLt =>
      split
      · next same =>
        exact pairwise_cons.mpr ⟨fun other mem => same ▸ first other mem, rest⟩
      next other =>
      refine pairwise_cons.mpr ⟨fun e mem => ?_, ih rest⟩
      rcases mem_insertEntry mem with new | old
      · rw [new]
        exact lt_of_le_of_ne (not_lt.mp notLt) fun eq => other eq.symm
      · exact first e old

def insert (m : SortedMap κ ν) (key : κ) (value : ν) : SortedMap κ ν :=
  ⟨insertEntry key value m.entries, insertEntry_sorted m.sorted⟩

def lookup (m : SortedMap κ ν) (key : κ) : Option ν :=
  (m.entries.find? fun e => e.1 = key).map (·.2)

/-- The map that a loop over the entries fills. -/
def build (entries : List (κ × ν)) : SortedMap κ ν :=
  entries.foldl (fun m e => m.insert e.1 e.2) empty

theorem insertEntry_last (h : ∀ e ∈ entries, e.1 < key) :
    insertEntry key value entries = entries ++ [(key, value)] := by
  induction entries with
  | nil => rfl
  | cons entry entries ih =>
    have lt := h entry mem_cons_self
    unfold insertEntry
    rw [if_neg (not_lt_of_gt lt), if_neg (ne_of_gt lt),
      ih fun e mem => h e (mem_cons_of_mem _ mem)]
    rfl

/-- Entries that come in order are kept as they are. -/
theorem build_entries (h : entries.Pairwise fun a b => a.1 < b.1) :
    (build entries).entries = entries := by
  have fold : ∀ (entries : List (κ × ν)) (m : SortedMap κ ν),
      (m.entries ++ entries).Pairwise (fun a b => a.1 < b.1) →
      (entries.foldl (fun m e => m.insert e.1 e.2) m).entries = m.entries ++ entries := by
    intro entries
    induction entries with
    | nil => exact fun m _ => (append_nil _).symm
    | cons entry entries ih =>
      intro m sorted
      have last : (m.insert entry.1 entry.2).entries = m.entries ++ [entry] :=
        insertEntry_last fun e mem =>
          (pairwise_append.mp sorted).2.2 e mem entry mem_cons_self
      have step := ih (m.insert entry.1 entry.2)
      rw [last, List.append_assoc] at step
      exact step sorted
  exact fold entries empty h

theorem build_self (m : SortedMap κ ν) : build m.entries = m := ext (build_entries m.sorted)

theorem lookup_eq_some : m.lookup key = some value ↔ (key, value) ∈ m.entries := by
  obtain ⟨entries, sorted⟩ := m
  unfold lookup
  induction entries with
  | nil => exact ⟨nofun, nofun⟩
  | cons entry entries ih =>
    obtain ⟨first, rest⟩ := pairwise_cons.mp sorted
    by_cases same : entry.1 = key
    · rw [List.find?_cons_of_pos (by simpa using same)]
      constructor
      · intro found
        cases found
        exact same ▸ mem_cons_self
      · intro mem
        rcases mem_cons.mp mem with rfl | later
        · rfl
        · exact absurd (first _ later) (same ▸ lt_irrefl _)
    · rw [List.find?_cons_of_neg (by simpa using same), ih rest]
      refine ⟨mem_cons_of_mem _, fun mem => ?_⟩
      rcases mem_cons.mp mem with rfl | later
      · exact absurd rfl same
      · exact later

theorem ext_lookup (h : ∀ key, m.lookup key = m'.lookup key) : m = m' := by
  have nodup : ∀ m : SortedMap κ ν, m.entries.Nodup := fun m =>
    List.Pairwise.imp (fun lt => ne_of_apply_ne Prod.fst (ne_of_lt lt)) m.sorted
  have members : ∀ entry, entry ∈ m.entries ↔ entry ∈ m'.entries := fun entry => by
    rw [← lookup_eq_some, ← lookup_eq_some, h]
  have perm := (perm_ext_iff_of_nodup (nodup m) (nodup m')).mpr members
  exact ext (perm.eq_of_pairwise (fun a b _ _ lt gt => absurd lt (lt_asymm gt)) m.sorted m'.sorted)

@[simp]
theorem lookup_empty (key : κ) : (empty : SortedMap κ ν).lookup key = none := rfl

theorem lookup_insert (m : SortedMap κ ν) (key : κ) (value : ν) (other : κ) :
    (m.insert key value).lookup other = if other = key then some value else m.lookup other := by
  unfold lookup insert
  dsimp only
  induction m.entries with
  | nil =>
    unfold insertEntry
    by_cases same : other = key
    · rw [if_pos same, List.find?_cons_of_pos (by simpa using same.symm)]
      rfl
    · rw [if_neg same, List.find?_cons_of_neg (by simpa using fun h => same h.symm)]
  | cons entry entries ih =>
    unfold insertEntry
    by_cases same : other = key
    · rw [if_pos same] at ih ⊢
      split
      · rw [List.find?_cons_of_pos (by simpa using same.symm)]
        rfl
      split
      · rw [List.find?_cons_of_pos (by simpa using same.symm)]
        rfl
      · next notSame =>
        rw [List.find?_cons_of_neg (by simpa using fun h => notSame (same ▸ h.symm)), ih]
    · have skip : ∀ rest, List.find? (fun e : κ × ν => e.1 = other) ((key, value) :: rest) =
          List.find? (fun e => e.1 = other) rest := fun rest =>
        List.find?_cons_of_neg (by simpa using fun h => same h.symm)
      rw [if_neg same] at ih ⊢
      split
      · rw [skip]
      split
      · next replaced =>
        rw [skip, List.find?_cons_of_neg (by simpa using fun h => same (replaced ▸ h.symm))]
      · by_cases found : entry.1 = other
        · rw [List.find?_cons_of_pos (by simpa using found),
            List.find?_cons_of_pos (by simpa using found)]
        · rw [List.find?_cons_of_neg (by simpa using found),
            List.find?_cons_of_neg (by simpa using found), ih]

theorem lookup_insert_eq_some {other : κ} {v : ν} :
    (m.insert key value).lookup other = some v ↔
      (other = key ∧ v = value) ∨ (other ≠ key ∧ m.lookup other = some v) := by
  rw [lookup_insert]
  by_cases same : other = key
  · rw [if_pos same]
    simp only [same, Option.some.injEq, ne_eq, not_true, true_and, false_and, or_false]
    exact eq_comm
  · rw [if_neg same]
    simp [same]

/-- Entries inserted one after the other hide what was there before. -/
theorem lookup_foldl_insert (entries : List (κ × ν)) (m : SortedMap κ ν) (key : κ) :
    (entries.foldl (fun m entry => m.insert entry.1 entry.2) m).lookup key =
      ((build entries).lookup key).or (m.lookup key) := by
  induction entries generalizing m with
  | nil => simp [build, lookup_empty]
  | cons entry entries ih =>
    unfold build at ih ⊢
    rw [foldl_cons, ih, foldl_cons, ih (insert empty entry.1 entry.2), lookup_insert,
      lookup_insert, lookup_empty]
    split
    · cases (entries.foldl (fun m entry => m.insert entry.1 entry.2) empty).lookup key <;> rfl
    · rw [Option.or_none]

/-- The entries that pass a test. -/
def filter (p : ν → Bool) (m : SortedMap κ ν) : SortedMap κ ν :=
  ⟨m.entries.filter fun e => p e.2, m.sorted.filter _⟩

theorem lookup_filter (p : ν → Bool) (m : SortedMap κ ν) (key : κ) :
    (m.filter p).lookup key = (m.lookup key).filter p := by
  refine Option.ext fun value => ?_
  rw [lookup_eq_some, Option.filter_eq_some_iff, lookup_eq_some]
  exact mem_filter

def erase (m : SortedMap κ ν) (key : κ) : SortedMap κ ν :=
  ⟨m.entries.filter fun e => e.1 ≠ key, m.sorted.filter _⟩

theorem lookup_erase (m : SortedMap κ ν) (key other : κ) :
    (m.erase key).lookup other = if other = key then none else m.lookup other := by
  refine Option.ext fun value => ?_
  rw [lookup_eq_some]
  by_cases same : other = key
  · simp [erase, same]
  · simp [erase, same, lookup_eq_some]

/-- The values change, the keys stay. -/
def mapValues (f : ν → μ) (m : SortedMap κ ν) : SortedMap κ μ :=
  ⟨m.entries.map fun e => (e.1, f e.2),
    pairwise_map.mpr (m.sorted.imp fun lt => lt)⟩

/-- A loop that writes the changed values under their keys. -/
theorem build_mapValues (f : ν → μ) (m : SortedMap κ ν) :
    build (m.entries.map fun e => (e.1, f e.2)) = m.mapValues f :=
  ext (build_entries (m.mapValues f).sorted)

theorem mapValues_mapValues {ξ : Type} (f : ν → μ) (g : μ → ξ) (m : SortedMap κ ν) :
    (m.mapValues f).mapValues g = m.mapValues (g ∘ f) := ext map_map

theorem mapValues_eq_iff {f g : ν → μ} :
    m.mapValues f = m.mapValues g ↔ ∀ e ∈ m.entries, f e.2 = g e.2 := by
  constructor
  · intro same e mem
    have entries := map_inj_left.mp (congrArg entries same) e mem
    exact congrArg Prod.snd entries
  · intro same
    refine ext (map_congr_left fun e mem => ?_)
    rw [same e mem]

theorem lookup_mapValues (f : ν → μ) (m : SortedMap κ ν) (key : κ) :
    (m.mapValues f).lookup key = (m.lookup key).map f := by
  unfold lookup mapValues
  rw [List.find?_map, Option.map_map, Option.map_map]
  rfl

theorem mapValues_insert (f : ν → μ) (m : SortedMap κ ν) (key : κ) (value : ν) :
    (m.insert key value).mapValues f = (m.mapValues f).insert key (f value) := by
  refine ext ?_
  show (insertEntry key value m.entries).map _ = insertEntry key (f value) (m.entries.map _)
  induction m.entries with
  | nil => rfl
  | cons entry entries ih =>
    unfold insertEntry
    rw [map_cons]
    dsimp only
    split
    · rfl
    split
    · rfl
    · rw [map_cons, ih]

/-- The map of a function on the keys of a list. -/
def tabulate (keys : List κ) (f : κ → Option ν) : SortedMap κ ν :=
  keys.foldl (fun m key => (f key).elim m (m.insert key)) empty

theorem lookup_tabulate (keys : List κ) (f : κ → Option ν) (key : κ) :
    (tabulate keys f).lookup key = if key ∈ keys then f key else none := by
  have fold : ∀ m : SortedMap κ ν,
      (keys.foldl (fun m key => (f key).elim m (m.insert key)) m).lookup key =
        if key ∈ keys then (f key).or (m.lookup key) else m.lookup key := by
    induction keys with
    | nil => exact fun m => (if_neg not_mem_nil).symm
    | cons first keys ih =>
      intro m
      rw [foldl_cons, ih]
      cases value : f first with
      | none =>
        rw [Option.elim_none]
        by_cases same : key = first
        · rw [same, value]
          simp
        · simp [same]
      | some v =>
        rw [Option.elim_some, lookup_insert]
        by_cases same : key = first
        · rw [same, value, if_pos mem_cons_self, if_pos rfl]
          simp
        · simp [same]
  rw [tabulate, fold, lookup_empty]
  simp

end SortedMap

end Anytty.Data
