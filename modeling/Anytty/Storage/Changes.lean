import Anytty.Storage.Store

/-!
# The changes that subscribers are told

`Put` and `Delete` change the store under its lock. They release it and then `publish` the change, so
two calls may publish in the other order. A subscriber is told the changes of a key in order exactly
if the calls happened to publish them in order, the key was never put again after a deletion (the new
entry starts at version 1), and the version never wrapped.

`made` holds the changes in the order of the calls; the source has no such list.
-/

namespace Anytty.Storage

open Function List

inductive Op
  | put
  | delete
deriving DecidableEq, Repr

structure Change where
  key : StorageKey
  version : Nat
  op : Op
deriving DecidableEq

/-- The change that a call publishes. -/
def Call.change (store : Store) (call : Call) : Option Change :=
  match call with
  | .get .. => none
  | .put request now =>
    (store.put request now).1.toOption.map fun entry => ⟨call.key, entry.version, .put⟩
  | .delete request =>
    ((store.delete request).1.toOption.filter (·.deleted)).map fun result =>
      ⟨call.key, result.version, .delete⟩

/-- The store with the changes whose calls have left its lock, and those that were sent to the
subscribers. -/
structure Feed where
  store : Store
  made : List Change
  publishing : List Change
  sent : List Change

/-- A call up to the point where it releases the lock, or the rest of it. -/
inductive Event
  | call (call : Call)
  | publish (change : Change)

namespace Feed

def perform (feed : Feed) : Event → Feed
  | .call call =>
    let change := (call.change feed.store).toList
    { feed with
      store := call.perform feed.store
      made := feed.made ++ change
      publishing := feed.publishing ++ change }
  | .publish change =>
    if change ∈ feed.publishing then
      { feed with publishing := feed.publishing.erase change, sent := feed.sent ++ [change] }
    else feed

def run (events : List Event) : Feed := events.foldl perform ⟨new, [], [], []⟩

def madeFor (feed : Feed) (key : StorageKey) : List Change := feed.made.filter (·.key = key)

/-- What a subscriber is told of a key that subscribed after `n` changes and keeps up. -/
def received (feed : Feed) (n : Nat) (key : StorageKey) : List Change :=
  (feed.sent.drop n).filter (·.key = key)

end Feed

/-- The version that the change left the key with, if any. -/
def Change.left (change : Change) : Option Nat :=
  match change.op with
  | .put => some change.version
  | .delete => none

/-- The change left the key with this entry. -/
def Change.describes (change : Change) (entry : Option Entry) : Prop :=
  entry.map (·.version) = change.left

instance (change : Change) (entry : Option Entry) : Decidable (change.describes entry) :=
  inferInstanceAs (Decidable (_ = _))

/-! ### The versions of one key -/

/-- The version of a key after its changes. -/
def current (changes : List Change) : Option Nat := changes.getLast?.bind Change.left

/-- The changes of a key from its first on. -/
inductive Counted : List Change → Prop
  | new : Counted []
  | next {changes : List Change} {change : Change} : Counted changes →
      change.version = (current changes).elim 1 nextVersion → Counted (changes ++ [change])

theorem current_concat (changes : List Change) (change : Change) :
    current (changes ++ [change]) = change.left := by
  unfold current
  rw [getLast?_concat]
  rfl

namespace Counted

variable {changes : List Change}

section

variable (h : Counted changes)
include h

theorem first (some : changes ≠ []) : 1 ∈ changes.map (·.version) := by
  induction h with
  | new => exact absurd rfl some
  | next h isNext ih =>
    rw [map_append, mem_append]
    cases h with
    | new => exact .inr (mem_singleton.mpr isNext.symm)
    | next => exact .inl (ih (concat_ne_nil _ _))

theorem small : ∀ change ∈ changes, change.version < 2 ^ 64 := by
  induction h with
  | new => exact nofun
  | @next changes change h isNext ih =>
    refine forall_mem_append.mpr ⟨ih, forall_mem_singleton.mpr ?_⟩
    rw [isNext]
    cases current changes with
    | none => decide
    | some version => exact Nat.mod_lt _ (by decide)

/-- The versions increase if only the last change is a deletion and the counter does not wrap. -/
theorem increasing (puts : ∀ change ∈ changes.dropLast, change.op = .put)
    (nonzero : ∀ change ∈ changes, change.version ≠ 0) :
    changes.Pairwise (·.version < ·.version) := by
  refine isChain_iff_pairwise.mp ?_
  induction h with
  | new => exact .nil
  | @next changes change h isNext ih =>
    rw [dropLast_concat] at puts
    obtain ⟨old, new⟩ := forall_mem_append.mp nonzero
    refine isChain_append.mpr ⟨ih (fun old mem => puts old (dropLast_subset _ mem)) old,
      .singleton _, fun last isLast _ isChange => ?_⟩
    cases isChange
    have mem := mem_of_getLast? isLast
    have wraps := new _ (mem_singleton_self _)
    have small := h.small last mem
    rw [current, Option.mem_def.mp isLast, Option.bind_some, Change.left, puts last mem] at isNext
    simp only [Option.elim_some, nextVersion] at isNext
    omega

/-- A change after a deletion or after version 0 repeats version 1. -/
theorem early_of_nodup (nodup : (changes.map (·.version)).Nodup) :
    (∀ change ∈ changes.dropLast, change.op = .put ∧ change.version ≠ 0) ∧
      ((current changes).elim 1 nextVersion ≠ 1 →
        ∀ change ∈ changes, change.op = .put ∧ change.version ≠ 0) := by
  induction h with
  | new => exact ⟨nofun, fun _ => nofun⟩
  | @next changes change h isNext ih =>
    rw [map_append, nodup_append] at nodup
    have early : ∀ old ∈ changes, old.op = .put ∧ old.version ≠ 0 := by
      intro old mem
      refine (ih nodup.1).2 (fun one => ?_) old mem
      exact nodup.2.2 1 (h.first (ne_nil_of_mem mem)) _ (mem_singleton_self _)
        (isNext.trans one).symm
    rw [dropLast_concat, current_concat]
    refine ⟨early, fun more => forall_mem_append.mpr ⟨early, forall_mem_singleton.mpr ?_⟩⟩
    unfold Change.left at more
    cases op : change.op with
    | put =>
      rw [op] at more
      exact ⟨rfl, fun zero => more (congrArg nextVersion zero)⟩
    | delete =>
      rw [op] at more
      exact absurd rfl more

/-- The counter has not wrapped if the changes are told in the order of their versions and the last
of them leaves the version that the key has. -/
theorem nonzero (early : ∀ change ∈ changes.dropLast, change.op = .put ∧ change.version ≠ 0)
    {told : List Change} (perm : told.Perm changes)
    (sorted : told.Pairwise (·.version < ·.version))
    (last : ∀ change, told.getLast? = some change → current changes = change.left) :
    ∀ change ∈ changes, change.version ≠ 0 := by
  rcases eq_nil_or_concat' changes with rfl | ⟨before, newest, rfl⟩
  · exact nofun
  rw [dropLast_concat] at early
  refine forall_mem_append.mpr ⟨fun change mem => (early change mem).2,
    forall_mem_singleton.mpr fun zero => ?_⟩
  rcases eq_nil_or_concat' told with rfl | ⟨front, latest, rfl⟩
  · exact absurd perm.nil_eq (concat_ne_nil _ _).symm
  have latestZero : latest.version = 0 := by
    have told := perm.mem_iff.mp (mem_append_right _ (mem_singleton_self latest))
    rcases mem_append.mp told with old | new
    · have same := last latest getLast?_concat
      rw [current_concat] at same
      unfold Change.left at same
      rw [(early latest old).1] at same
      split at same
      · exact (Option.some.inj same).symm.trans zero
      · cases same
    · exact mem_singleton.mp new ▸ zero
  -- The first change has version 1, and it was told no later.
  obtain ⟨first, mem, one⟩ := mem_map.mp (h.first (concat_ne_nil _ _))
  rcases mem_append.mp (perm.mem_iff.mpr mem) with old | new
  · have less := (pairwise_append.mp sorted).2.2 first old latest (mem_singleton_self _)
    omega
  · rw [mem_singleton.mp new] at one
    omega

end

end Counted

/-! ### Runs -/

/-- A call changes nothing, or the entry of one key as it will be published. -/
theorem change_cases (store : Store) (call : Call) :
    (call.change store = none ∧ call.perform store = store) ∨
      ∃ change entry, call.change store = some change ∧
        call.perform store = update store change.key entry ∧ change.describes entry ∧
        change.version = ((store change.key).map (·.version)).elim 1 nextVersion := by
  cases call with
  | get => exact .inl ⟨rfl, rfl⟩
  | put request now =>
    unfold Call.change Call.perform
    dsimp only
    rcases put_cases store request now with ⟨err, outcome⟩ | ⟨entry, outcome, version, -⟩
    · rw [outcome]
      exact .inl ⟨rfl, rfl⟩
    rw [outcome]
    generalize (Call.put request now).key = key at *
    refine .inr ⟨_, some entry, rfl, rfl, rfl, version.trans ?_⟩
    cases store key with
    | none | some => rfl
  | delete request =>
    unfold Call.change Call.perform
    dsimp only
    rcases delete_cases store request with ⟨err, outcome⟩ | ⟨result, outcome, deleted, version, -⟩
    · rw [outcome]
      exact .inl ⟨rfl, rfl⟩
    rw [outcome]
    generalize (Call.delete request).key = key at *
    cases known : store key with
    | none =>
      rw [known] at deleted
      refine .inl ⟨?_, known ▸ update_eq_self _ _⟩
      simp [Except.toOption, deleted]
    | some entry =>
      rw [known] at deleted
      refine .inr ⟨⟨key, result.version, .delete⟩, none, ?_, rfl, rfl, ?_⟩
      · simp [Except.toOption, deleted]
      · rw [known]
        refine version.trans ?_
        rw [deleted, Store.version, known]
        rfl

namespace Feed

structure Valid (feed : Feed) : Prop where
  keys : ∀ key, Counted (feed.madeFor key) ∧
    (feed.store key).map (·.version) = current (feed.madeFor key)
  perm : (feed.sent ++ feed.publishing).Perm feed.made

theorem Valid.perform {feed : Feed} (valid : feed.Valid) (event : Event) :
    (feed.perform event).Valid := by
  cases event with
  | call call =>
    unfold Feed.perform
    rcases change_cases feed.store call with
      ⟨none, same⟩ | ⟨change, entry, isChange, stored, left, next⟩
    · simp only [none, same, Option.toList_none, append_nil]
      exact valid
    refine ⟨fun key => ?_, ?_⟩
    · simp only [madeFor, stored, isChange, Option.toList_some, filter_append]
      by_cases same : change.key = key
      · subst same
        obtain ⟨counted, version⟩ := valid.keys change.key
        rw [update_self, filter_singleton, decide_eq_true rfl]
        exact ⟨.next counted (version ▸ next), left.trans (current_concat _ _).symm⟩
      · rw [update_of_ne (Ne.symm same), filter_singleton, decide_eq_false same]
        exact (append_nil (feed.madeFor key)).symm ▸ valid.keys key
    · dsimp only
      rw [← List.append_assoc]
      exact valid.perm.append_right _
  | publish change =>
    unfold Feed.perform
    dsimp only
    split
    · next waiting =>
      refine { valid with perm := Perm.trans ?_ valid.perm }
      rw [List.append_assoc]
      exact (perm_cons_erase waiting).symm.append_left _
    · exact valid

theorem valid_run (events : List Event) : (run events).Valid := by
  have start : Valid ⟨new, [], [], []⟩ := ⟨fun _ => ⟨.new, rfl⟩, .nil⟩
  unfold run
  generalize (⟨new, [], [], []⟩ : Feed) = feed at start
  induction events generalizing feed with
  | nil => exact start
  | cons event events ih => exact ih _ (start.perform event)

end Feed

/-- Once all calls have returned: the versions that every subscriber was told of a key increase and
the last change describes the entry, exactly if the changes were published in the order of the calls,
the key was not put again after a deletion, and its version never wrapped. -/
theorem changes_in_order_iff (events : List Event) (key : StorageKey)
    (returned : (Feed.run events).publishing = []) :
    (∀ n, ((Feed.run events).received n key).Pairwise (·.version < ·.version) ∧
      ∀ change, ((Feed.run events).received n key).getLast? = some change →
        change.describes ((Feed.run events).store key)) ↔
    (Feed.run events).received 0 key = (Feed.run events).madeFor key ∧
      (∀ change ∈ ((Feed.run events).madeFor key).dropLast, change.op = .put) ∧
      ∀ change ∈ (Feed.run events).madeFor key, change.version ≠ 0 := by
  have valid := Feed.valid_run events
  generalize Feed.run events = feed at *
  obtain ⟨counted, version⟩ := valid.keys key
  have perm : (feed.received 0 key).Perm (feed.madeFor key) := by
    have all := valid.perm
    rw [returned, append_nil] at all
    exact all.filter _
  constructor
  · intro ordered
    obtain ⟨sorted, last⟩ := ordered 0
    have nodup : ((feed.madeFor key).map (·.version)).Nodup := by
      refine (perm.map _).nodup_iff.mp ?_
      exact pairwise_map.mpr (sorted.imp Nat.ne_of_lt)
    have early := (counted.early_of_nodup nodup).1
    have nonzero := counted.nonzero early perm sorted fun change isLast =>
      version.symm.trans (last change isLast)
    have puts := fun change mem => (early change mem).1
    refine ⟨perm.eq_of_pairwise (fun _ _ _ _ lt gt => absurd lt (Nat.lt_asymm gt)) sorted ?_, puts,
      nonzero⟩
    exact counted.increasing puts nonzero
  · rintro ⟨same, puts, nonzero⟩ n
    have later : feed.received n key <:+ feed.madeFor key := same ▸ (drop_suffix n _).filter _
    refine ⟨(counted.increasing puts nonzero).sublist later.sublist, fun change last => ?_⟩
    obtain ⟨earlier, whole⟩ := later
    refine version.trans ?_
    rw [current, ← whole, getLast?_append, last]
    rfl

/-- A put and a deletion that both publish at once. -/
theorem changes_in_order_example :
    let key : StorageKey := ⟨"app", "public", "me", "key"⟩
    let feed := Feed.run [.call (.put ⟨"app", "", "me", "key", [1], false, 0⟩ 5),
      .publish ⟨key, 1, .put⟩, .call (.delete ⟨"app", "", "me", "key", false, 0⟩),
      .publish ⟨key, 2, .delete⟩]
    ∀ n, (feed.received n key).Pairwise (·.version < ·.version) ∧
      ∀ change, (feed.received n key).getLast? = some change →
        change.describes (feed.store key) :=
  (changes_in_order_iff _ _ (by decide)).mpr (by decide)

/-- Two puts of a key publish in the other order: the subscriber is told version 2, then version 1,
and the entry has version 2. -/
theorem changes_out_of_order :
    let key : StorageKey := ⟨"app", "public", "me", "key"⟩
    let put : Call := .put ⟨"app", "", "me", "key", [1], false, 0⟩ 5
    let feed := Feed.run [.call put, .call put, .publish ⟨key, 2, .put⟩, .publish ⟨key, 1, .put⟩]
    feed.publishing = [] ∧ feed.received 0 key = [⟨key, 2, .put⟩, ⟨key, 1, .put⟩] ∧
      ¬ Change.describes ⟨key, 1, .put⟩ (feed.store key) := by
  decide

end Anytty.Storage
