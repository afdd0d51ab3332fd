import Anytty.Connection.Registry

/-!
# The key-value store

`storage.Store`: entries under an application, a scope, an owner and a key, each with a version for
compare-and-set. Every call holds the lock of the store throughout, so a run of any number of clients
is a list of calls.

The version of a key counts its mutations as long as the key is not deleted
(`version_runCalls`), and then a checked call succeeds only if nothing came in between
(`checked_call_unchanged`). A deletion forgets the version: the key starts again at 1
(`recreated_version_repeats`).
-/

namespace Anytty.Storage

open Anytty.Connection (trimSpace)
open Function

abbrev Bytes := List UInt8

structure StorageKey where
  appID : String
  scope : String
  ownerID : String
  key : String
deriving DecidableEq

structure Entry where
  appID : String
  scope : String
  ownerID : String
  key : String
  value : Bytes
  /-- A `uint64`. -/
  version : Nat
  updatedAt : Int
deriving DecidableEq

structure PutRequest where
  appID : String
  scope : String
  ownerID : String
  key : String
  value : Bytes
  checkVersion : Bool
  expectedVersion : Nat

structure DeleteRequest where
  appID : String
  scope : String
  ownerID : String
  key : String
  checkVersion : Bool
  expectedVersion : Nat

structure DeleteResult where
  appID : String
  scope : String
  ownerID : String
  key : String
  deleted : Bool
  version : Nat
deriving DecidableEq

inductive StorageError
  | entryNotFound
  | invalidKey
  | versionConflict
deriving DecidableEq

def scopePublic : String := "public"

def makeKey (appID scope ownerID key : String) : StorageKey where
  appID := trimSpace appID
  scope := if scope = "" then scopePublic else scope
  ownerID := trimSpace ownerID
  key := trimSpace key

/-- The next version, modulo `2 ^ 64`. -/
def nextVersion (version : Nat) : Nat := (version + 1) % 2 ^ 64

/-- The entries of the store. Its subscribers are told of changes after the call, and are not part
of it. -/
abbrev Store := StorageKey → Option Entry

def new : Store := fun _ => none

namespace Store

variable (store : Store)

/-- The version of a key, 0 if there is no entry. -/
def version (key : StorageKey) : Nat := (store key).elim 0 (·.version)

def get (appID scope ownerID key : String) : Except StorageError Entry :=
  match store (makeKey appID scope ownerID key) with
  | none => .error .entryNotFound
  | some entry => .ok entry

def put (request : PutRequest) (now : Int) : Except StorageError Entry × Store :=
  let key := makeKey request.appID request.scope request.ownerID request.key
  if key.appID = "" ∨ key.key = "" then (.error .invalidKey, store)
  else if request.checkVersion ∧ store.version key ≠ request.expectedVersion then
    (.error .versionConflict, store)
  else
    let entry : Entry := {
      appID := key.appID
      scope := key.scope
      ownerID := key.ownerID
      key := key.key
      value := request.value
      version := match store key with
        | none => 1
        | some current => nextVersion current.version
      updatedAt := now }
    (.ok entry, update store key (some entry))

def delete (request : DeleteRequest) : Except StorageError DeleteResult × Store :=
  let key := makeKey request.appID request.scope request.ownerID request.key
  if key.appID = "" ∨ key.key = "" then (.error .invalidKey, store)
  else if request.checkVersion ∧ store.version key ≠ request.expectedVersion then
    (.error .versionConflict, store)
  else
    let result : DeleteResult := {
      appID := key.appID
      scope := key.scope
      ownerID := key.ownerID
      key := key.key
      deleted := (store key).isSome
      version := if (store key).isSome then nextVersion (store.version key)
        else store.version key }
    (.ok result, update store key none)

end Store

/-! ### Calls -/

inductive Call
  | get (appID scope ownerID key : String)
  | put (request : PutRequest) (now : Int)
  | delete (request : DeleteRequest)

namespace Call

def key : Call → StorageKey
  | .get appID scope ownerID key => makeKey appID scope ownerID key
  | .put request _ | .delete request =>
    makeKey request.appID request.scope request.ownerID request.key

/-- The version that the result of a call names, if it succeeds. -/
def observes (store : Store) : Call → Option Nat
  | .get appID scope ownerID key => (store.get appID scope ownerID key).toOption.map (·.version)
  | .put request now => (store.put request now).1.toOption.map (·.version)
  | .delete request => (store.delete request).1.toOption.map (·.version)

def perform (store : Store) : Call → Store
  | .get .. => store
  | .put request now => (store.put request now).2
  | .delete request => (store.delete request).2

/-- The version that a checked call expects. -/
def expects : Call → Option Nat
  | .get .. => none
  | .put request _ | .delete request =>
    if request.checkVersion then some request.expectedVersion else none

/-- The call removes the entry of a key. -/
def deletes (key : StorageKey) (store : Store) : Call → Bool
  | .delete request => (makeKey request.appID request.scope request.ownerID request.key = key) &&
    (store.delete request).1.toOption.any (·.deleted)
  | _ => false

/-- The call changes the entry of a key. -/
def mutates (key : StorageKey) (store : Store) : Call → Bool
  | .put request now => (makeKey request.appID request.scope request.ownerID request.key = key) &&
    (store.put request now).1.isOk
  | call => call.deletes key store

end Call

/-- The store after a list of calls. -/
def runCalls (store : Store) (calls : List Call) : Store := calls.foldl Call.perform store

/-- How many calls of a run pass a test in the store that they find. -/
def countCalls (test : Store → Call → Bool) : Store → List Call → Nat
  | _, [] => 0
  | store, call :: calls => (test store call).toNat + countCalls test (call.perform store) calls

def mutations (key : StorageKey) : Store → List Call → Nat := countCalls (Call.mutates key)

def deletions (key : StorageKey) : Store → List Call → Nat := countCalls (Call.deletes key)

theorem runCalls_append (store : Store) (calls calls' : List Call) :
    runCalls store (calls ++ calls') = runCalls (runCalls store calls) calls' := List.foldl_append

theorem countCalls_append (test : Store → Call → Bool) (store : Store) (calls calls' : List Call) :
    countCalls test store (calls ++ calls') =
      countCalls test store calls + countCalls test (runCalls store calls) calls' := by
  induction calls generalizing store with
  | nil => exact (Nat.zero_add _).symm
  | cons call calls ih =>
    show _ + countCalls test (call.perform store) (calls ++ calls') = _ + countCalls test _ _ + _
    rw [ih, Nat.add_assoc]
    rfl

theorem countCalls_eq_zero {test : Store → Call → Bool} {store : Store} {calls : List Call} :
    countCalls test store calls = 0 ↔
      ∀ before call after, calls = before ++ call :: after →
        test (runCalls store before) call = false := by
  constructor
  · intro none before call after split
    rw [split, countCalls_append, countCalls] at none
    have zero : (test (runCalls store before) call).toNat = 0 := by omega
    simpa using zero
  · intro none
    induction calls generalizing store with
    | nil => rfl
    | cons call calls ih =>
      have first := none [] call calls rfl
      have rest := ih fun before call' after split =>
        none (call :: before) call' after (congrArg (call :: ·) split)
      have untested : test store call = false := first
      rw [countCalls, rest, untested]
      rfl

/-! ### Versions -/

section Versions

variable {key : StorageKey} {store : Store} {call : Call}

/-- A put fails and changes nothing, or it sets the entry of its key. -/
theorem put_cases (store : Store) (request : PutRequest) (now : Int) :
    let key := (Call.put request now).key
    (∃ err, store.put request now = (.error err, store)) ∨
      ∃ entry, store.put request now = (.ok entry, update store key (some entry)) ∧
        entry.version = (store key).elim 1 (nextVersion ·.version) ∧
        (request.checkVersion = true → store.version key = request.expectedVersion) := by
  unfold Store.put
  dsimp only
  split
  · exact .inl ⟨_, rfl⟩
  split
  · exact .inl ⟨_, rfl⟩
  next checked =>
  refine .inr ⟨_, rfl, ?_, fun check => not_not.mp fun differs => checked ⟨check, differs⟩⟩
  unfold Call.key
  cases store _ with
  | none | some current => rfl

/-- A delete fails and changes nothing, or its key has no entry afterwards. -/
theorem delete_cases (store : Store) (request : DeleteRequest) :
    let key := (Call.delete request).key
    (∃ err, store.delete request = (.error err, store)) ∨
      ∃ result, store.delete request = (.ok result, update store key none) ∧
        result.deleted = (store key).isSome ∧
        (result.version =
          if result.deleted then nextVersion (store.version key) else store.version key) ∧
        (request.checkVersion = true → store.version key = request.expectedVersion) := by
  unfold Store.delete
  dsimp only
  split
  · exact .inl ⟨_, rfl⟩
  split
  · exact .inl ⟨_, rfl⟩
  next checked =>
  exact .inr ⟨_, rfl, rfl, rfl, fun check =>
    not_not.mp fun differs => checked ⟨check, differs⟩⟩

theorem Store.version_update (other : StorageKey) (entry : Option Entry) :
    version (update store other entry) key =
      if key = other then entry.elim 0 (·.version) else store.version key := by
  unfold version
  by_cases same : key = other
  · rw [if_pos same, same, update_self]
  · rw [if_neg same, update_of_ne same]

/-- Without a deletion the version of a key goes up by one with each mutation. -/
theorem version_perform (kept : call.deletes key store = false)
    (small : store.version key + (call.mutates key store).toNat < 2 ^ 64) :
    Store.version (call.perform store) key = store.version key + (call.mutates key store).toNat := by
  cases call with
  | get => rfl
  | put request now =>
    unfold Call.perform
    unfold Call.mutates at small ⊢
    dsimp only at small ⊢
    rcases put_cases store request now with ⟨err, outcome⟩ | ⟨entry, outcome, version, -⟩
    · rw [outcome]
      simp [Except.isOk, Except.toBool]
    rw [outcome] at small ⊢
    rw [Store.version_update]
    by_cases same : key = (Call.put request now).key
    · subst same
      simp only [Call.key, decide_true, Except.isOk, Except.toBool, Bool.and_self,
        Bool.toNat_true] at small version ⊢
      show entry.version = _
      rw [version]
      unfold Store.version at small ⊢
      cases known : store _ with
      | none => rfl
      | some current =>
        rw [known] at small
        exact Nat.mod_eq_of_lt small
    · rw [if_neg same]
      have other : makeKey request.appID request.scope request.ownerID request.key ≠ key :=
        Ne.symm same
      simp [other]
  | delete request =>
    have unchanged : Store.version (store.delete request).2 key = store.version key := by
      rcases delete_cases store request with ⟨err, outcome⟩ | ⟨result, outcome, deleted, -⟩
      · rw [outcome]
      rw [outcome, Store.version_update]
      split
      · next same =>
        -- The key is not deleted, so it had no entry.
        have absent : (store key).isSome = false := by
          rw [same, ← deleted]
          unfold Call.deletes at kept
          simpa [outcome, same, Call.key, Except.toOption] using kept
        unfold Store.version
        rw [Option.isNone_iff_eq_none.mp (Option.isSome_eq_false_iff.mp absent)]
      · rfl
    show Store.version (store.delete request).2 key = _
    rw [unchanged]
    show _ = _ + ((Call.delete request).deletes key store).toNat
    rw [kept]
    rfl

/-- A result names the version that the key has after the call, unless the call deletes it. -/
theorem observes_version {version : Nat} (h : call.observes store = some version)
    (kept : call.deletes call.key store = false) :
    version = Store.version (call.perform store) call.key := by
  cases call with
  | get appID scope ownerID name =>
    unfold Call.observes Store.get at h
    unfold Call.perform Store.version Call.key
    dsimp only at h ⊢
    split at h
    · cases h
    next known =>
    rw [known]
    exact (Option.some.inj h).symm
  | put request now =>
    simp only [Call.observes, Call.perform] at h ⊢
    rcases put_cases store request now with ⟨err, outcome⟩ | ⟨entry, outcome, -⟩
    · rw [outcome] at h
      cases h
    · rw [outcome] at h ⊢
      cases h
      rw [Store.version_update]
      exact (if_pos rfl).symm
  | delete request =>
    simp only [Call.observes, Call.perform] at h ⊢
    rcases delete_cases store request with ⟨err, outcome⟩ | ⟨result, outcome, deleted, same, -⟩
    · rw [outcome] at h
      cases h
    have absent : result.deleted = false := by
      unfold Call.deletes at kept
      simpa [outcome, Call.key, Except.toOption] using kept
    rw [outcome] at h ⊢
    cases h
    rw [Store.version_update, if_pos rfl]
    refine same.trans ?_
    rw [absent, if_neg Bool.false_ne_true]
    rw [deleted] at absent
    unfold Store.version
    rw [Option.isNone_iff_eq_none.mp (Option.isSome_eq_false_iff.mp absent)]

/-- A checked call that succeeds found the version that it expects. -/
theorem expects_version {version observed : Nat} (h : call.observes store = some observed)
    (checked : call.expects = some version) : store.version call.key = version := by
  cases call with
  | get => cases checked
  | put request now =>
    simp only [Call.observes] at h
    rcases put_cases store request now with ⟨err, outcome⟩ | ⟨entry, -, -, same⟩
    · rw [outcome] at h
      cases h
    · obtain ⟨check, expected⟩ := Option.ite_none_right_eq_some.mp checked
      exact (same check).trans (Option.some.inj expected)
  | delete request =>
    simp only [Call.observes] at h
    rcases delete_cases store request with ⟨err, outcome⟩ | ⟨result, -, -, -, same⟩
    · rw [outcome] at h
      cases h
    · obtain ⟨check, expected⟩ := Option.ite_none_right_eq_some.mp checked
      exact (same check).trans (Option.some.inj expected)

/-- The version of a key counts its mutations. -/
theorem version_runCalls {calls : List Call} (kept : deletions key store calls = 0)
    (small : store.version key + mutations key store calls < 2 ^ 64) :
    Store.version (runCalls store calls) key = store.version key + mutations key store calls := by
  induction calls generalizing store with
  | nil => rfl
  | cons call calls ih =>
    unfold deletions countCalls at kept
    unfold mutations countCalls at small ⊢
    have first : call.deletes key store = false := by
      have zero : (call.deletes key store).toNat = 0 := by omega
      simpa using zero
    have next := version_perform first (by omega)
    show Store.version (runCalls (call.perform store) calls) key = _
    rw [ih (by unfold deletions; omega) (by unfold mutations; omega)]
    unfold mutations
    omega

end Versions

/-! ### Compare and set -/

/-- Every prefix of a run without deletions has counted its mutations. -/
theorem version_prefix {key : StorageKey} {before after : List Call}
    (kept : deletions key new (before ++ after) = 0)
    (few : mutations key new (before ++ after) < 2 ^ 64) :
    Store.version (runCalls new before) key = mutations key new before := by
  unfold deletions at kept
  unfold mutations at few
  rw [countCalls_append] at kept few
  have start : Store.version new key = 0 := rfl
  rw [version_runCalls (by unfold deletions; omega) (by unfold mutations; omega), start,
    Nat.zero_add]

/-- In a run that never deletes an entry of a key, the versions that are observed for the key never
decrease, each mutation gives a version that was not observed before, and a checked call that expects
an observed version succeeds only if no mutation of the key came in between. -/
theorem compare_and_set_linear {key : StorageKey} {calls : List Call}
    (kept : deletions key new calls = 0) (few : mutations key new calls < 2 ^ 64)
    {before middle after : List Call} {call call' : Call} {version version' : Nat}
    (split : calls = before ++ call :: (middle ++ call' :: after))
    (sameKey : call.key = key) (sameKey' : call'.key = key)
    (observed : call.observes (runCalls new before) = some version)
    (observed' : call'.observes (runCalls new (before ++ call :: middle)) = some version') :
    version ≤ version' ∧
      (call'.mutates key (runCalls new (before ++ call :: middle)) = true → version < version') ∧
      (call'.expects = some version →
        mutations key (runCalls new (before ++ [call])) middle = 0) := by
  -- The call and what follows it, as prefixes of the run.
  have first : calls = (before ++ [call]) ++ (middle ++ call' :: after) := by simp [split]
  have second : calls = (before ++ call :: middle) ++ (call' :: after) := by simp [split]
  have third : calls = ((before ++ call :: middle) ++ [call']) ++ after := by simp [split]
  have untouched := countCalls_eq_zero.mp kept
  have callKept := untouched before call _ split
  have callKept' := untouched (before ++ call :: middle) call' after second
  have versionFirst := version_prefix (first ▸ kept) (first ▸ few)
  have versionSecond := version_prefix (second ▸ kept) (second ▸ few)
  have versionThird := version_prefix (third ▸ kept) (third ▸ few)
  have found : version = mutations key new (before ++ [call]) := by
    rw [← versionFirst, observes_version observed (sameKey ▸ callKept), sameKey]
    rw [runCalls_append]
    rfl
  have found' : version' = mutations key new ((before ++ call :: middle) ++ [call']) := by
    rw [← versionThird, observes_version observed' (sameKey' ▸ callKept'), sameKey']
    rw [runCalls_append _ _ [call']]
    rfl
  -- The mutations of the middle and of the second call add up.
  have countSecond : mutations key new (before ++ call :: middle) =
      version + mutations key (runCalls new (before ++ [call])) middle := by
    rw [found]
    unfold mutations
    rw [← countCalls_append, List.append_assoc]
    rfl
  have countThird : version' = mutations key new (before ++ call :: middle) +
      (call'.mutates key (runCalls new (before ++ call :: middle))).toNat := by
    rw [found']
    unfold mutations
    rw [countCalls_append]
    rfl
  refine ⟨by omega, fun mutates => ?_, fun checked => ?_⟩
  · rw [mutates] at countThird
    simp only [Bool.toNat_true] at countThird
    omega
  · have expected := expects_version observed' checked
    rw [sameKey'] at expected
    omega

/-- A put and a checked put of the same key. -/
theorem compare_and_set_linear_example :
    let put : Call := .put ⟨"app", "", "me", "key", [1], false, 0⟩ 5
    let checked : Call := .put ⟨"app", "", "me", "key", [2], true, 1⟩ 6
    put.observes new = some 1 ∧ checked.observes (runCalls new [put]) = some 2 ∧
      mutations put.key (runCalls new [put]) [] = 0 := by
  intro put checked
  have observed : put.observes new = some 1 := by decide
  have observed' : checked.observes (runCalls new [put]) = some 2 := by decide
  have kept : deletions put.key new [put, checked] = 0 := by decide
  have few : mutations put.key new [put, checked] < 2 ^ 64 := by decide
  have split : [put, checked] = [] ++ put :: ([] ++ checked :: []) := rfl
  have linear := compare_and_set_linear kept few split rfl rfl observed observed'
  exact ⟨observed, observed', linear.2.2 rfl⟩

/-- A client puts a key and keeps its version. Another client deletes the key and puts it again. The
first client's checked put succeeds. -/
theorem recreated_version_repeats :
    let put : Call := .put ⟨"app", "", "me", "key", [1], false, 0⟩ 5
    let delete : Call := .delete ⟨"app", "", "me", "key", false, 0⟩
    let checked : Call := .put ⟨"app", "", "me", "key", [2], true, 1⟩ 6
    put.observes new = some 1 ∧ put.observes (runCalls new [put, delete]) = some 1 ∧
      checked.expects = some 1 ∧ checked.observes (runCalls new [put, delete, put]) = some 2 ∧
      mutations ⟨"app", "public", "me", "key"⟩ (runCalls new [put]) [delete, put] = 2 := by
  decide

end Anytty.Storage
