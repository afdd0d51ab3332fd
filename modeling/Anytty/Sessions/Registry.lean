import Anytty.Connection.Registry
import Anytty.Data.Update

/-!
# The registry of grant sessions

`sessions.Registry` keeps the open connections of each grant, so that a revocation or an
expiry can close them. A call holds the lock of the registry for one region only and closes
connections after it, so `perform` is one region, one `Stop` of a timer or one `Close`.
-/

namespace Anytty.Sessions

open Anytty.Connection (trimSpace)
open Function

/-- The timer of an entry and its callback. -/
inductive Timer
  | none
  | armed
  /-- The callback has started and waits for the lock. -/
  | fired
  /-- The callback has removed the entry and closes its connection next. -/
  | closing
  | ended
  | stopped
deriving DecidableEq

def Timer.stop : Timer → Timer
  | .armed => .stopped
  | timer => timer

structure SessionEntry where
  grantID : String
  connection : Nat
  timer : Timer
  /-- Its release function was called. -/
  released : Bool := false
  /-- Its expiry callback has had the lock. -/
  expired : Bool := false
  /-- A `CloseGrant` has taken it out of the registry. -/
  taken : Bool := false
deriving DecidableEq

/-- A call that has given back the lock and still has connections to close. -/
inductive Call
  /-- `Track` has found its grant revoked. -/
  | refusing (grantID : String) (connection : Nat)
  /-- `CloseGrant`; the timer of the next entry is stopped or not yet. -/
  | closing (grantID : String) (stopped : Bool) (pending : List Nat)
deriving DecidableEq

/-- A `Close` of the connection of an entry. -/
structure Close where
  entry : Nat
  /-- The grant of the `CloseGrant` that made it; none for an expiry. -/
  closedGrant : Option String
deriving DecidableEq

structure Registry where
  byGrant : String → Option (Finset Nat)
  revoked : Finset String
  /-- The entries ever made. -/
  entries : Nat → Option SessionEntry
  nextEntry : Nat
  calls : Nat → Option Call
  /-- The connections of entries that were closed, the latest first. -/
  closes : List Close
  /-- The connections that were closed by a `Track` of a revoked grant. -/
  refused : List (String × Nat)
  /-- The grants of the `CloseGrant` calls that have returned. -/
  returned : List String

def newRegistry : Registry where
  byGrant := fun _ => none
  revoked := ∅
  entries := fun _ => none
  nextEntry := 0
  calls := fun _ => none
  closes := []
  refused := []
  returned := []

inductive Event
  | track (call : Nat) (grantID : String) (connection : Option Nat) (expires : Bool)
  | closeRefused (call : Nat)
  | release (entry : Nat)
  | fire (entry : Nat)
  | expire (entry : Nat)
  | closeExpired (entry : Nat)
  /-- `CloseGrant` under the lock, with the order in which it ranges over the group. -/
  | closeGrant (call : Nat) (grantID : String) (order : List Nat)
  | stopTimer (call : Nat)
  | closeNext (call : Nat)
  | returnCloseGrant (call : Nat)

namespace Registry

variable (registry : Registry)

/-- The entries of a grant. -/
def members (grantID : String) : Finset Nat := (registry.byGrant grantID).getD ∅

/-- The groups after an entry is deleted from its group, and the group if it is empty. -/
def removeEntry (grantID : String) (entry : Nat) : String → Option (Finset Nat) :=
  match registry.byGrant grantID with
  | none => registry.byGrant
  | some group => update registry.byGrant grantID
      (if group.erase entry = ∅ then none else some (group.erase entry))

def setEntry (id : Nat) (entry : SessionEntry) : Nat → Option SessionEntry :=
  update registry.entries id (some entry)

/-- One region under the lock, one `Stop` or one `Close`. An event that does not fit the state does
nothing. -/
def perform : Event → Registry
  | .track call grantID connection expires =>
    match registry.calls call, connection with
    | none, some connection =>
      let grantID := trimSpace grantID
      if grantID = "" then registry
      else if grantID ∈ registry.revoked then
        { registry with
          calls := update registry.calls call (some (.refusing grantID connection)) }
      else
        { registry with
          byGrant := update registry.byGrant grantID
            (some (insert registry.nextEntry (registry.members grantID)))
          entries := registry.setEntry registry.nextEntry
            { grantID, connection, timer := if expires then .armed else .none }
          nextEntry := registry.nextEntry + 1 }
    | _, _ => registry
  | .closeRefused call =>
    match registry.calls call with
    | some (.refusing grantID connection) =>
      { registry with
        calls := update registry.calls call none
        refused := (grantID, connection) :: registry.refused }
    | _ => registry
  | .release id =>
    match registry.entries id with
    | some entry =>
      if entry.released then registry
      else { registry with
        byGrant := registry.removeEntry entry.grantID id
        entries := registry.setEntry id { entry with released := true, timer := entry.timer.stop } }
    | none => registry
  | .fire id =>
    match registry.entries id with
    | some entry =>
      if entry.timer = .armed then
        { registry with entries := registry.setEntry id { entry with timer := .fired } }
      else registry
    | none => registry
  | .expire id =>
    match registry.entries id with
    | some entry =>
      if entry.timer = .fired then { registry with
        byGrant := registry.removeEntry entry.grantID id
        entries := registry.setEntry id { entry with timer := .closing, expired := true } }
      else registry
    | none => registry
  | .closeExpired id =>
    match registry.entries id with
    | some entry =>
      if entry.timer = .closing then { registry with
        entries := registry.setEntry id { entry with timer := .ended }
        closes := ⟨id, none⟩ :: registry.closes }
      else registry
    | none => registry
  | .closeGrant call grantID order =>
    let grantID := trimSpace grantID
    if grantID = "" then { registry with returned := "" :: registry.returned }
    else if (registry.calls call).isSome ∨ ¬ order.Nodup ∨
        order.toFinset ≠ registry.members grantID then registry
    else { registry with
      byGrant := update registry.byGrant grantID none
      revoked := insert grantID registry.revoked
      entries := fun id => (registry.entries id).map fun entry =>
        if id ∈ registry.members grantID then { entry with taken := true } else entry
      calls := update registry.calls call (some (.closing grantID false order)) }
  | .stopTimer call =>
    match registry.calls call with
    | some (.closing grantID false (id :: pending)) =>
      match registry.entries id with
      | some entry => { registry with
          entries := registry.setEntry id { entry with timer := entry.timer.stop }
          calls := update registry.calls call (some (.closing grantID true (id :: pending))) }
      | none => registry
    | _ => registry
  | .closeNext call =>
    match registry.calls call with
    | some (.closing grantID true (id :: pending)) => { registry with
        calls := update registry.calls call (some (.closing grantID false pending))
        closes := ⟨id, some grantID⟩ :: registry.closes }
    | _ => registry
  | .returnCloseGrant call =>
    match registry.calls call with
    | some (.closing grantID _ []) => { registry with
        calls := update registry.calls call none
        returned := grantID :: registry.returned }
    | _ => registry

end Registry

/-- The registries of the runs whose events a predicate allows. -/
def Reachable (allowed : Registry → Event → Prop) : Registry → Prop :=
  Relation.ReflTransGen (fun registry registry' => ∃ event, allowed registry event ∧
    registry' = registry.perform event) newRegistry

end Anytty.Sessions
