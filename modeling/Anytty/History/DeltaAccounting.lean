import Anytty.History.DeltaOrder

/-!
# Dropped bytes of the history delta queue

Every region that drops a transaction counts its source bytes then. The one
exception is `completeGap`: its gap was counted when it was made, and when the
callback fails `failLocked` counts it again. So `droppedBytes`, which `Status`
reports, is the size of what was discarded exactly as long as no gap callback has
failed (`droppedBytes_eq_iff`).
-/

namespace Anytty.History

open List

open Lossy (Cursor Event)

/-- The transaction a callback has applied. -/
def appliedNode : Call × Outcome → Option DeltaNode
  | (.apply node, .ok) => some node
  | _ => none

/-- The bytes a callback leaves lost. -/
def lostBytes : Call × Outcome → Nat
  | (.apply _, .ok) => 0
  | (.apply node, _) => node.sourceBytes
  | (.gap bytes _, _) => bytes

/-- The bytes of a gap whose callback failed. -/
def failedGapBytes : Call × Outcome → Nat
  | (.gap bytes _, .failed) => bytes
  | _ => 0

/-- The running callback, as if it had returned nil. -/
def Worker.running : Worker → List (Call × Outcome)
  | .calling call => [(call, .ok)]
  | _ => []

namespace DeltaState

variable (s : DeltaState)

/-- The accepted transactions that were not applied and will not be. -/
def discarded : List DeltaNode :=
  s.accepted.filter fun x =>
    x ∉ s.returned.filterMap appliedNode ++ (s.worker.applying ++ s.queue.nodes)

/-- The bytes of all gaps whose callback failed. -/
def failedGaps : Nat := (s.returned.map failedGapBytes).sum

end DeltaState

/-! ## What is counted -/

/-- What the queue drops it counts and adds to the pending gap. -/
structure DeltaQueue.CountsGap (q q' : DeltaQueue) : Prop where
  counted : q'.droppedBytes + q.pendingGapBytes = q.droppedBytes + q'.pendingGapBytes
  gapInFlight : q'.gapInFlightBytes = q.gapInFlightBytes

namespace DeltaQueue

variable {q q' q'' : DeltaQueue}

theorem CountsGap.trans (h : q.CountsGap q') (h' : q'.CountsGap q'') : q.CountsGap q'' := by
  refine ⟨?_, h'.gapInFlight.trans h.gapInFlight⟩
  have := h.counted
  have := h'.counted
  omega

variable (q)

theorem addGap_countsGap (through bytes : Nat) : q.CountsGap (q.addGap through bytes) := by
  unfold addGap
  split
  · exact ⟨rfl, rfl⟩
  · exact ⟨by dsimp only; omega, rfl⟩

theorem dropLoop_countsGap (nodes : List DeltaNode) : q.CountsGap (q.dropLoop nodes) := by
  fun_induction dropLoop q nodes with
  | case1 q => exact ⟨rfl, rfl⟩
  | case2 q node rest after ih =>
    exact (q.addGap_countsGap node.seq node.sourceBytes).trans { ih with }

theorem dropQueued_countsGap : q.CountsGap q.dropQueued := { q.dropLoop_countsGap q.nodes with }

theorem enqueue_countsGap (node : DeltaNode) : q.CountsGap (q.enqueue node) := by
  have hdrop := dropQueued_countsGap { q with nextSeq := q.nextSeq + 1 }
  unfold enqueue
  dsimp only
  split
  · split
    · exact CountsGap.trans { hdrop with } (addGap_countsGap _ _ _)
    · exact { hdrop with }
  · exact ⟨rfl, rfl⟩

/-- `failLocked` counts the bytes it is given besides. -/
theorem fail_countsGap (err : HistoryError) (through bytes : Nat) :
    DeltaQueue.CountsGap { q with droppedBytes := q.droppedBytes + bytes }
      (q.fail err through bytes) :=
  { dropQueued_countsGap { q with
      unavailable := if q.unavailable.isNone then some err else q.unavailable
      droppedBytes := q.droppedBytes + bytes } with }

theorem land_countsGap (node : DeltaNode) (done : Bool) : q.CountsGap (q.land node done) := by
  unfold land
  split <;> exact ⟨rfl, rfl⟩

end DeltaQueue

namespace DeltaState

/-- What has been counted: the pending gap and what the callbacks leave lost, the
failed gaps twice. -/
structure Counted (s : DeltaState) : Prop where
  counted : s.queue.droppedBytes = s.queue.pendingGapBytes +
    ((s.returned ++ s.worker.running).map lostBytes).sum + s.failedGaps
  gapInFlight : ∀ bytes through, s.worker = .calling (.gap bytes through) →
    s.queue.gapInFlightBytes = bytes

variable {s s' : DeltaState}

section

variable {q : DeltaQueue} (h : s.Counted)
include h

theorem Counted.region (hq : s.queue.CountsGap q)
    (accepted : List DeltaNode) : Counted { s with queue := q, accepted := accepted } := by
  refine ⟨?_, fun bytes through hw => hq.gapInFlight.trans (h.gapInFlight bytes through hw)⟩
  have hold := h.counted
  have hnew := hq.counted
  simp only [failedGaps] at hold ⊢
  omega

theorem Counted.move {w : Worker} (hidle : s.worker.running = [])
    (hgap : ∀ bytes through, w = .calling (.gap bytes through) → q.gapInFlightBytes = bytes)
    (hcounted : q.droppedBytes = s.queue.droppedBytes ∧
      s.queue.pendingGapBytes = q.pendingGapBytes + (w.running.map lostBytes).sum) :
    Counted { s with queue := q, worker := w } := by
  refine ⟨?_, hgap⟩
  have hold := h.counted
  simp only [failedGaps, hidle, map_append, sum_append, map_nil, sum_nil] at hold ⊢
  omega

theorem Counted.next (hw : s.worker = .idle) : s.next.Counted := by
  have hidle : s.worker.running = [] := by rw [hw]; rfl
  unfold DeltaState.next
  rcases hnext : s.queue.next with ⟨q, r⟩
  unfold DeltaQueue.next at hnext
  split at hnext
  · cases hnext
    exact h
  split at hnext
  · cases hnext
    exact h.move hidle nofun ⟨rfl, rfl⟩
  split at hnext
  · cases hnext
    refine h.move hidle ?_ ⟨rfl, by simp [Worker.running, lostBytes]⟩
    rintro bytes through ⟨⟩
    rfl
  split at hnext
  · cases hnext
    exact h.move hidle nofun ⟨rfl, rfl⟩
  · cases hnext
    exact h.move hidle nofun ⟨rfl, rfl⟩

theorem Counted.afterCall {call : Call} {o : Outcome} (hw : s.worker = .calling call)
    (hcounted : q.droppedBytes + s.queue.pendingGapBytes + lostBytes (call, .ok) =
      s.queue.droppedBytes + q.pendingGapBytes + lostBytes (call, o) + failedGapBytes (call, o)) :
    Counted (s.afterCall q call o) := by
  have hidle : (s.afterCall q call o).worker.running = [] := by
    unfold DeltaState.afterCall
    split <;> rfl
  refine ⟨?_, fun bytes through hrun => by rw [hrun] at hidle; cases hidle⟩
  have hold := h.counted
  rw [hidle]
  simp only [failedGaps, DeltaState.afterCall, hw, Worker.running, map_append, sum_append, map_cons,
    map_nil, sum_cons, sum_nil] at hold ⊢
  omega

theorem Counted.completeNode {node : DeltaNode} (hw : s.worker = .calling (.apply node))
    (err : Option HistoryError) :
    Counted (s.afterCall (s.queue.completeNode node err) (.apply node) (applyOutcome err)) := by
  have hland := fun done => (s.queue.land_countsGap node done).counted
  cases err with
  | none => exact h.afterCall hw (hland true)
  | some err =>
    unfold DeltaQueue.completeNode applyOutcome
    dsimp only
    split
    · refine h.afterCall hw ?_
      have hold := hland true
      simp only [lostBytes, failedGapBytes]
      omega
    · refine h.afterCall hw ?_
      have hold := hland false
      have hfail := ((s.queue.land node false).fail_countsGap err node.seq node.sourceBytes).counted
      simp only [lostBytes, failedGapBytes] at hfail ⊢
      omega

theorem Counted.completeGap {bytes through : Nat}
    (hw : s.worker = .calling (.gap bytes through)) (err : Option HistoryError) :
    Counted (s.afterCall (s.queue.completeGap through err) (.gap bytes through)
      (gapOutcome err)) := by
  refine h.afterCall hw ?_
  cases err with
  | none => rfl
  | some err =>
    -- the gap's bytes are counted a second time
    have hfail := (DeltaQueue.fail_countsGap
      { s.queue with gapInFlightBytes := 0, gapInFlightThrough := 0 } err through bytes).counted
    simp only [DeltaQueue.completeGap, h.gapInFlight bytes through hw, lostBytes, gapOutcome,
      failedGapBytes] at hfail ⊢
    omega

end

theorem Step.counted (hstep : Step s s') (h : s.Counted) : s'.Counted := by
  cases hstep with
  | enqueue tx n =>
    unfold DeltaState.enqueue
    split
    · exact h
    · exact h.region (s.queue.enqueue_countsGap _) _
  | start hw =>
    unfold DeltaState.start
    split
    · exact h
    · exact h.move (by rw [hw]; rfl) nofun ⟨rfl, rfl⟩
  | next hw => exact h.next hw
  | completeNode err hw => exact h.completeNode hw err
  | completeGap err hw => exact h.completeGap hw err
  | sealQueue => exact ⟨h.counted, h.gapInFlight⟩
  | close => exact h.region { DeltaQueue.dropQueued_countsGap { s.queue with closed := true } with } _

theorem Reachable.counted (h : s.Reachable) : s.Counted := by
  obtain ⟨config, hrun⟩ := h
  induction hrun with
  | refl => exact ⟨rfl, nofun⟩
  | tail _ hstep ih => exact hstep.counted ih

/-! ## What is discarded -/

/-- The pieces of the callbacks hold what was applied and what is lost. -/
theorem covered_perm {results : List (Call × Outcome)} {pieces : List (List DeltaNode)}
    (h : Forall₂ (fun r => Covers r.1) results pieces) :
    ∃ lost, pieces.flatten.Perm (results.filterMap appliedNode ++ lost) ∧
      sourceBytes lost = (results.map lostBytes).sum := by
  induction h with
  | nil => exact ⟨[], .nil, rfl⟩
  | @cons r piece results pieces hcovers _ ih =>
    obtain ⟨lost, hperm, hbytes⟩ := ih
    have hlost : appliedNode r = none ∧ sourceBytes piece = lostBytes r ∨
        ∃ node, r = (.apply node, .ok) := by
      obtain ⟨call, o⟩ := r
      cases call with
      | gap bytes through => exact .inl ⟨rfl, hcovers.2.1⟩
      | apply node =>
        cases hcovers
        cases o with
        | ok => exact .inr ⟨node, rfl⟩
        | recovered | failed => exact .inl ⟨rfl, rfl⟩
    rcases hlost with ⟨hnone, hsize⟩ | ⟨node, rfl⟩
    · refine ⟨piece ++ lost, ?_, by simp [hsize, hbytes]⟩
      rw [filterMap_cons_none hnone]
      exact (hperm.append_left piece).trans (perm_append_comm_assoc ..)
    · cases hcovers
      exact ⟨lost, hperm.cons node, by simp [hbytes, lostBytes]⟩

theorem applied_running (s : DeltaState) : (s.returned ++ s.worker.running).filterMap appliedNode =
    s.returned.filterMap appliedNode ++ s.worker.applying := by
  rw [filterMap_append]
  cases s.worker with
  | calling call => cases call <;> rfl
  | _ => rfl

/-- What was counted is what was discarded, and once more the gaps whose callback
failed. -/
theorem Reachable.droppedBytes_eq (h : s.Reachable) :
    s.queue.droppedBytes = sourceBytes s.discarded + s.failedGaps := by
  obtain ⟨k, hk⟩ := h.shows
  have hcalls : s.calls = (s.returned ++ s.worker.running).map Prod.fst := by
    rw [map_append]
    unfold calls
    cases s.worker <;> rfl
  have hcovers := hk.calls
  rw [hcalls, forall₂_map_left_iff] at hcovers
  obtain ⟨lost, hperm, hlost⟩ := covered_perm hcovers
  have hsplit : s.accepted.Perm (s.returned.filterMap appliedNode ++
      (s.worker.applying ++ s.queue.nodes) ++ (lost ++ k.lost)) := by
    refine perm_iff_count.2 fun x => ?_
    have hcount := hperm.count_eq x
    rw [applied_running] at hcount
    rw [hk.stream, Cursor.stream, hk.queue.nodes, flatMap_def]
    simp only [count_append] at hcount ⊢
    omega
  have hnodup : s.accepted.Nodup := by
    rw [hk.stream]
    exact Nodup.of_map _ (hk.sound.numbered.increasing.imp Nat.ne_of_lt)
  have hdisjoint := disjoint_of_nodup_append (hsplit.nodup_iff.1 hnodup)
  have hdiscarded : s.discarded.Perm (lost ++ k.lost) := by
    refine (hsplit.filter _).trans ?_
    rw [filter_append, filter_eq_nil_iff.2 (by simp [or_iff_not_imp_left]), nil_append,
      filter_eq_self.2]
    intro x hx
    simpa using fun hkept => hdisjoint hkept hx
  have hsize : sourceBytes s.discarded = sourceBytes (lost ++ k.lost) := (hdiscarded.map _).sum_eq
  rw [h.counted.counted, hsize, sourceBytes_append, hk.queue.lostBytes]
  omega

/-- The dropped bytes are the size of what was discarded as long as no gap callback
has failed, and no longer. -/
theorem droppedBytes_eq_iff (h : s.Reachable) :
    s.queue.droppedBytes = sourceBytes s.discarded ↔ s.failedGaps = 0 := by
  rw [h.droppedBytes_eq, Nat.add_eq_left]

/-- A transaction of 700 empty rows is larger than the least capacity, so it is a
gap at once. -/
def reportingGap : { s // Relation.ReflTransGen Step (initial ⟨65536, .drop⟩) s } :=
  have h₀ : Relation.ReflTransGen Step (initial ⟨65536, .drop⟩) _ := .refl
  have h₁ := h₀.tail (.enqueue ⟨replicate 700 ⟨[], []⟩⟩ 3)
  have h₂ := h₁.tail (.start (by decide +kernel))
  have h₃ := h₂.tail (.next (by decide +kernel))
  ⟨_, h₃⟩

/-- Its callback fails: three bytes were discarded and six are counted. -/
theorem droppedBytes_counted_twice :
    ∃ s : DeltaState, s.Reachable ∧ sourceBytes s.discarded = 3 ∧ s.queue.droppedBytes = 6 :=
  ⟨_, ⟨_, reportingGap.2.tail (@Step.completeGap _ 3 1
    (some ⟨"disk full", false⟩) (by decide +kernel))⟩, by decide +kernel, by decide +kernel⟩

/-- Its callback returns nil. -/
theorem droppedBytes_eq_iff_example :
    ∃ s : DeltaState, s.Reachable ∧ s.returned = [(.gap 3 1, .ok)] ∧
      s.queue.droppedBytes = sourceBytes s.discarded := by
  have h := reportingGap.2.tail (@Step.completeGap _ 3 1 none (by decide +kernel))
  exact ⟨_, ⟨_, h⟩, by decide +kernel, (droppedBytes_eq_iff ⟨_, h⟩).2 (by decide +kernel)⟩

end DeltaState

end Anytty.History
