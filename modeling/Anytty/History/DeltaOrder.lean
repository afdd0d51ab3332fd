import Anytty.History.DeltaQueue
import Anytty.Lossy.Cursor

/-!
# Order and fence of the history delta queue

The queue is a lossy cursor over the accepted transactions: what the worker's
callbacks were invoked for, then what is lost and not reported, then what is
queued, is the accepted sequence (`delta_queue_law`). Since sequence numbers are
the positions in that sequence, `completedSeq` is the number of transactions
whose callback has returned, and that makes `Flush` a fence.

`Flush` counts a transaction whose `apply` returned a recovered error as done,
without a gap callback of the queue (`flush_after_recovered`): the error says
that the history has already isolated it by a gap of its own.
-/

namespace Anytty.History

open List

open Lossy (Cursor Event)

/-- The source bytes of a list of nodes. -/
def sourceBytes (nodes : List DeltaNode) : Nat := (nodes.map (·.sourceBytes)).sum

/-- The resident bytes of a list of nodes. -/
def residentBytes (nodes : List DeltaNode) : Int := (nodes.map (·.residentBytes)).sum

/-- The sequence number of the last node, or zero. -/
def lastSeq (nodes : List DeltaNode) : Nat := (nodes.getLast?.map (·.seq)).getD 0

@[simp] theorem sourceBytes_nil : sourceBytes [] = 0 := rfl

@[simp] theorem sourceBytes_cons (x : DeltaNode) (xs : List DeltaNode) :
    sourceBytes (x :: xs) = x.sourceBytes + sourceBytes xs := by simp [sourceBytes]

@[simp] theorem sourceBytes_append (xs ys : List DeltaNode) :
    sourceBytes (xs ++ ys) = sourceBytes xs + sourceBytes ys := by simp [sourceBytes]

@[simp] theorem residentBytes_nil : residentBytes [] = 0 := rfl

@[simp] theorem residentBytes_cons (x : DeltaNode) (xs : List DeltaNode) :
    residentBytes (x :: xs) = x.residentBytes + residentBytes xs := by simp [residentBytes]

@[simp] theorem residentBytes_append (xs ys : List DeltaNode) :
    residentBytes (xs ++ ys) = residentBytes xs + residentBytes ys := by simp [residentBytes]

@[simp] theorem lastSeq_nil : lastSeq [] = 0 := rfl

@[simp] theorem lastSeq_concat (xs : List DeltaNode) (x : DeltaNode) :
    lastSeq (xs ++ [x]) = x.seq := by simp [lastSeq]

theorem lastSeq_append {xs ys : List DeltaNode} (h : ys ≠ []) :
    lastSeq (xs ++ ys) = lastSeq ys := by
  simp [lastSeq, List.getLast?_append, List.getLast?_eq_some_getLast h]

theorem residentBytes_nonneg {xs : List DeltaNode} (h : ∀ x ∈ xs, 0 ≤ x.residentBytes) :
    0 ≤ residentBytes xs := by
  induction xs with
  | nil => exact le_rfl
  | cons x xs ih =>
    have hx := h x mem_cons_self
    have hxs := ih fun y hy => h y (mem_cons_of_mem _ hy)
    rw [residentBytes_cons]
    omega

/-! ## Numbers are positions -/

/-- The accepted transactions are numbered from one. -/
def Numbered (nodes : List DeltaNode) : Prop :=
  nodes.map (·.seq) = List.range' 1 nodes.length

section Numbered

variable {xs ys : List DeltaNode} {x : DeltaNode}

theorem Numbered.concat (h : Numbered xs) (hx : x.seq = xs.length + 1) : Numbered (xs ++ [x]) := by
  unfold Numbered at *
  rw [map_append, h, length_append, length_singleton, range'_1_concat]
  simp [hx, Nat.add_comm]

theorem Numbered.of_prefix (h : Numbered ys) (hp : xs <+: ys) : Numbered xs := by
  obtain ⟨zs, rfl⟩ := hp
  have htake := congrArg (List.take xs.length) h
  rw [map_append, take_left' (by simp), length_append, ← range'_append_1,
    take_left' (by simp)] at htake
  exact htake

theorem Numbered.increasing (h : Numbered xs) : (xs.map (·.seq)).Pairwise (· < ·) := by
  rw [h]
  exact pairwise_lt_range'

theorem Numbered.lastSeq_eq (h : Numbered xs) : lastSeq xs = xs.length := by
  rcases eq_nil_or_concat xs with rfl | ⟨ys, y, rfl⟩
  · rfl
  rw [concat_eq_append] at h ⊢
  have hlast := congrArg List.getLast? h
  rw [length_append, length_singleton, range'_1_concat] at hlast
  simpa [Nat.add_comm] using hlast

theorem Numbered.seq_pos (h : Numbered xs) (hx : x ∈ xs) : 1 ≤ x.seq := by
  have hmem : x.seq ∈ List.range' 1 xs.length := h ▸ mem_map_of_mem hx
  exact (mem_range'_1.1 hmem).1

end Numbered

/-! ## Dropping what is queued -/

namespace DeltaQueue

variable {q : DeltaQueue} {lost nodes : List DeltaNode}

/-- `addGapLocked` for a transaction numbered above what is lost. -/
theorem addGap_eq {x : DeltaNode} (hthrough : q.pendingGapThrough = lastSeq lost)
    (hseq : lastSeq lost < x.seq) (hpos : 1 ≤ x.sourceBytes) :
    q.addGap x.seq x.sourceBytes =
      { q with
        pendingGapBytes := q.pendingGapBytes + x.sourceBytes
        pendingGapThrough := lastSeq (lost ++ [x])
        droppedBytes := q.droppedBytes + x.sourceBytes
        gapCount := (q.addGap x.seq x.sourceBytes).gapCount } := by
  unfold addGap
  rw [if_neg (by omega), lastSeq_concat, if_pos (by rw [hthrough]; exact hseq)]

/-- The loop over the queued nodes, behind those already lost. -/
theorem dropLoop_eq (hthrough : q.pendingGapThrough = lastSeq lost)
    (hnum : ∃ before, Numbered (before ++ lost ++ nodes))
    (hpos : ∀ x ∈ nodes, 1 ≤ x.sourceBytes) :
    q.dropLoop nodes =
      { q with
        resident := q.resident - residentBytes nodes
        pendingGapBytes := q.pendingGapBytes + sourceBytes nodes
        pendingGapThrough := lastSeq (lost ++ nodes)
        droppedBytes := q.droppedBytes + sourceBytes nodes
        gapCount := (q.dropLoop nodes).gapCount } := by
  induction nodes generalizing q lost with
  | nil => simp [dropLoop, ← hthrough]
  | cons x xs ih =>
    obtain ⟨before, hnum⟩ := hnum
    have hsplit : before ++ lost ++ x :: xs = before ++ (lost ++ [x]) ++ xs := by simp
    have hbelow : lastSeq lost < x.seq := by
      rcases eq_nil_or_concat lost with rfl | ⟨ys, y, rfl⟩
      · exact hnum.seq_pos (by simp)
      rw [concat_eq_append, lastSeq_concat]
      have hinc := hnum.increasing
      simp only [concat_eq_append, map_append, pairwise_append] at hinc
      exact hinc.2.2 y.seq (by simp) x.seq (by simp)
    have hstep := addGap_eq hthrough hbelow (hpos x mem_cons_self)
    unfold dropLoop
    rw [@ih _ (lost ++ [x]) (by rw [hstep]) ⟨before, hsplit ▸ hnum⟩
      fun y hy => hpos y (mem_cons_of_mem _ hy), hstep]
    simp only [sourceBytes_cons, residentBytes_cons, List.append_assoc, singleton_append,
      Nat.add_assoc, mk.injEq, and_true, true_and]
    omega

/-- `dropQueuedLocked`: the queued nodes follow those already lost. The clamp at
zero does nothing. -/
theorem dropQueued_eq {r : Int} (hnodes : q.nodes = nodes)
    (hthrough : q.pendingGapThrough = lastSeq lost)
    (hnum : ∃ before, Numbered (before ++ lost ++ nodes))
    (hpos : ∀ x ∈ nodes, 1 ≤ x.sourceBytes)
    (hres : q.resident = residentBytes nodes + r) (hr : 0 ≤ r) :
    q.dropQueued =
      { q with
        nodes := []
        resident := r
        pendingGapBytes := q.pendingGapBytes + sourceBytes nodes
        pendingGapThrough := lastSeq (lost ++ nodes)
        droppedBytes := q.droppedBytes + sourceBytes nodes
        gapCount := q.dropQueued.gapCount } := by
  have hloop := dropLoop_eq hthrough hnum hpos
  unfold dropQueued
  rw [hnodes]
  rw [hloop]
  have hr' : q.resident - residentBytes nodes = r := by rw [hres]; ring
  simp only [hr', mk.injEq, and_true, true_and]
  rw [if_neg (by omega)]

end DeltaQueue

/-! ## The queue as a cursor -/

/-- The transactions offered to a cursor: numbered by position, each with a
positive number of source bytes. -/
structure Sound (k : Cursor DeltaNode) : Prop where
  numbered : Numbered k.stream
  sized : ∀ x ∈ k.stream, 1 ≤ x.sourceBytes ∧ 0 ≤ x.residentBytes

/-- How the queue shows a cursor. -/
structure DeltaQueue.Holds (q : DeltaQueue) (k : Cursor DeltaNode) : Prop where
  nodes : q.nodes = k.queue
  inFlight : q.inFlight = k.flight.head?
  lostBytes : q.pendingGapBytes = sourceBytes k.lost
  lostThrough : q.pendingGapThrough = lastSeq k.lost
  resident : q.resident = residentBytes k.queue + residentBytes k.flight

/-- Only the queue and its gap have changed. -/
structure DeltaQueue.SameRun (q q' : DeltaQueue) : Prop where
  nextSeq : q'.nextSeq = q.nextSeq
  unavailable : q'.unavailable = q.unavailable
  completedSeq : q'.completedSeq = q.completedSeq

section Queue

variable {q : DeltaQueue} {k : Cursor DeltaNode} {x : DeltaNode}

theorem mem_stream_of_flight (hx : x ∈ k.flight) : x ∈ k.stream := by
  have hlast := k.flight_handed (ne_nil_of_mem hx)
  refine mem_append_left _ (mem_append_left _ (mem_flatMap.2 ?_))
  exact ⟨_, mem_of_getLast? hlast, hx⟩

theorem Sound.flight_nonneg (h : Sound k) : 0 ≤ residentBytes k.flight :=
  residentBytes_nonneg fun x hx => (h.sized x (mem_stream_of_flight hx)).2

theorem Sound.queue_nonneg (h : Sound k) : 0 ≤ residentBytes k.queue :=
  residentBytes_nonneg fun x hx => (h.sized x (mem_append_right _ hx)).2

/-- A transaction has bytes, so a gap without bytes is over nothing. -/
theorem Sound.eq_nil (h : Sound k) {xs : List DeltaNode} (hsub : xs ⊆ k.stream)
    (hzero : sourceBytes xs = 0) : xs = [] := by
  cases xs with
  | nil => rfl
  | cons x xs =>
    have hx := (h.sized x (hsub mem_cons_self)).1
    rw [sourceBytes_cons] at hzero
    omega

theorem Sound.congr {k' : Cursor DeltaNode} (h : Sound k) (hs : k'.stream = k.stream) : Sound k' :=
  ⟨hs ▸ h.numbered, hs ▸ h.sized⟩

section

variable (h : q.Holds k)
include h

namespace DeltaQueue.Holds

/-- `dropQueuedLocked`: the cursor loses its queue. -/
theorem dropQueued (hk : Sound k) : q.dropQueued.Holds k.loseAll ∧ q.SameRun q.dropQueued := by
  have hdrop := dropQueued_eq h.nodes h.lostThrough
    ⟨k.handed.flatMap Event.items, hk.numbered⟩
    (fun x hx => (hk.sized x (mem_append_right _ hx)).1) h.resident hk.flight_nonneg
  rw [hdrop]
  refine ⟨⟨by simp, h.inFlight, ?_, ?_, ?_⟩, rfl, rfl, rfl⟩
  · simp [Cursor.loseAll, Cursor.lose, h.lostBytes]
  · simp [Cursor.loseAll, Cursor.lose]
  · simp [Cursor.loseAll, Cursor.lose]

/-- `addGapLocked` behind an empty queue: the cursor skips the transaction. -/
theorem addGap (hk : Sound k) (hq : k.queue = [])
    (hx : x.seq = k.stream.length + 1) (hpos : 1 ≤ x.sourceBytes) :
    (q.addGap x.seq x.sourceBytes).Holds (k.skip x) ∧
      q.SameRun (q.addGap x.seq x.sourceBytes) := by
  have hbelow : lastSeq k.lost < x.seq := by
    rcases eq_or_ne k.lost [] with hnil | hne
    · rw [hnil, lastSeq_nil]
      omega
    · have hlast := hk.numbered.lastSeq_eq
      rw [Cursor.stream, hq, append_nil, lastSeq_append hne] at hlast
      rw [hlast, hx, Cursor.stream, hq]
      simp
  rw [addGap_eq h.lostThrough hbelow hpos]
  refine ⟨⟨by rw [h.nodes, hq]; rfl, h.inFlight, ?_, ?_, ?_⟩, rfl, rfl, rfl⟩
  · simp [Cursor.skip, hq, h.lostBytes]
  · simp [Cursor.skip, hq]
  · simpa [Cursor.skip, hq] using h.resident

theorem push : (q.push x).Holds (k.offer x) := by
  refine ⟨by simp [DeltaQueue.push, Cursor.offer, h.nodes], h.inFlight, h.lostBytes, h.lostThrough,
    ?_⟩
  simp only [DeltaQueue.push, h.resident, Cursor.offer, residentBytes_append, residentBytes_cons,
    residentBytes_nil]
  ring

/-- What `Enqueue` does with an accepted transaction: it is offered, offered
behind a lost queue, or lost with it. -/
theorem enqueue (hk : Sound k)
    (hx : x.seq = k.stream.length + 1) (hpos : 1 ≤ x.sourceBytes) :
    ∃ k', (q.enqueue x).Holds k' ∧
      SameRun { q with nextSeq := q.nextSeq + 1 } (q.enqueue x) ∧
      k'.stream = k.stream ++ [x] ∧ k'.handed = k.handed ∧ k'.flight = k.flight := by
  set q₀ : DeltaQueue := { q with nextSeq := q.nextSeq + 1 } with hq₀
  have h₀ : q₀.Holds k := { h with }
  unfold DeltaQueue.enqueue
  dsimp only
  split
  · -- over capacity: the queue is dropped first
    obtain ⟨hdrop, hrun⟩ := h₀.dropQueued hk
    have hk' : Sound k.loseAll := hk.congr (by simp)
    split
    · obtain ⟨hgap, hrun'⟩ := hdrop.addGap hk' (by simp) (by simpa using hx) hpos
      refine ⟨_, hgap, ?_, by simp, rfl, rfl⟩
      exact ⟨hrun'.nextSeq.trans hrun.nextSeq, hrun'.unavailable.trans hrun.unavailable,
        hrun'.completedSeq.trans hrun.completedSeq⟩
    · exact ⟨_, hdrop.push, ⟨hrun.nextSeq, hrun.unavailable, hrun.completedSeq⟩, by simp, rfl, rfl⟩
  · exact ⟨_, h₀.push, ⟨rfl, rfl, rfl⟩, by simp, rfl, rfl⟩

/-- The node in flight lands: the clamp at zero does nothing. -/
theorem land (hk : Sound k) (hf : k.flight = [x]) (done : Bool) :
    (q.land x done).Holds k.complete ∧ (q.land x done).nextSeq = q.nextSeq ∧
      (q.land x done).unavailable = q.unavailable ∧
      (q.land x true).completedSeq = max q.completedSeq x.seq := by
  have hflight : q.inFlight = some x := by rw [h.inFlight, hf]; rfl
  have hres : q.resident - x.residentBytes = residentBytes k.queue := by
    rw [h.resident, hf, residentBytes_cons, residentBytes_nil]
    ring
  have hpos := hk.queue_nonneg
  unfold DeltaQueue.land
  simp only [hflight, if_true, hres, if_neg (not_lt.2 hpos)]
  refine ⟨⟨h.nodes, rfl, h.lostBytes, h.lostThrough, ?_⟩, trivial, trivial, ?_⟩
  · simp [Cursor.complete]
  · simp only [Bool.true_and, decide_eq_true_eq]
    split <;> omega

/-- `failLocked`: the queue is lost with the worker. -/
theorem fail (hk : Sound k) (err : HistoryError) (through n : Nat) :
    (q.fail err through n).Holds k.loseAll ∧ (q.fail err through n).nextSeq = q.nextSeq ∧
      (q.fail err through n).unavailable ≠ none := by
  set q₀ : DeltaQueue :=
    { q with
      unavailable := if q.unavailable.isNone then some err else q.unavailable
      droppedBytes := q.droppedBytes + n } with hq₀
  have h₀ : q₀.Holds k := { h with }
  obtain ⟨hdrop, hrun⟩ := h₀.dropQueued hk
  refine ⟨{ hdrop with },
    hrun.nextSeq, ?_⟩
  show q₀.dropQueued.unavailable ≠ none
  rw [hrun.unavailable, hq₀]
  cases hu : q.unavailable <;> simp

end DeltaQueue.Holds

/-- What `next` did, by what it returned. -/
inductive DeltaQueue.NextSpec (q : DeltaQueue) (k : Cursor DeltaNode) :
    DeltaQueue × Next → Prop
  | wait : NextSpec q k (q, .wait)
  | stop : NextSpec q k (q, .stop)
  | gap {q' : DeltaQueue} : q'.Holds k.handGap → q.SameRun q' → k.lost ≠ [] →
      NextSpec q k (q', .gap (sourceBytes k.lost) (lastSeq k.lost))
  | node {q' : DeltaQueue} {x : DeltaNode} : q'.Holds (k.handBatch 1) → q.SameRun q' →
      k.lost = [] → k.queue.take 1 = [x] → NextSpec q k (q', .node x)

/-- `next`, called without a transaction in flight. -/
theorem DeltaQueue.Holds.next (hk : Sound k) (hf : k.flight = []) : NextSpec q k q.next := by
  have hidle : q.inFlight = none := by rw [h.inFlight, hf]; rfl
  unfold DeltaQueue.next
  split
  · exact .wait
  split
  · exact .stop
  split
  · next hpos =>
    rw [h.lostBytes, h.lostThrough]
    refine .gap ⟨h.nodes, hidle, rfl, rfl, ?_⟩ ⟨rfl, rfl, rfl⟩ fun hnil => ?_
    · simpa [hf, Cursor.handGap] using h.resident
    · rw [h.lostBytes, hnil] at hpos
      exact absurd hpos (by simp)
  · next hzero =>
    have hlost : k.lost = [] := hk.eq_nil
      (fun _ hx => mem_append_left _ (mem_append_right _ hx)) (by rw [← h.lostBytes]; omega)
    cases hq : k.queue with
    | nil =>
      rw [h.nodes, hq]
      exact .stop
    | cons x xs =>
      rw [h.nodes, hq]
      refine .node ⟨by simp [Cursor.handBatch, hq], by simp [Cursor.handBatch, hq], h.lostBytes,
        h.lostThrough, ?_⟩ ⟨rfl, rfl, rfl⟩ hlost (by simp [hq])
      have hres := h.resident
      rw [hq, hf, residentBytes_cons, residentBytes_nil] at hres
      simp only [Cursor.handBatch, hq, take_succ_cons, take_zero, drop_succ_cons,
        drop_zero, residentBytes_cons, residentBytes_nil]
      rw [hres]
      ring

end

end Queue

/-! ## The invariant of a run -/

/-- A callback accounts for a piece of the accepted sequence. -/
def Covers : Call → List DeltaNode → Prop
  | .apply node, piece => piece = [node]
  | .gap bytes through, piece =>
    piece ≠ [] ∧ sourceBytes piece = bytes ∧ lastSeq piece = through

/-- A callback returned well: without error, or `apply` with a recovered one. -/
def ReturnedWell (r : Call × Outcome) : Prop :=
  r.2 = .ok ∨ ∃ node, r.1 = .apply node ∧ r.2 = .recovered

/-- The transaction the worker is applying. -/
def Worker.applying : Worker → List DeltaNode
  | .calling (.apply node) => [node]
  | _ => []

/-- How a state shows a cursor over the accepted transactions. As long as the
worker has not failed, `completedSeq` counts the transactions whose callback has
returned. -/
structure Shows (s : DeltaState) (k : Cursor DeltaNode) : Prop where
  stream : s.accepted = k.stream
  sound : Sound k
  queue : s.queue.Holds k
  nextSeq : s.queue.nextSeq = k.stream.length
  flight : k.flight = s.worker.applying
  calls : List.Forall₂ Covers s.calls (k.handed.map Event.items)
  returned : s.queue.unavailable = none → ∀ r ∈ s.returned, ReturnedWell r
  completed : s.queue.unavailable = none →
    s.queue.completedSeq = ((k.handed.take s.returned.length).flatMap Event.items).length

section Run

variable {s s' : DeltaState} {k : Cursor DeltaNode}

/-- The calls made and the events handed over pair up. -/
theorem Shows.calls_length (h : Shows s k) : s.calls.length = k.handed.length := by
  simpa using h.calls.length_eq

theorem initial_shows (config : Output.BufferConfig) :
    Shows (DeltaState.initial config) Cursor.empty :=
  ⟨rfl, ⟨rfl, by simp⟩, ⟨rfl, rfl, rfl, rfl, rfl⟩, rfl, rfl, .nil, by simp [DeltaState.initial],
    fun _ => rfl⟩

theorem countedBytes_pos (n : Int) : 1 ≤ DeltaQueue.countedBytes n := by
  unfold DeltaQueue.countedBytes
  dsimp only
  split <;> split <;> omega

section

variable (h : Shows s k)
include h

theorem Shows.enqueue (tx : Transaction) (n : Int) : ∃ k', Shows (s.enqueue tx n) k' := by
  unfold DeltaState.enqueue
  split
  · exact ⟨k, h⟩
  set x := s.queue.nodeFor tx n with hx
  have hseq : x.seq = k.stream.length + 1 := by rw [← h.nextSeq]; rfl
  obtain ⟨k', hq, hrun, hstream, hhanded, hflight⟩ :=
    h.queue.enqueue h.sound hseq (countedBytes_pos n)
  refine ⟨k', ?_, ⟨?_, fun y hy => ?_⟩, hq, ?_, hflight.trans h.flight, ?_, fun hu => ?_, fun hu => ?_⟩
  · rw [hstream, ← h.stream]
  · rw [hstream]
    exact h.sound.numbered.concat hseq
  · rw [hstream] at hy
    exact forall_mem_append.2 ⟨h.sound.sized,
      forall_mem_singleton.2 ⟨countedBytes_pos n, Int.natCast_nonneg _⟩⟩ y hy
  · rw [hrun.nextSeq, hstream]
    simp [h.nextSeq]
  · rw [hhanded]
    exact h.calls
  · exact h.returned (hrun.unavailable ▸ hu)
  · rw [hrun.completedSeq, hhanded]
    exact h.completed (hrun.unavailable ▸ hu)

theorem Shows.dropQueued {q : DeltaQueue}
    (hq : q.Holds k.loseAll) (hrun : s.queue.SameRun q) : Shows { s with queue := q } k.loseAll where
  stream := by simpa using h.stream
  sound := h.sound.congr (by simp)
  queue := hq
  nextSeq := by rw [hrun.nextSeq]; simpa using h.nextSeq
  flight := h.flight
  calls := h.calls
  returned hu := h.returned (hrun.unavailable ▸ hu)
  completed hu := by rw [hrun.completedSeq]; exact h.completed (hrun.unavailable ▸ hu)

omit h in
theorem calls_of_idle (hw : s.worker = .idle) : s.calls = s.returned.map Prod.fst := by
  simp [DeltaState.calls, hw]

variable {k' : Cursor DeltaNode} {call : Call} {e : Event DeltaNode}

theorem Shows.hand {q : DeltaQueue}
    (hw : s.worker = .idle) (hq : q.Holds k') (hrun : s.queue.SameRun q)
    (hstream : k'.stream = k.stream) (hhanded : k'.handed = k.handed ++ [e])
    (hflight : k'.flight = (Worker.calling call).applying) (hcovers : Covers call e.items) :
    Shows { s with queue := q, worker := .calling call } k' where
  stream := by rw [hstream]; exact h.stream
  sound := h.sound.congr hstream
  queue := hq
  nextSeq := by rw [hrun.nextSeq, hstream]; exact h.nextSeq
  flight := hflight
  calls := by
    have hcalls := h.calls
    rw [calls_of_idle hw] at hcalls
    rw [hhanded, map_append]
    exact rel_append hcalls (.cons hcovers .nil)
  returned hu := h.returned (hrun.unavailable ▸ hu)
  completed hu := by
    have hlen : s.returned.length ≤ k.handed.length := by
      have := h.calls_length
      rw [calls_of_idle hw, length_map] at this
      exact this.le
    rw [hrun.completedSeq, hhanded, take_append_of_le_length hlen]
    exact h.completed (hrun.unavailable ▸ hu)

/-- `next`: the gap before anything queued, else the oldest transaction. -/
theorem Shows.next (hw : s.worker = .idle) : ∃ k', Shows s.next k' := by
  have hflight : k.flight = [] := by rw [h.flight, hw]; rfl
  have hspec := h.queue.next h.sound hflight
  unfold DeltaState.next
  rcases hnext : s.queue.next with ⟨q, r⟩
  rw [hnext] at hspec
  cases hspec with
  | wait => exact ⟨k, h⟩
  | stop =>
    refine ⟨k, { h with flight := hflight, calls := ?_ }⟩
    simpa [DeltaState.calls, hw] using h.calls
  | gap hq hrun hne =>
    exact ⟨k.handGap, h.hand (e := .gap k.lost) hw hq hrun (by simp) rfl rfl ⟨hne, rfl, rfl⟩⟩
  | node hq hrun hlost hx =>
    exact ⟨k.handBatch 1, h.hand (e := .delivered (k.queue.take 1)) hw hq hrun
      (Cursor.stream_handBatch hlost 1) rfl hx hx⟩

/-- The running callback is the last event. -/
theorem Shows.last_call (hw : s.worker = .calling call) :
    ∃ before e, k.handed = before ++ [e] ∧ before.length = s.returned.length ∧
      Covers call e.items := by
  have hcalls := h.calls
  have hlen := h.calls_length
  simp only [DeltaState.calls, hw] at hcalls hlen
  rcases eq_nil_or_concat k.handed with hnil | ⟨before, e, hcat⟩
  · simp [hnil] at hlen
  rw [concat_eq_append] at hcat
  rw [hcat] at hlen hcalls
  have hbefore : before.length = s.returned.length := by simpa using hlen.symm
  refine ⟨before, e, hcat, hbefore, ?_⟩
  rw [map_append] at hcalls
  have htail := forall₂_drop s.returned.length hcalls
  rw [drop_left' (by simp), drop_left' (by simp [hbefore])] at htail
  exact (forall₂_cons.1 htail).1

/-- The last number of the running callback's piece is the number of
transactions handed over, above all that have returned. -/
theorem Shows.last_number {before : List (Event DeltaNode)}
    (hcat : k.handed = before ++ [e]) (hne : e.items ≠ []) :
    lastSeq e.items = (k.handed.flatMap Event.items).length ∧
      (before.flatMap Event.items).length < lastSeq e.items := by
  have hpre : k.handed.flatMap Event.items <+: k.stream := ⟨k.lost ++ k.queue, by simp [Cursor.stream]⟩
  have hlast := (h.sound.numbered.of_prefix hpre).lastSeq_eq
  rw [hcat, flatMap_append, flatMap_singleton, lastSeq_append hne] at hlast
  refine ⟨by rw [hlast, hcat, flatMap_append, flatMap_singleton], ?_⟩
  rw [hlast, length_append]
  have := length_pos_iff.2 hne
  omega

/-- A callback returned. What the queue then shows is given by `k'`, which keeps
the events. -/
theorem Shows.afterCall {q : DeltaQueue} {o : Outcome}
    (hw : s.worker = .calling call) (hq : q.Holds k')
    (hstream : k'.stream = k.stream) (hhanded : k'.handed = k.handed) (hflight : k'.flight = [])
    (hnext : q.nextSeq = s.queue.nextSeq)
    (hgood : q.unavailable = none → s.queue.unavailable = none ∧ ReturnedWell (call, o) ∧
      ∀ e, Covers call e → q.completedSeq = max s.queue.completedSeq (lastSeq e)) :
    Shows (s.afterCall q call o) k' := by
  obtain ⟨before, e, hcat, hlen, hcovers⟩ := h.last_call hw
  have hne : e.items ≠ [] := by
    cases call with
    | apply node => simp [show e.items = [node] from hcovers]
    | gap bytes through => exact hcovers.1
  have hcalls : (s.afterCall q call o).calls = s.calls := by
    cases o <;> simp [DeltaState.calls, DeltaState.afterCall, hw]
  refine ⟨hstream ▸ h.stream, h.sound.congr hstream, hq, ?_, ?_, ?_, fun hu r hr => ?_, fun hu => ?_⟩
  · exact hnext.trans (hstream ▸ h.nextSeq)
  · rw [hflight]
    simp only [DeltaState.afterCall]
    split <;> rfl
  · rw [hcalls, hhanded]
    exact h.calls
  · obtain ⟨hu, hwell, -⟩ := hgood hu
    exact forall_mem_append.2 ⟨h.returned hu, forall_mem_singleton.2 hwell⟩ r hr
  · obtain ⟨hu, -, hdone⟩ := hgood hu
    obtain ⟨hlast, hbelow⟩ := h.last_number hcat hne
    have hold := h.completed hu
    rw [hcat, take_left' hlen] at hold
    have htake : k'.handed.take (s.afterCall q call o).returned.length = k.handed := by
      rw [hhanded, take_of_length_le]
      simp [hcat, DeltaState.afterCall, hlen]
    rw [htake]
    show q.completedSeq = _
    rw [hdone _ hcovers]
    omega

theorem Shows.completeNode {x : DeltaNode} (hw : s.worker = .calling (.apply x))
    (err : Option HistoryError) :
    ∃ k', Shows (s.afterCall (s.queue.completeNode x err) (.apply x) (applyOutcome err)) k' := by
  have hf : k.flight = [x] := by rw [h.flight, hw]; rfl
  have hlast : ∀ e, Covers (.apply x) e → lastSeq e = x.seq := by
    rintro e rfl
    rfl
  cases err with
  | none =>
    obtain ⟨hq, hnext, hu, hdone⟩ := h.queue.land h.sound hf true
    exact ⟨k.complete, h.afterCall hw hq rfl rfl rfl hnext fun hnone =>
      ⟨hu ▸ hnone, .inl rfl, fun e he => by rw [hlast e he]; exact hdone⟩⟩
  | some err =>
    unfold DeltaQueue.completeNode applyOutcome
    dsimp only
    split
    · obtain ⟨hq, hnext, hu, hdone⟩ := h.queue.land h.sound hf true
      exact ⟨k.complete, h.afterCall hw
        { hq with } rfl rfl rfl hnext
        fun hnone => ⟨hu ▸ hnone, .inr ⟨x, rfl, rfl⟩, fun e he => by rw [hlast e he]; exact hdone⟩⟩
    · obtain ⟨hq, hnext, hu, -⟩ := h.queue.land h.sound hf false
      obtain ⟨hq', hnext', hfail⟩ := hq.fail (h.sound.congr rfl) err x.seq x.sourceBytes
      exact ⟨k.complete.loseAll, h.afterCall hw hq' (by simp) rfl rfl (hnext'.trans hnext)
        fun hnone => absurd hnone hfail⟩

theorem Shows.completeGap {bytes through : Nat}
    (hw : s.worker = .calling (.gap bytes through)) (err : Option HistoryError) :
    ∃ k', Shows (s.afterCall (s.queue.completeGap through err) (.gap bytes through)
      (gapOutcome err)) k' := by
  have hf : k.flight = [] := by rw [h.flight, hw]; rfl
  have hq₀ : DeltaQueue.Holds { s.queue with gapInFlightBytes := 0, gapInFlightThrough := 0 } k :=
    { h.queue with }
  cases err with
  | none =>
    refine ⟨k, h.afterCall hw
      { hq₀ with } rfl rfl hf rfl
      fun hnone => ⟨hnone, .inl rfl, fun e he => ?_⟩⟩
    rw [he.2.2]
    simp only [DeltaQueue.completeGap]
    split <;> omega
  | some err =>
    obtain ⟨hq, hnext, hfail⟩ := hq₀.fail h.sound err through s.queue.gapInFlightBytes
    exact ⟨k.loseAll, h.afterCall hw hq (by simp) rfl hf hnext fun hnone => absurd hnone hfail⟩

end

theorem DeltaState.Step.shows (hstep : DeltaState.Step s s') (h : Shows s k) :
    ∃ k', Shows s' k' := by
  cases hstep with
  | enqueue tx n => exact h.enqueue tx n
  | start hw =>
    unfold DeltaState.start
    split
    · exact ⟨k, h⟩
    refine ⟨k, { h with queue := { h.queue with }, flight := ?_, calls := ?_ }⟩
    · rw [h.flight, hw]; rfl
    · simpa [DeltaState.calls, hw] using h.calls
  | next hw => exact h.next hw
  | completeNode err hw => exact h.completeNode hw err
  | completeGap err hw => exact h.completeGap hw err
  | sealQueue =>
    exact ⟨k, { h with queue := { h.queue with } }⟩
  | close =>
    have hq₀ : DeltaQueue.Holds { s.queue with closed := true } k :=
      { h.queue with }
    obtain ⟨hq, hrun⟩ := hq₀.dropQueued h.sound
    exact ⟨k.loseAll, h.dropQueued hq ⟨hrun.nextSeq, hrun.unavailable, hrun.completedSeq⟩⟩

theorem DeltaState.Reachable.shows (h : s.Reachable) : ∃ k, Shows s k := by
  obtain ⟨config, hrun⟩ := h
  induction hrun with
  | refl => exact ⟨_, initial_shows config⟩
  | tail _ hstep ih =>
    obtain ⟨k, hk⟩ := ih
    exact hstep.shows hk

end Run

/-! ## The law -/

/-- The number of an applied transaction. -/
def Call.appliedSeq : Call → Option Nat
  | .apply node => some node.seq
  | .gap _ _ => none

namespace DeltaState

/-- The accepted sequence is cut, in order, into one piece for each callback
invoked, the transactions of the pending gap and the queued ones. The
transaction in flight is the one being applied. -/
structure Partition (s : DeltaState) (pieces : List (List DeltaNode)) (lost : List DeltaNode) :
    Prop where
  calls : List.Forall₂ Covers s.calls pieces
  accepted : s.accepted = pieces.flatten ++ lost ++ s.queue.nodes
  pending : sourceBytes lost = s.queue.pendingGapBytes
  inFlight : s.queue.inFlight.toList = s.worker.applying

/-- The callback that accounts for the transaction has returned well. -/
def Settled (s : DeltaState) (pieces : List (List DeltaNode)) (x : DeltaNode) : Prop :=
  ∃ (m : Nat) (r : Call × Outcome) (piece : List DeltaNode), s.returned[m]? = some r ∧
    pieces[m]? = some piece ∧ x ∈ piece ∧ ReturnedWell r

/-- Order and fence. A `Flush` called in the state `s₁` of the run takes its
target there and returns nil here. -/
structure Law (s : DeltaState) : Prop where
  increasing : (s.calls.filterMap Call.appliedSeq).Pairwise (· < ·)
  resident : s.queue.resident =
    residentBytes s.queue.nodes + residentBytes s.queue.inFlight.toList
  covered : ∃ pieces lost, s.Partition pieces lost ∧
    ∀ s₁ : DeltaState, s₁.Reachable → Relation.ReflTransGen Step s₁ s →
      s.queue.flush s₁.queue.nextSeq = some none → s.queue.closed = false →
      ∀ x ∈ s₁.accepted, s.Settled pieces x

variable {s s' s₁ : DeltaState} {k : Cursor DeltaNode}

theorem Step.accepted_prefix (hstep : Step s s') : s.accepted <+: s'.accepted := by
  cases hstep with
  | enqueue tx n =>
    unfold DeltaState.enqueue
    split
    · exact prefix_rfl
    · exact prefix_append _ _
  | start =>
    unfold DeltaState.start
    split <;> exact prefix_rfl
  | next =>
    unfold DeltaState.next
    rcases s.queue.next with ⟨q, r⟩
    cases r <;> exact prefix_rfl
  | completeNode | completeGap | sealQueue | close => exact prefix_rfl

theorem accepted_prefix_of_run (hrun : Relation.ReflTransGen Step s₁ s) :
    s₁.accepted <+: s.accepted := by
  induction hrun with
  | refl => exact prefix_rfl
  | tail _ hstep ih => exact ih.trans hstep.accepted_prefix

/-- Applied transactions are part of the pieces, in order. -/
theorem appliedSeq_sublist {calls : List Call} {pieces : List (List DeltaNode)}
    (h : List.Forall₂ Covers calls pieces) :
    (calls.filterMap Call.appliedSeq).Sublist (pieces.flatten.map (·.seq)) := by
  induction h with
  | nil => exact .refl _
  | @cons call piece calls pieces hc _ ih =>
    rw [flatten_cons, map_append]
    cases call with
    | apply node =>
      rw [show piece = [node] from hc]
      exact ih.cons_cons _
    | gap bytes through => exact ih.trans (sublist_append_right _ _)

/-- `Flush` returned nil on an open queue: everything before its call has come
back from a callback. -/
theorem settled_of_flush (h : Shows s k) (h₁ : s₁.Reachable)
    (hrun : Relation.ReflTransGen Step s₁ s) (hflush : s.queue.flush s₁.queue.nextSeq = some none)
    (hopen : s.queue.closed = false) {x : DeltaNode} (hx : x ∈ s₁.accepted) :
    s.Settled (k.handed.map Event.items) x := by
  obtain ⟨k₁, hk₁⟩ := h₁.shows
  have hreturn : s.queue.unavailable = none ∧ s₁.queue.nextSeq ≤ s.queue.completedSeq := by
    unfold DeltaQueue.flush at hflush
    split at hflush
    · cases hflush
    next hwait =>
    have hu : s.queue.unavailable = none := Option.some.inj hflush
    refine ⟨hu, Nat.le_of_not_lt fun hlt => hwait ⟨hlt, hu, hopen⟩⟩
  obtain ⟨hu, hle⟩ := hreturn
  -- what has come back is a prefix of the accepted sequence, and the longer one
  set done := (k.handed.take s.returned.length).flatMap Event.items with hdone
  have hpre : done <+: s.accepted := by
    have hsplit : k.handed.flatMap Event.items =
        done ++ (k.handed.drop s.returned.length).flatMap Event.items := by
      rw [← flatMap_append, take_append_drop]
    rw [h.stream, Cursor.stream, hsplit]
    simp
  have hlong : s₁.accepted.length ≤ done.length := by
    rw [hk₁.stream, ← hk₁.nextSeq, ← h.completed hu]
    exact hle
  have hmem : x ∈ done :=
    (prefix_of_prefix_length_le (accepted_prefix_of_run hrun) hpre hlong).subset hx
  obtain ⟨e, he, hxe⟩ := mem_flatMap.1 hmem
  obtain ⟨m, hm⟩ := mem_iff_getElem?.1 he
  obtain ⟨hlt, hm⟩ : m < s.returned.length ∧ k.handed[m]? = some e := by
    rw [List.getElem?_take] at hm
    split at hm
    · next hlt => exact ⟨hlt, hm⟩
    · cases hm
  exact ⟨m, s.returned[m], e.items, List.getElem?_eq_getElem hlt, by simp [hm], hxe,
    h.returned hu _ (getElem_mem hlt)⟩

/-- Order and fence of the history delta queue, in every state of every run. -/
theorem delta_queue_law (h : s.Reachable) : s.Law := by
  obtain ⟨k, hk⟩ := h.shows
  refine ⟨?_, ?_, k.handed.map Event.items, k.lost, ⟨hk.calls, ?_, hk.queue.lostBytes.symm, ?_⟩, ?_⟩
  · refine List.Pairwise.sublist (appliedSeq_sublist hk.calls) ?_
    have hpre : (k.handed.map Event.items).flatten <+: k.stream :=
      ⟨k.lost ++ k.queue, by simp [Cursor.stream, List.flatMap]⟩
    exact (hk.sound.numbered.of_prefix hpre).increasing
  · rw [hk.queue.resident, hk.queue.nodes, hk.queue.inFlight, hk.flight]
    cases s.worker with
    | calling call => cases call <;> rfl
    | _ => rfl
  · rw [hk.stream, hk.queue.nodes]
    simp [Cursor.stream, List.flatMap]
  · rw [hk.queue.inFlight, hk.flight]
    cases s.worker with
    | calling call => cases call <;> rfl
    | _ => rfl
  · intro s₁ h₁ hrun hflush hopen x hx
    exact settled_of_flush hk h₁ hrun hflush hopen hx

/-- Two transactions accepted, the first one applied. -/
theorem delta_queue_law_example :
    ∃ s : DeltaState, s.Reachable ∧ s.queue.completedSeq = 1 ∧ s.accepted.length = 2 ∧
      s.Law := by
  have h₀ : Relation.ReflTransGen Step (initial Output.BufferConfig.default) _ := .refl
  have h₁ := h₀.tail (.enqueue ⟨[]⟩ 3)
  have h₂ := h₁.tail (.enqueue ⟨[]⟩ 5)
  have h₃ := h₂.tail (.start rfl)
  have h₄ := h₃.tail (.next rfl)
  have h₅ := h₄.tail (.completeNode none rfl)
  exact ⟨_, ⟨_, h₅⟩, rfl, rfl, delta_queue_law ⟨_, h₅⟩⟩

/-- `Flush` returns nil on an open queue although the only transaction enqueued
before it was not applied and no gap callback was invoked: `apply` returned an
error that says it was recovered. -/
theorem flush_after_recovered :
    ∃ (s₁ s : DeltaState) (x : DeltaNode), s₁.Reachable ∧ Relation.ReflTransGen Step s₁ s ∧
      s₁.accepted = [x] ∧ s.queue.closed = false ∧ s.queue.flush s₁.queue.nextSeq = some none ∧
      s.worker = .idle ∧ s.returned = [(.apply x, .recovered)] := by
  have h₀ : Relation.ReflTransGen Step (initial Output.BufferConfig.default) _ := .refl
  have h₁ := h₀.tail (.enqueue ⟨[]⟩ 3)
  have h₂ : Relation.ReflTransGen Step ((initial Output.BufferConfig.default).enqueue ⟨[]⟩ 3) _ :=
    .single (.start rfl)
  have h₃ := h₂.tail (.next rfl)
  have h₄ := h₃.tail (.completeNode (some ⟨"isolated", true⟩) rfl)
  exact ⟨_, _, _, ⟨_, h₁⟩, h₄, rfl, rfl, rfl, rfl, rfl⟩

end DeltaState

end Anytty.History
