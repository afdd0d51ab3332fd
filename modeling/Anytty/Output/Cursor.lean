import Anytty.Lossy.Cursor
import Anytty.Output.Buffer

/-!
# The output buffer as a pair of lossy cursors

`Tracks` relates what the buffer holds for one consumer to a `Lossy.Cursor` over
the chunks written. Every region of the buffer then acts on each consumer as one
of the cursor's operations. A drop loses the oldest queued chunks, a refused
payload is skipped, an accepted one is offered, and so on.

Next to that, `Linked` says what holds of the list itself. `Marks` is what a
region does before it reclaims (it clears bits and rewrites consumer states),
and `Region` what it has done after.
-/

namespace Anytty.Output

open List

open Lossy (Cursor)

/-- The bytes of a list of chunks. -/
def bytes (chunks : List Chunk) : List UInt8 := chunks.flatMap Chunk.payload

@[simp] theorem bytes_nil : bytes [] = [] := rfl

@[simp] theorem bytes_cons (x : Chunk) (xs : List Chunk) :
    bytes (x :: xs) = x.payload ++ bytes xs := rfl

@[simp] theorem bytes_append (xs ys : List Chunk) : bytes (xs ++ ys) = bytes xs ++ bytes ys := by
  simp [bytes]

/-- The chunks of the nodes, waited for or not. -/
def chunksOf (nodes : List OutputNode) : List Chunk := nodes.map (·.toChunk)

/-- The chunks one consumer still has to complete. -/
def pendingChunks (c : Consumer) (nodes : List OutputNode) : List Chunk :=
  chunksOf (nodes.filter (·.pending c))

/-- Sequence numbers grow along the list. -/
def SeqSorted (chunks : List Chunk) : Prop := chunks.Pairwise (·.seq < ·.seq)

variable {c : Consumer}

section Nodes

variable {node : OutputNode} {nodes rest : List OutputNode}

@[simp] theorem chunksOf_nil : chunksOf [] = [] := rfl

@[simp] theorem chunksOf_cons : chunksOf (node :: rest) = node.toChunk :: chunksOf rest := rfl

@[simp] theorem chunksOf_append : chunksOf (nodes ++ rest) = chunksOf nodes ++ chunksOf rest := by
  simp [chunksOf]

@[simp] theorem pendingChunks_nil : pendingChunks c [] = [] := rfl

theorem pendingChunks_cons_pos (h : node.pending c = true) :
    pendingChunks c (node :: rest) = node.toChunk :: pendingChunks c rest := by
  simp [pendingChunks, h]

theorem pendingChunks_cons_neg (h : node.pending c = false) :
    pendingChunks c (node :: rest) = pendingChunks c rest := by
  simp [pendingChunks, h]

@[simp] theorem pendingChunks_append :
    pendingChunks c (nodes ++ rest) = pendingChunks c nodes ++ pendingChunks c rest := by
  simp [pendingChunks]

theorem pendingChunks_sublist : (pendingChunks c nodes).Sublist (chunksOf nodes) :=
  (filter_sublist).map _

theorem SeqSorted.pending (h : SeqSorted (chunksOf nodes)) : SeqSorted (pendingChunks c nodes) :=
  List.Pairwise.sublist pendingChunks_sublist h

theorem linkedBytes_eq : linkedBytes nodes = (bytes (chunksOf nodes)).length := by
  simp [linkedBytes, bytes, chunksOf, length_flatMap, Function.comp_def]

theorem nextPendingNode_eq :
    nextPendingNode c nodes = (pendingChunks c nodes).head?.map Chunk.seq := by
  simp [nextPendingNode, pendingChunks, chunksOf, List.head?_filter, Function.comp_def]

@[simp] theorem clear_toChunk : (node.clear c).toChunk = node.toChunk := rfl

@[simp] theorem clear_pending_self : (node.clear c).pending c = false := by
  simp [OutputNode.clear]

theorem clear_pending_ne {d : Consumer} (h : d ≠ c) : (node.clear c).pending d = node.pending d := by
  simp [OutputNode.clear, h]

theorem pendingChunks_cons_clear {d : Consumer} (h : d ≠ c) :
    pendingChunks d (node.clear c :: rest) = pendingChunks d (node :: rest) := by
  simp only [pendingChunks, filter_cons, clear_pending_ne h]
  split <;> simp

theorem nodesBefore_append_nodesFrom (p : Option Nat) :
    nodesBefore nodes p ++ nodesFrom nodes p = nodes := by
  cases p with
  | none => simp [nodesBefore, nodesFrom]
  | some p => exact takeWhile_append_dropWhile

end Nodes

/-! ## Which nodes are in flight -/

/-- The walk meets its target when the target stands no later than the last node. -/
theorem metBy_iff {l t : Nat} {nodes : List OutputNode} (hs : SeqSorted (chunksOf nodes))
    (hl : ∃ n ∈ nodes, n.seq = l) :
    metBy (some l) t nodes = true ↔ (∃ n ∈ nodes, n.seq = t) ∧ t ≤ l := by
  induction nodes with
  | nil => simp at hl
  | cons node rest ih =>
    obtain ⟨hlt, hs⟩ := pairwise_cons.1 hs
    have hbelow : ∀ n ∈ rest, node.seq < n.seq := fun n hn =>
      hlt n.toChunk (mem_map_of_mem hn)
    obtain ⟨n, hn, rfl⟩ := hl
    unfold metBy
    split
    · next h =>
      refine iff_of_true rfl ⟨⟨node, by simp, h⟩, ?_⟩
      rcases mem_cons.1 hn with rfl | hn
      · exact h.ge
      · exact h ▸ (hbelow n hn).le
    · next h =>
      split
      · next h' =>
        refine iff_of_false (by simp) ?_
        rintro ⟨⟨m, hm, rfl⟩, hle⟩
        rcases mem_cons.1 hm with rfl | hm
        · exact h rfl
        · exact absurd (Option.some.inj h' ▸ hbelow m hm) (by omega)
      · next h' =>
        have hn : n ∈ rest := by
          rcases mem_cons.1 hn with rfl | hn
          · exact absurd rfl h'
          · exact hn
        rw [ih hs ⟨n, hn, rfl⟩]
        simp [h]

/-- Walking from a linked node meets the nodes from it on. -/
theorem mem_nodesFrom_iff {p : Nat} {nodes : List OutputNode} {n : OutputNode}
    (hs : SeqSorted (chunksOf nodes)) (hp : ∃ m ∈ nodes, m.seq = p) :
    n ∈ nodesFrom nodes (some p) ↔ n ∈ nodes ∧ p ≤ n.seq := by
  induction nodes with
  | nil => simp at hp
  | cons node rest ih =>
    obtain ⟨hlt, hs⟩ := pairwise_cons.1 hs
    have hbelow : ∀ n ∈ rest, node.seq < n.seq := fun n hn =>
      hlt n.toChunk (mem_map_of_mem hn)
    obtain ⟨m, hm, rfl⟩ := hp
    rcases mem_cons.1 hm with rfl | hm
    · -- the walk starts at the head, which is the smallest
      have hself : nodesFrom (m :: rest) (some m.seq) = m :: rest := by simp [nodesFrom]
      rw [hself, mem_cons]
      constructor
      · rintro (rfl | hn)
        · exact ⟨.inl rfl, le_rfl⟩
        · exact ⟨.inr hn, (hbelow n hn).le⟩
      · exact fun h => h.1
    · have hne : node.seq ≠ m.seq := (hbelow m hm).ne
      have hskip : nodesFrom (node :: rest) (some m.seq) = nodesFrom rest (some m.seq) := by
        simp [nodesFrom, hne]
      rw [hskip, ih hs ⟨m, hm, rfl⟩, mem_cons]
      constructor
      · exact fun h => ⟨.inr h.1, h.2⟩
      · rintro ⟨rfl | hn, hle⟩
        · exact absurd hle (by have := hbelow m ‹_›; omega)
        · exact ⟨hn, hle⟩

theorem SeqSorted.nodesFrom {p : Option Nat} {nodes : List OutputNode}
    (hs : SeqSorted (chunksOf nodes)) : SeqSorted (chunksOf (nodesFrom nodes p)) := by
  cases p with
  | none => exact List.Pairwise.nil
  | some p => exact List.Pairwise.sublist ((dropWhile_sublist _).map _) hs

/-- How the buffer's list and a consumer's state show a cursor. A consumer that
is no longer active queues nothing. The counters are exact as long as the
consumer has not failed. -/
structure Tracks (chunks : List Chunk) (st : ConsumerState) (k : Cursor Chunk) : Prop where
  pending : chunks = k.flight ++ k.queue
  inFlight : st.inFlight = k.flight.head?.map Chunk.seq
  inFlightLast : st.inFlightLast = k.flight.getLast?.map Chunk.seq
  next : k.flight = [] → st.next = k.queue.head?.map Chunk.seq
  inactive : st.active = false → k.queue = []
  lost : st.unavailable = none → st.pendingGapBytes = (bytes k.lost).length
  dropped : st.unavailable = none → st.droppedBytes = (bytes k.allLost).length

section InFlight

variable {nodes : List OutputNode} {st : ConsumerState} {k : Cursor Chunk}

/-- In a sorted list no number is above the last one. -/
theorem SeqSorted.le_getLast {xs : List Chunk} (hs : SeqSorted xs) (hne : xs ≠ []) {x : Chunk}
    (hx : x ∈ xs) : x.seq ≤ (xs.getLast hne).seq := by
  rw [← dropLast_append_getLast hne] at hs hx
  rcases mem_append.1 hx with hx | hx
  · exact ((pairwise_append.1 hs).2.2 x hx _ (by simp)).le
  · rw [mem_singleton.1 hx]

/-- In a sorted list no number is below the first one. -/
theorem SeqSorted.head_le {xs : List Chunk} (hs : SeqSorted xs) (hne : xs ≠ []) {x : Chunk}
    (hx : x ∈ xs) : (xs.head hne).seq ≤ x.seq := by
  cases xs with
  | nil => exact absurd rfl hne
  | cons y ys =>
    rcases mem_cons.1 hx with rfl | hx
    · exact le_rfl
    · exact ((pairwise_cons.1 hs).1 x hx).le

theorem Tracks.sorted (h : Tracks (pendingChunks c nodes) st k) (hs : SeqSorted (chunksOf nodes)) :
    SeqSorted k.flight ∧ ∀ x ∈ k.flight, ∀ y ∈ k.queue, x.seq < y.seq := by
  have hall := hs.pending (c := c)
  rw [h.pending] at hall
  exact ⟨(pairwise_append.1 hall).1, (pairwise_append.1 hall).2.2⟩

section

variable (hs : SeqSorted (chunksOf nodes)) (h : Tracks (pendingChunks c nodes) st k)

include hs h

/-- With a batch in flight, the test for a pending chunk compares its number
with the ends of the batch. -/
theorem outputNodeInFlight_iff (hne : k.flight ≠ []) {x : Chunk}
    (hx : x ∈ pendingChunks c nodes) :
    outputNodeInFlight nodes st x.seq = true ↔
      (k.flight.head hne).seq ≤ x.seq ∧ x.seq ≤ (k.flight.getLast hne).seq := by
  have hlinked : ∀ y ∈ pendingChunks c nodes, ∃ n ∈ nodes, n.toChunk = y := fun y hy =>
    mem_map.1 (pendingChunks_sublist.subset hy)
  have hflight : ∀ y ∈ k.flight, ∃ n ∈ nodes, n.toChunk = y := fun y hy =>
    hlinked y (h.pending ▸ mem_append_left _ hy)
  obtain ⟨n, hn, rfl⟩ := hlinked x hx
  obtain ⟨f, hf, hfeq⟩ := hflight _ (head_mem hne)
  obtain ⟨l, hl, hleq⟩ := hflight _ (getLast_mem hne)
  have hfl : f.seq ≤ l.seq := by
    rw [hfeq, hleq]
    exact (h.sorted hs).1.le_getLast hne (head_mem hne)
  have hfrom : ∀ m : OutputNode, m ∈ nodesFrom nodes (some f.seq) ↔ m ∈ nodes ∧ f.seq ≤ m.seq :=
    fun m => mem_nodesFrom_iff hs ⟨f, hf, rfl⟩
  have hfirst : st.inFlight = some f.seq := by
    rw [h.inFlight, List.head?_eq_some_head hne, hfeq]; rfl
  have hlast : st.inFlightLast = some l.seq := by
    rw [h.inFlightLast, List.getLast?_eq_some_getLast hne, hleq]; rfl
  rw [outputNodeInFlight, hfirst, hlast,
    metBy_iff hs.nodesFrom ⟨l, (hfrom l).2 ⟨hl, hfl⟩, rfl⟩, ← hfeq, ← hleq]
  refine and_congr_left fun _ => ⟨?_, fun hle => ⟨n, (hfrom n).2 ⟨hn, hle⟩, rfl⟩⟩
  rintro ⟨m, hm, hmeq⟩
  exact hmeq ▸ ((hfrom m).1 hm).2

/-- The chunks of the batch are the ones in flight. -/
theorem inFlight_of_flight {x : Chunk} (hx : x ∈ k.flight) :
    outputNodeInFlight nodes st x.seq = true := by
  have hne : k.flight ≠ [] := ne_nil_of_mem hx
  have hsf := (h.sorted hs).1
  rw [outputNodeInFlight_iff hs h hne (h.pending ▸ mem_append_left _ hx)]
  exact ⟨hsf.head_le hne hx, hsf.le_getLast hne hx⟩

theorem not_inFlight_of_queue {x : Chunk} (hx : x ∈ k.queue) :
    outputNodeInFlight nodes st x.seq = false := by
  rcases eq_or_ne k.flight [] with hf | hne
  · have : st.inFlight = none := by rw [h.inFlight, hf]; rfl
    simp [outputNodeInFlight, this, nodesFrom, metBy]
  have hbehind := (h.sorted hs).2 _ (getLast_mem hne) x hx
  rw [← Bool.not_eq_true,
    outputNodeInFlight_iff hs h hne (h.pending ▸ mem_append_right _ hx)]
  exact fun hle => absurd hle.2 (by omega)

end

end InFlight

/-! ## Turning queued chunks into a gap -/

/-- `st'` is `st` after `n` more bytes became a gap. -/
def Gapped (st st' : ConsumerState) (n : Nat) : Prop :=
  st' = { st with
    next := st'.next, gapCount := st'.gapCount, pendingGapSeq := st'.pendingGapSeq
    pendingGapBytes := st.pendingGapBytes + n, droppedBytes := st.droppedBytes + n }

section Gapped

variable {st st₁ st₂ : ConsumerState} {m n : Nat} {chunks : List Chunk} {k : Cursor Chunk}
  {x : Chunk}

theorem Gapped.refl (st : ConsumerState) : Gapped st st 0 := rfl

theorem Gapped.trans (h₁ : Gapped st st₁ m) (h₂ : Gapped st₁ st₂ n) : Gapped st st₂ (m + n) := by
  unfold Gapped at *
  rw [h₂, h₁]
  simp [Nat.add_assoc]

theorem gapped_addGap (st : ConsumerState) (seq n : Nat) : Gapped st (addGap st seq n) n := by
  unfold addGap
  split
  · next h => exact h ▸ rfl
  · rfl

theorem Gapped.setNext (h : Gapped st st₁ n) (next : Option Nat) :
    Gapped st { st₁ with next := next } n := by
  unfold Gapped at *
  rw [h]

theorem Gapped.inFlight_eq (h : Gapped st st₁ n) (nodes : List OutputNode) (t : Nat) :
    outputNodeInFlight nodes st₁ t = outputNodeInFlight nodes st t := by
  rw [h]; rfl

@[simp] theorem addGap_next (st : ConsumerState) (seq n : Nat) :
    (addGap st seq n).next = st.next := by
  unfold addGap
  split <;> rfl

/-- A consumer that loses the oldest queued chunks. -/
theorem Tracks.lose {chunks' : List Chunk} (h : Tracks chunks st k)
    (hg : Gapped st st₁ (bytes (k.queue.take n)).length)
    (hchunks : chunks' = k.flight ++ k.queue.drop n)
    (hnext : k.flight = [] → st₁.next = (k.queue.drop n).head?.map Chunk.seq) :
    Tracks chunks' st₁ (k.lose n) where
  pending := hchunks
  inFlight := by rw [hg]; exact h.inFlight
  inFlightLast := by rw [hg]; exact h.inFlightLast
  next := hnext
  inactive := by
    intro hi
    rw [hg] at hi
    simp [Cursor.lose, h.inactive hi]
  lost := by
    intro hu
    rw [hg] at hu ⊢
    simp [Cursor.lose, h.lost hu]
  dropped := by
    intro hu
    rw [hg] at hu ⊢
    simp [h.dropped hu]

/-- A consumer that loses its whole queue. -/
theorem Tracks.loseAll (h : Tracks chunks st k) (hg : Gapped st st₁ (bytes k.queue).length)
    (hnext : k.flight = [] → st₁.next = none) :
    Tracks k.flight st₁ k.loseAll :=
  h.lose (by rwa [take_length]) (by simp) (by simpa using hnext)

/-- A consumer that, behind a lost queue, loses one more chunk. -/
theorem Tracks.skip (h : Tracks chunks st k.loseAll) (hg : Gapped st st₁ x.payload.length)
    (hnext : st₁.next = st.next) : Tracks chunks st₁ (k.skip x) where
  pending := by simpa [Cursor.loseAll, Cursor.lose, Cursor.skip] using h.pending
  inFlight := by rw [hg]; exact h.inFlight
  inFlightLast := by rw [hg]; exact h.inFlightLast
  next := by
    intro hf
    rw [hnext, h.next hf]
    simp [Cursor.skip]
  inactive _ := rfl
  lost := by
    intro hu
    rw [hg] at hu ⊢
    simp [Cursor.skip_lost, h.lost hu]
  dropped := by
    intro hu
    rw [hg] at hu ⊢
    simp [h.dropped hu, Cursor.loseAll, Nat.add_assoc]

/-- An active consumer that is offered a chunk behind its queue. -/
theorem Tracks.offer (h : Tracks chunks st k) (x : Chunk) (ha : st.active = true) :
    Tracks (chunks ++ [x]) (st.pointAt x.seq) (k.offer x) := by
  have hsame : st.pointAt x.seq = { st with next := (st.pointAt x.seq).next } := by
    unfold ConsumerState.pointAt
    split <;> rfl
  refine ⟨by simp [Cursor.offer, h.pending], by rw [hsame]; exact h.inFlight,
    by rw [hsame]; exact h.inFlightLast, fun hf => ?_, ?_, by rw [hsame]; exact h.lost,
    by rw [hsame]; exact h.dropped⟩
  · have hflight : st.inFlight = none := by rw [h.inFlight, show k.flight = [] from hf]; rfl
    have hnext := h.next hf
    cases hq : k.queue with
    | nil =>
      rw [hq] at hnext
      simp [ConsumerState.pointAt, hflight, show st.next = none from hnext, Cursor.offer, hq]
    | cons y q =>
      simp [ConsumerState.pointAt, hnext, Cursor.offer, hq]
  · rw [hsame]
    exact fun hi => absurd (ha.symm.trans hi) (by decide)

end Gapped

section DropOldest

open OutputBuffer

variable {nodes rest : List OutputNode} {states : Consumer → ConsumerState}
  {required potential : Int}

theorem dropOldestLoop_chunks :
    chunksOf (dropOldestLoop nodes required potential rest states).1 = chunksOf rest := by
  induction rest generalizing potential states with
  | nil => rfl
  | cons node rest ih =>
    unfold dropOldestLoop
    split
    · simp [ih]
    · rfl

/-- `dropOldestLocked` takes chunks from the front of the queue, never from the
batch in flight. The induction follows the loop: `fl` and `q` are the parts of
the batch and of the queue that the loop has not reached yet. -/
theorem dropOldestLoop_pending {fl q : List Chunk} (hp : pendingChunks c rest = fl ++ q)
    (hfl : ∀ x ∈ fl, outputNodeInFlight nodes (states c) x.seq = true)
    (hq : ∀ x ∈ q, outputNodeInFlight nodes (states c) x.seq = false)
    (hnext : (states c).inFlight = none → (states c).next = q.head?.map Chunk.seq) :
    ∃ n, let r := dropOldestLoop nodes required potential rest states
      pendingChunks c r.1 = fl ++ q.drop n ∧
      Gapped (states c) (r.2 c) (bytes (q.take n)).length ∧
      ((states c).inFlight = none → (r.2 c).next = (q.drop n).head?.map Chunk.seq) := by
  induction rest generalizing potential states fl q with
  | nil =>
    refine ⟨0, by simpa [dropOldestLoop] using hp, .refl _, ?_⟩
    simpa [dropOldestLoop] using hnext
  | cons node rest ih =>
    unfold dropOldestLoop
    split
    · set states' := fun d => (dropNodeFor nodes node rest d (states d)).2 with hstates'
      cases hnode : node.pending c with
      | false =>
        -- nobody waits for the node on this side
        have hstep : dropNodeFor nodes node rest c (states c) = (false, states c) := by
          simp [dropNodeFor, hnode]
        have hsame : states' c = states c := by rw [hstates']; simp [hstep]
        rw [pendingChunks_cons_neg hnode] at hp
        obtain ⟨n, h₁, h₂, h₃⟩ := @ih states' _ fl q hp (hsame ▸ hfl) (hsame ▸ hq) (hsame ▸ hnext)
        refine ⟨n, ?_, hsame ▸ h₂, hsame ▸ h₃⟩
        rw [pendingChunks_cons_neg (by simp [hstep])]
        exact h₁
      | true =>
        rw [pendingChunks_cons_pos hnode] at hp
        cases fl with
        | cons x fl =>
          -- the node belongs to the batch in flight and stays
          obtain ⟨rfl, hp'⟩ := List.cons.inj hp
          have hstep : dropNodeFor nodes node rest c (states c) = (true, states c) := by
            simp [dropNodeFor, hnode, hfl _ mem_cons_self]
          have hsame : states' c = states c := by rw [hstates']; simp [hstep]
          obtain ⟨n, h₁, h₂, h₃⟩ := @ih states' _ fl q hp'
            (hsame ▸ fun y hy => hfl y (mem_cons_of_mem _ hy)) (hsame ▸ hq) (hsame ▸ hnext)
          refine ⟨n, ?_, hsame ▸ h₂, hsame ▸ h₃⟩
          rw [pendingChunks_cons_pos (by simp [hstep])]
          exact congrArg _ h₁
        | nil =>
          -- the node is the oldest in the queue and is dropped
          cases q with
          | nil => cases hp
          | cons x q =>
            obtain ⟨rfl, hp'⟩ := List.cons.inj hp
            have hfree := hq _ mem_cons_self
            have hbit : (dropNodeFor nodes node rest c (states c)).1 = false := by
              simp [dropNodeFor, hnode, hfree]
            have hgap : Gapped (states c) (states' c) node.payload.length := by
              rw [hstates']
              simp only [dropNodeFor, hnode, hfree, Bool.not_true, Bool.or_self,
                Bool.false_eq_true, if_false]
              split
              · exact (gapped_addGap _ _ _).setNext _
              · exact gapped_addGap _ _ _
            have hnext' : (states' c).inFlight = none →
                (states' c).next = q.head?.map Chunk.seq := by
              intro hidle
              rw [hgap] at hidle
              rw [hstates']
              simp [dropNodeFor, hnode, hfree, hnext hidle, nextPendingNode_eq, hp']
            obtain ⟨n, h₁, h₂, h₃⟩ := @ih states' _ [] q hp' (by simp)
              (fun y hy => by rw [hgap.inFlight_eq]; exact hq y (mem_cons_of_mem _ hy)) hnext'
            refine ⟨n + 1, ?_, by simpa using hgap.trans h₂, fun hidle => ?_⟩
            · rw [pendingChunks_cons_neg hbit]
              exact h₁
            · exact h₃ (by rw [hgap]; exact hidle)
    · exact ⟨0, by simpa using hp, .refl _, by simpa using hnext⟩

end DropOldest

/-! ## Loops that clear one consumer's bits -/

/-- `nodes'` is `nodes` with some of the consumer's bits cleared. -/
def ClearedFor (c : Consumer) : List OutputNode → List OutputNode → Prop :=
  List.Forall₂ fun node node' => node' = node ∨ node' = node.clear c

section Cleared

open OutputBuffer

variable {d : Consumer} {nodes nodes' rest : List OutputNode} {st : ConsumerState}

theorem ClearedFor.refl (c : Consumer) (nodes : List OutputNode) : ClearedFor c nodes nodes := by
  induction nodes with
  | nil => exact .nil
  | cons node rest ih => exact .cons (.inl rfl) ih

theorem ClearedFor.append {rest' : List OutputNode} (h₁ : ClearedFor c nodes nodes')
    (h₂ : ClearedFor c rest rest') : ClearedFor c (nodes ++ rest) (nodes' ++ rest') :=
  rel_append h₁ h₂

theorem ClearedFor.chunks (h : ClearedFor c nodes nodes') : chunksOf nodes' = chunksOf nodes := by
  induction h with
  | nil => rfl
  | cons h _ ih => rcases h with rfl | rfl <;> simp [ih]

theorem ClearedFor.other (h : ClearedFor c nodes nodes') (hd : d ≠ c) :
    pendingChunks d nodes' = pendingChunks d nodes := by
  induction h with
  | nil => rfl
  | cons h _ ih =>
    rcases h with rfl | rfl
    · simp only [pendingChunks, filter_cons] at ih ⊢
      split <;> simp [ih]
    · rw [pendingChunks_cons_clear hd]
      simp only [pendingChunks, filter_cons] at ih ⊢
      split <;> simp [ih]

theorem dropQueuedLoop_cleared : ClearedFor c rest (dropQueuedLoop nodes c rest st).1 := by
  induction rest generalizing st with
  | nil => exact .nil
  | cons node rest ih =>
    unfold dropQueuedLoop
    split
    · exact .cons (.inl rfl) ih
    · exact .cons (.inr rfl) ih

variable {fl q : List Chunk} {last completed : Nat}

/-- The loop drops the whole queue and leaves the batch in flight. -/
theorem dropQueuedLoop_pending (hp : pendingChunks c rest = fl ++ q)
    (hfl : ∀ x ∈ fl, outputNodeInFlight nodes st x.seq = true)
    (hq : ∀ x ∈ q, outputNodeInFlight nodes st x.seq = false) :
    let r := dropQueuedLoop nodes c rest st
    pendingChunks c r.1 = fl ∧ Gapped st r.2 (bytes q).length ∧ r.2.next = st.next := by
  induction rest generalizing st fl q with
  | nil =>
    obtain ⟨rfl, rfl⟩ := append_eq_nil_iff.1 hp.symm
    exact ⟨rfl, .refl _, rfl⟩
  | cons node rest ih =>
    cases hnode : node.pending c with
    | false =>
      rw [pendingChunks_cons_neg hnode] at hp
      simp only [dropQueuedLoop, hnode, Bool.not_false, Bool.or_true, if_true]
      rw [pendingChunks_cons_neg hnode]
      exact ih hp hfl hq
    | true =>
      rw [pendingChunks_cons_pos hnode] at hp
      cases fl with
      | cons x fl =>
        obtain ⟨rfl, hp'⟩ := List.cons.inj hp
        simp only [dropQueuedLoop, hfl _ mem_cons_self, Bool.true_or, if_true]
        rw [pendingChunks_cons_pos hnode]
        obtain ⟨h₁, h₂⟩ := ih hp' (fun y hy => hfl y (mem_cons_of_mem _ hy)) hq
        exact ⟨congrArg _ h₁, h₂⟩
      | nil =>
        cases q with
        | nil => cases hp
        | cons x q =>
          obtain ⟨rfl, hp'⟩ := List.cons.inj hp
          have hgap := gapped_addGap st node.seq node.payload.length
          simp only [dropQueuedLoop, hnode, hq _ mem_cons_self, Bool.not_true, Bool.or_self,
            Bool.false_eq_true, if_false]
          rw [pendingChunks_cons_neg clear_pending_self]
          obtain ⟨h₁, h₂, h₃⟩ := @ih (addGap st node.seq node.payload.length) [] q hp' (by simp)
            (fun y hy => by rw [hgap.inFlight_eq]; exact hq y (mem_cons_of_mem _ hy))
          exact ⟨h₁, by simpa using hgap.trans h₂, by rw [h₃, addGap_next]⟩

theorem releaseLoop_cleared : ClearedFor c rest (releaseLoop c rest).1 := by
  induction rest with
  | nil => exact .nil
  | cons node rest ih =>
    unfold releaseLoop
    split
    · exact .cons (.inr rfl) ih
    · exact .cons (.inl rfl) ih

theorem releaseLoop_pending : pendingChunks c (releaseLoop c rest).1 = [] := by
  induction rest with
  | nil => rfl
  | cons node rest ih =>
    unfold releaseLoop
    split
    · rw [pendingChunks_cons_neg clear_pending_self, ih]
    · next h => rw [pendingChunks_cons_neg (by simpa using h), ih]

theorem completeLoop_cleared : ClearedFor c rest (completeLoop c last completed rest).1 := by
  induction rest generalizing completed with
  | nil => exact .nil
  | cons node rest ih =>
    unfold completeLoop
    dsimp only
    split
    · split
      · exact .cons (.inr rfl) (ClearedFor.refl _ _)
      · exact .cons (.inr rfl) ih
    · exact .cons (.inl rfl) ih

/-- Completing clears the batch and stops at its last node. -/
theorem completeLoop_pending
    (hp : pendingChunks c rest = fl ++ q) (hs : SeqSorted (pendingChunks c rest))
    (hlast : fl.getLast?.map Chunk.seq = some last) :
    pendingChunks c (completeLoop c last completed rest).1 = q := by
  induction rest generalizing fl completed with
  | nil =>
    obtain ⟨rfl, -⟩ := append_eq_nil_iff.1 hp.symm
    cases hlast
  | cons node rest ih =>
    unfold completeLoop
    dsimp only
    split
    · next hnode =>
      rw [pendingChunks_cons_pos hnode] at hp hs
      obtain ⟨hlt, hs⟩ := pairwise_cons.1 hs
      cases fl with
      | nil => cases hlast
      | cons x fl =>
        obtain ⟨rfl, hp'⟩ := List.cons.inj hp
        split
        · next heq =>
          rw [pendingChunks_cons_neg clear_pending_self, hp']
          cases fl with
          | nil => rfl
          | cons y fl =>
            -- the last number is above this node's, which is not the last
            obtain ⟨z, hz, hzeq⟩ := Option.map_eq_some_iff.1 hlast
            have hmem : z ∈ pendingChunks c rest := by
              rw [hp'] at *
              exact mem_append_left _ (mem_of_getLast? hz)
            exact absurd (hlt z hmem) (by rw [hzeq]; exact fun h => absurd heq h.ne)
        · next hne =>
          rw [pendingChunks_cons_neg clear_pending_self]
          refine ih hp' hs ?_
          cases fl with
          | nil => exact absurd (Option.some.inj hlast) hne
          | cons y fl => rw [← hlast, List.getLast?_cons_cons]
    · next hnode =>
      rw [pendingChunks_cons_neg (by simpa using hnode)] at hp hs ⊢
      exact ih hp hs hlast

end Cleared

/-! ## Walking from a pointer -/

section Walk

open OutputBuffer

variable {nodes : List OutputNode}

/-- A pointer to the oldest pending chunk: nothing is pending before it. -/
theorem nodesFrom_first {x : Chunk} {xs : List Chunk} (hs : SeqSorted (chunksOf nodes))
    (hp : pendingChunks c nodes = x :: xs) :
    ∃ n rest, nodesFrom nodes (some x.seq) = n :: rest ∧ n.toChunk = x ∧ n.pending c = true ∧
      pendingChunks c rest = xs ∧ pendingChunks c (nodesBefore nodes (some x.seq)) = [] := by
  induction nodes with
  | nil => cases hp
  | cons node rest ih =>
    obtain ⟨hlt, hs⟩ := pairwise_cons.1 hs
    cases hnode : node.pending c with
    | true =>
      rw [pendingChunks_cons_pos hnode] at hp
      obtain ⟨rfl, rfl⟩ := List.cons.inj hp
      exact ⟨node, rest, by simp [nodesFrom], rfl, hnode, rfl, by simp [nodesBefore]⟩
    | false =>
      rw [pendingChunks_cons_neg hnode] at hp
      have hmem : x ∈ chunksOf rest := pendingChunks_sublist.subset (hp ▸ mem_cons_self)
      have hne : node.seq ≠ x.seq := (hlt x hmem).ne
      obtain ⟨n, rest', h₁, h₂, h₃, h₄, h₅⟩ := ih hs hp
      refine ⟨n, rest', ?_, h₂, h₃, h₄, ?_⟩
      · rw [← h₁]
        simp [nodesFrom, hne]
      · simp only [nodesBefore, takeWhile_cons, bne_iff_ne, ne_eq, hne, not_false_eq_true,
          if_true]
        rw [pendingChunks_cons_neg hnode]
        exact h₅

/-- A pointer below every pending chunk: all of them stand behind it. -/
theorem pendingChunks_after {p : Nat} (hs : SeqSorted (chunksOf nodes))
    (hp : ∃ n ∈ nodes, n.seq = p) (hbehind : ∀ x ∈ pendingChunks c nodes, p < x.seq) :
    pendingChunks c (nodesFrom nodes (some p)).tail = pendingChunks c nodes := by
  induction nodes with
  | nil => rfl
  | cons node rest ih =>
    obtain ⟨hlt, hs⟩ := pairwise_cons.1 hs
    obtain ⟨m, hm, rfl⟩ := hp
    have hnode : node.pending c = false := by
      rw [← Bool.not_eq_true]
      intro hnode
      rw [pendingChunks_cons_pos hnode] at hbehind
      have hself : m.seq < node.seq := hbehind _ mem_cons_self
      rcases mem_cons.1 hm with rfl | hm
      · exact lt_irrefl _ hself
      · exact lt_asymm hself (hlt m.toChunk (mem_map_of_mem hm))
    rw [pendingChunks_cons_neg hnode] at hbehind ⊢
    rcases mem_cons.1 hm with rfl | hm
    · simp [nodesFrom]
    have hne : node.seq ≠ m.seq := (hlt m.toChunk (mem_map_of_mem hm)).ne
    rw [← ih hs ⟨m, hm, rfl⟩ hbehind]
    simp [nodesFrom, hne]

/-- The nodes gathered into a batch are the oldest of the pending ones. -/
theorem gather_chunks (c : Consumer) (total : Nat) (rest : List OutputNode) :
    ∃ n, chunksOf (gather c total rest) = (pendingChunks c rest).take n := by
  induction rest generalizing total with
  | nil => exact ⟨0, rfl⟩
  | cons node rest ih =>
    unfold gather
    split
    · next hnode =>
      rw [pendingChunks_cons_pos hnode]
      split
      · obtain ⟨n, hn⟩ := ih (total + node.payload.length)
        exact ⟨n + 1, by simp [hn]⟩
      · exact ⟨0, rfl⟩
    · next hnode =>
      rw [pendingChunks_cons_neg (by simpa using hnode)]
      exact ih total

end Walk

end Anytty.Output
