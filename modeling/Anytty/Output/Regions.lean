import Anytty.Output.Cursor

/-!
# What each region of the output buffer does

One theorem per region and side. `Region` is the side of the list: the region
keeps it sorted and counted, and says how many bytes were freed. `Holds` is the
side of one consumer: its cursor moves by one cursor operation, and the other
consumer's cursor does not move unless the region is about both.
-/

namespace Anytty.Output

open List

open Lossy (Cursor)
open Function

namespace OutputBuffer

/-- The buffer shows the cursor `k` to consumer `c`. -/
def Holds (b : OutputBuffer) (c : Consumer) (k : Cursor Chunk) : Prop :=
  Tracks (pendingChunks c b.nodes) (b.consumers c) k

/-- What holds of the list between regions. -/
structure Linked (b : OutputBuffer) : Prop where
  sorted : SeqSorted (chunksOf b.nodes)
  numbered : ∀ x ∈ chunksOf b.nodes, x.seq ≤ b.nextSeq
  waited : ∀ n ∈ b.nodes, n.hasPending = true
  resident : b.resident = linkedBytes b.nodes

/-- A consumer's flags stay, or it has failed for good. -/
def SameFlags (st st' : ConsumerState) : Prop :=
  (st'.active = st.active ∧ st'.unavailable = st.unavailable) ∨
    (st'.active = false ∧ st'.unavailable ≠ none)

/-- What a region may do to the list before it reclaims. -/
structure Marks (b b' : OutputBuffer) : Prop where
  chunks : chunksOf b'.nodes = chunksOf b.nodes
  resident : b'.resident = b.resident
  nextSeq : b.nextSeq ≤ b'.nextSeq
  config : b'.config = b.config

/-- The same for a region that ends nothing but a failed consumer. -/
structure Keeps (b b' : OutputBuffer) : Prop extends Marks b b' where
  closed : b'.closed = b.closed
  flags : ∀ c, SameFlags (b.consumers c) (b'.consumers c)

/-- What a region that links no node has done, with `freed` bytes unlinked. -/
structure Region (b b' : OutputBuffer) (freed : Int) : Prop where
  linked : b'.Linked
  sublist : (chunksOf b'.nodes).Sublist (chunksOf b.nodes)
  resident : b'.resident = b.resident - freed
  freed_nonneg : 0 ≤ freed
  config : b'.config = b.config

/-- The same for a region that ends nothing but a failed consumer. -/
structure Quiet (b b' : OutputBuffer) (freed : Int) : Prop extends Region b b' freed where
  closed : b'.closed = b.closed
  flags : ∀ c, SameFlags (b.consumers c) (b'.consumers c)

/-- The same for a region that leaves the other consumer alone. -/
structure Own (c : Consumer) (b b' : OutputBuffer) : Prop extends Keeps b b' where
  pending : ∀ d, d ≠ c → pendingChunks d b'.nodes = pendingChunks d b.nodes
  state : ∀ d, d ≠ c → b'.consumers d = b.consumers d

variable {b : OutputBuffer} {c d : Consumer} {k : Cursor Chunk}

section Keeps

variable {b₁ b₂ : OutputBuffer}

theorem SameFlags.refl (st : ConsumerState) : SameFlags st st := .inl ⟨rfl, rfl⟩

variable {st : ConsumerState}

theorem SameFlags.trans {st₁ st₂ : ConsumerState} (h₁ : SameFlags st st₁) (h₂ : SameFlags st₁ st₂) :
    SameFlags st st₂ := by
  rcases h₂ with ⟨ha, hu⟩ | h₂
  · rcases h₁ with ⟨ha', hu'⟩ | ⟨ha', hu'⟩
    · exact .inl ⟨ha.trans ha', hu.trans hu'⟩
    · exact .inr ⟨ha.trans ha', hu ▸ hu'⟩
  · exact .inr h₂

variable {st' : ConsumerState}

theorem SameFlags.of_none (h : SameFlags st st') (hu : st'.unavailable = none) :
    st.unavailable = none ∧ st'.active = st.active := by
  rcases h with ⟨ha, hsame⟩ | ⟨-, hfail⟩
  · exact ⟨hsame ▸ hu, ha⟩
  · exact absurd hu hfail

theorem SameFlags.of_gapped {n : Nat} (h : Gapped st st' n) : SameFlags st st' := by
  rw [h]
  exact .inl ⟨rfl, rfl⟩

theorem Marks.trans (h₁ : Marks b b₁) (h₂ : Marks b₁ b₂) : Marks b b₂ where
  chunks := h₂.chunks.trans h₁.chunks
  resident := h₂.resident.trans h₁.resident
  nextSeq := h₁.nextSeq.trans h₂.nextSeq
  config := h₂.config.trans h₁.config

theorem Keeps.refl (b : OutputBuffer) : Keeps b b :=
  ⟨⟨rfl, rfl, le_rfl, rfl⟩, rfl, fun _ => .refl _⟩

theorem Keeps.trans (h₁ : Keeps b b₁) (h₂ : Keeps b₁ b₂) : Keeps b b₂ where
  toMarks := h₁.toMarks.trans h₂.toMarks
  closed := h₂.closed.trans h₁.closed
  flags c := (h₁.flags c).trans (h₂.flags c)

/-- Flags agree when one consumer's state is replaced by one with the same flags. -/
theorem sameFlags_update {states : Consumer → ConsumerState} (h : SameFlags (states c) st)
    (d : Consumer) :
    SameFlags (states d) (update states c st d) := by
  rcases eq_or_ne d c with rfl | hd
  · rw [update_self]
    exact h
  · rw [update_of_ne hd]
    exact .refl _

theorem Own.trans (h₁ : Own c b b₁) (h₂ : Own c b₁ b₂) : Own c b b₂ where
  toKeeps := h₁.toKeeps.trans h₂.toKeeps
  pending d hd := (h₂.pending d hd).trans (h₁.pending d hd)
  state d hd := (h₂.state d hd).trans (h₁.state d hd)

theorem Own.holds (h : Own c b b₁) (hd : d ≠ c) : b₁.Holds d k ↔ b.Holds d k := by
  unfold Holds
  rw [h.pending d hd, h.state d hd]

/-- Bits of one consumer are cleared and its state is replaced. -/
theorem own_cleared {nodes : List OutputNode} (hn : ClearedFor c b.nodes nodes)
    (h : SameFlags (b.consumers c) st) :
    Own c b { b with nodes := nodes, consumers := update b.consumers c st } where
  toKeeps := { Keeps.refl b with chunks := hn.chunks, flags := sameFlags_update h }
  pending _ hd := hn.other hd
  state _ hd := update_of_ne hd _ _

theorem own_setConsumer (h : SameFlags (b.consumers c) st) : Own c b (b.setConsumer c st) :=
  own_cleared (.refl _ _) h

theorem Linked.setConsumer (hb : b.Linked) (c : Consumer) (st : ConsumerState) :
    (b.setConsumer c st).Linked := { hb with }

theorem linkedBytes_filter (p : OutputNode → Bool) (nodes : List OutputNode) :
    linkedBytes (nodes.filter p) + linkedBytes (nodes.filter (!p ·)) = linkedBytes nodes := by
  induction nodes with
  | nil => rfl
  | cons node rest ih =>
    simp only [linkedBytes, filter_cons] at ih ⊢
    cases p node <;> simp <;> omega

/-- Reclaiming after a region's keeps: the nodes nobody waits for are gone, and
the counter follows. -/
theorem Marks.reclaim (hb : b.Linked) (h : Marks b b₁) : Region b b₁.reclaim.1 b₁.reclaim.2 := by
  have hsub : (chunksOf b₁.reclaim.1.nodes).Sublist (chunksOf b.nodes) :=
    h.chunks ▸ (filter_sublist.map _)
  refine ⟨?_, hsub, by simp [OutputBuffer.reclaim, h.resident], by simp [OutputBuffer.reclaim],
    h.config⟩
  · refine ⟨hb.sorted.sublist hsub, fun x hx => ?_, ?_, ?_⟩
    · exact (hb.numbered x (hsub.subset hx)).trans h.nextSeq
    · intro n hn
      exact (mem_filter.1 hn).2
    · have hsum := linkedBytes_filter (·.hasPending) b₁.nodes
      have heq : linkedBytes b₁.nodes = linkedBytes b.nodes := by
        rw [linkedBytes_eq, linkedBytes_eq, h.chunks]
      simp only [OutputBuffer.reclaim, h.resident, hb.resident]
      omega

theorem Keeps.reclaim (hb : b.Linked) (h : Keeps b b₁) : Quiet b b₁.reclaim.1 b₁.reclaim.2 :=
  { h.toMarks.reclaim hb with closed := h.closed, flags := h.flags }

theorem Quiet.refl (hb : b.Linked) : Quiet b b 0 :=
  ⟨⟨hb, .refl _, by simp, le_rfl, rfl⟩, rfl, fun _ => .refl _⟩

theorem pendingChunks_reclaim (b : OutputBuffer) (c : Consumer) :
    pendingChunks c b.reclaim.1.nodes = pendingChunks c b.nodes := by
  have hwaits : ∀ n : OutputNode, n.pending c = true → n.hasPending = true := by
    intro n hn
    cases c <;> simp [OutputNode.hasPending, hn]
  simp only [pendingChunks, OutputBuffer.reclaim, filter_filter]
  congr 1
  refine filter_congr fun n _ => ?_
  cases hn : n.pending c with
  | false => simp
  | true => simp [hwaits n hn]

theorem holds_reclaim : b.reclaim.1.Holds c k ↔ b.Holds c k := by
  unfold Holds
  rw [pendingChunks_reclaim]
  rfl

theorem Own.reclaim (hb : b.Linked) (h : Own c b b₁) :
    Quiet b b₁.reclaim.1 b₁.reclaim.2 ∧
      ∀ d k, d ≠ c → (b₁.reclaim.1.Holds d k ↔ b.Holds d k) :=
  ⟨h.toKeeps.reclaim hb, fun _ _ hd => holds_reclaim.trans (h.holds hd)⟩

theorem holds_setConsumer_ne (hd : d ≠ c) : (b.setConsumer c st).Holds d k ↔ b.Holds d k := by
  unfold Holds
  rw [setConsumer_consumers, update_of_ne hd]
  rfl

end Keeps

/-! ## Drops -/

theorem dropOldestLoop_flags (nodes : List OutputNode) (required potential : Int)
    (rest : List OutputNode) (states : Consumer → ConsumerState) (c : Consumer) :
    SameFlags (states c) ((dropOldestLoop nodes required potential rest states).2 c) := by
  induction rest generalizing potential states with
  | nil => exact .refl _
  | cons node rest ih =>
    unfold dropOldestLoop
    split
    · refine SameFlags.trans ?_ (ih _ _)
      unfold dropNodeFor
      split
      · exact .refl _
      dsimp only
      split
      · exact .of_gapped ((gapped_addGap _ _ _).setNext _)
      · exact .of_gapped (gapped_addGap _ _ _)
    · exact .refl _

/-- `dropOldestLocked` on the list. -/
theorem dropOldest_quiet (hb : b.Linked) (required : Int) :
    Quiet b (b.dropOldest required).1 (b.dropOldest required).2 := by
  unfold dropOldest
  split
  · exact .refl hb
  have hkeeps : Keeps b
      { b with
        nodes := (dropOldestLoop b.nodes required 0 b.nodes b.consumers).1
        consumers := (dropOldestLoop b.nodes required 0 b.nodes b.consumers).2 } :=
    { Keeps.refl b with
      chunks := dropOldestLoop_chunks
      flags := dropOldestLoop_flags _ _ _ _ _ }
  have h := hkeeps.reclaim hb
  exact { h with resident := by simp, freed_nonneg := by simpa [h.resident] using h.freed_nonneg }

/-- `dropOldestLocked` for one consumer: it loses some of the oldest chunks of
its queue. -/
theorem dropOldest_holds (hb : b.Linked) (h : b.Holds c k) (required : Int) :
    ∃ n, (b.dropOldest required).1.Holds c (k.lose n) := by
  unfold dropOldest
  split
  · exact ⟨0, by simpa using h⟩
  obtain ⟨n, hp, hg, hn⟩ := @dropOldestLoop_pending c b.nodes b.nodes b.consumers required 0
    k.flight k.queue h.pending (fun x hx => inFlight_of_flight hb.sorted h hx)
    (fun x hx => not_inFlight_of_queue hb.sorted h hx)
    (fun hidle => h.next (by
      rw [h.inFlight] at hidle
      simpa using hidle))
  refine ⟨n, holds_reclaim.2 (Tracks.lose h hg hp fun hf => hn ?_)⟩
  rw [h.inFlight, hf]
  rfl

/-- Everything queued for the consumer becomes a gap; what is in flight stays. -/
theorem dropQueued_self (hs : SeqSorted (chunksOf b.nodes)) (h : b.Holds c k) :
    pendingChunks c (b.dropQueued c).nodes = k.flight ∧
      Gapped (b.consumers c) ((b.dropQueued c).consumers c) (bytes k.queue).length := by
  obtain ⟨hp, hg, -⟩ := dropQueuedLoop_pending h.pending
    (fun x hx => inFlight_of_flight hs h hx) (fun x hx => not_inFlight_of_queue hs h hx)
  refine ⟨hp, ?_⟩
  simpa only [dropQueued, update_self] using hg

theorem dropQueuedLoop_flags (nodes rest : List OutputNode) (c : Consumer) (st : ConsumerState) :
    SameFlags st (dropQueuedLoop nodes c rest st).2 := by
  induction rest generalizing st with
  | nil => exact .refl _
  | cons node rest ih =>
    unfold dropQueuedLoop
    split
    · exact ih st
    · exact (SameFlags.of_gapped (gapped_addGap _ _ _)).trans (ih _)

theorem dropQueued_own (b : OutputBuffer) (c : Consumer) : Own c b (b.dropQueued c) :=
  own_cleared dropQueuedLoop_cleared (dropQueuedLoop_flags _ _ _ _)

theorem dropQueued_clearNext_own (b : OutputBuffer) (c : Consumer) :
    Own c b ((b.dropQueued c).clearNext c) :=
  (dropQueued_own b c).trans (own_setConsumer (.inl ⟨rfl, rfl⟩))

/-- After the drop, with the pointer cleared, the cursor has no queue. -/
theorem dropQueued_clearNext_holds (hs : SeqSorted (chunksOf b.nodes)) (h : b.Holds c k) :
    ((b.dropQueued c).clearNext c).Holds c k.loseAll := by
  obtain ⟨hp, hg⟩ := dropQueued_self hs h
  unfold Holds clearNext
  rw [setConsumer_consumers, update_self, setConsumer_nodes, hp]
  exact Tracks.loseAll h (hg.setNext none) fun _ => rfl

theorem dropQueuedForConsumer_holds (hs : SeqSorted (chunksOf b.nodes)) (h : b.Holds c k) :
    (b.dropQueuedForConsumer c).Holds c k.loseAll := by
  unfold dropQueuedForConsumer
  dsimp only
  split
  · exact dropQueued_clearNext_holds hs h
  next hf =>
  obtain ⟨hp, hg⟩ := dropQueued_self hs h
  unfold Holds
  rw [hp]
  refine Tracks.loseAll h hg fun hflight => absurd ?_ hf
  rw [hg, h.inFlight, hflight]
  rfl

theorem dropQueuedForConsumer_own (b : OutputBuffer) (c : Consumer) :
    Own c b (b.dropQueuedForConsumer c) := by
  unfold dropQueuedForConsumer
  dsimp only
  split
  · exact dropQueued_clearNext_own b c
  · exact dropQueued_own b c

/-- One more lost payload behind a dropped queue. -/
theorem Holds.addGap (h : b.Holds c k.loseAll) (x : Chunk) :
    (b.setConsumer c (addGap (b.consumers c) x.seq x.payload.length)).Holds c (k.skip x) := by
  unfold Holds
  rw [setConsumer_consumers, update_self]
  exact h.skip (gapped_addGap _ _ _) (addGap_next _ _ _)

theorem own_addGap (b : OutputBuffer) (c : Consumer) (seq n : Nat) :
    Own c b (b.setConsumer c (addGap (b.consumers c) seq n)) :=
  own_setConsumer (.of_gapped (gapped_addGap _ _ _))

/-! ## Numbering a payload -/

/-- What numbering a payload does for a consumer that is not handed it, and not
for the other: the payload is skipped behind a dropped queue. -/
structure Skips (b b' : OutputBuffer) (x : Chunk) (c : Consumer) : Prop where
  keeps : Keeps b b'
  self : ∀ k, b.Holds c k → b'.Holds c (k.skip x)
  other : ∀ d k, d ≠ c → (b'.Holds d k ↔ b.Holds d k)
  state : ∀ d, d ≠ c → b'.consumers d = b.consumers d

section

variable (hs : SeqSorted (chunksOf b.nodes)) (x : Chunk) (ha : (b.consumers c).active = true)

include hs ha

theorem dropIncomingFor_skips : Skips b (b.dropIncomingFor x.seq x.payload.length c) x c := by
  unfold dropIncomingFor
  rw [if_neg (by simp [ha])]
  have hown := (dropQueued_clearNext_own b c).trans (own_addGap _ _ x.seq x.payload.length)
  exact ⟨hown.toKeeps, fun k h => Holds.addGap (dropQueued_clearNext_holds hs h) x,
    fun d k hd => hown.holds hd, hown.state⟩

theorem gapFor_skips (ht : (b.consumers c).takesPayload = false) :
    Skips b (b.gapFor x.seq x.payload.length c) x c := by
  unfold gapFor
  rw [if_neg (by simp [ha, ht])]
  have hown := (dropQueuedForConsumer_own b c).trans (own_addGap _ _ x.seq x.payload.length)
  exact ⟨hown.toKeeps, fun k h => Holds.addGap (dropQueuedForConsumer_holds hs h) x,
    fun d k hd => hown.holds hd, hown.state⟩

end

/-- A loop over the two consumers whose body skips the payload for the ones
that `p` picks and leaves the others alone. -/
theorem skips_both {f : Consumer → OutputBuffer → OutputBuffer} {p : ConsumerState → Bool}
    {x : Chunk}
    (hskip : ∀ b c, SeqSorted (chunksOf b.nodes) → p (b.consumers c) = true → Skips b (f c b) x c)
    (hstay : ∀ b c, p (b.consumers c) = false → f c b = b) (hs : SeqSorted (chunksOf b.nodes)) :
    Keeps b (f .history (f .live b)) ∧ ∀ c,
      (∀ k, b.Holds c k →
        (f .history (f .live b)).Holds c (if p (b.consumers c) then k.skip x else k)) ∧
      (p (b.consumers c) = false → (f .history (f .live b)).consumers c = b.consumers c) := by
  -- the body at one consumer, whichever way it goes
  have hone : ∀ b c, SeqSorted (chunksOf b.nodes) → Keeps b (f c b) ∧
      (∀ k, b.Holds c k → (f c b).Holds c (if p (b.consumers c) then k.skip x else k)) ∧
      (p (b.consumers c) = false → (f c b).consumers c = b.consumers c) ∧
      ∀ d, d ≠ c → (∀ k, b.Holds d k → (f c b).Holds d k) ∧ (f c b).consumers d = b.consumers d := by
    intro b c hs
    cases hp : p (b.consumers c) with
    | true =>
      have h := hskip b c hs hp
      exact ⟨h.keeps, fun k hk => by simpa using h.self k hk, by simp,
        fun d hd => ⟨fun k hk => (h.other d k hd).2 hk, h.state d hd⟩⟩
    | false =>
      rw [hstay b c hp]
      exact ⟨.refl b, fun k hk => by simpa using hk, fun _ => rfl, fun d _ => ⟨fun _ hk => hk, rfl⟩⟩
  obtain ⟨hk₁, hself₁, hst₁, hother₁⟩ := hone b .live hs
  obtain ⟨hk₂, hself₂, hst₂, hother₂⟩ := hone (f .live b) .history (hk₁.chunks ▸ hs)
  refine ⟨hk₁.trans hk₂, fun c => ?_⟩
  cases c with
  | live =>
    obtain ⟨hh, hst⟩ := hother₂ .live (by decide)
    exact ⟨fun k hk => hh _ (hself₁ k hk), fun hp => hst.trans (hst₁ hp)⟩
  | history =>
    obtain ⟨hh, hst⟩ := hother₁ .history (by decide)
    rw [hst] at hself₂ hst₂
    exact ⟨fun k hk => hself₂ k (hh k hk), hst₂⟩

/-- Taking the next number touches neither the list nor a consumer. -/
theorem keeps_number (b : OutputBuffer) : Keeps b { b with nextSeq := b.nextSeq + 1 } :=
  { Keeps.refl b with nextSeq := Nat.le_succ _ }

/-- `dropIncomingLocked`: every active consumer skips the payload. -/
theorem dropIncoming_spec (hb : b.Linked) (payload : List UInt8) :
    Quiet b (b.dropIncoming payload.length).1 (b.dropIncoming payload.length).2 ∧
    ∀ c k, b.Holds c k → (b.dropIncoming payload.length).1.Holds c
      (if (b.consumers c).active then k.skip ⟨b.nextSeq + 1, payload⟩ else k) := by
  obtain ⟨hkeeps, hholds⟩ := skips_both (p := ConsumerState.active)
    (f := fun c b' => b'.dropIncomingFor (b.nextSeq + 1) payload.length c)
    (b := { b with nextSeq := b.nextSeq + 1 }) (x := ⟨b.nextSeq + 1, payload⟩)
    (fun b' c hs ha => dropIncomingFor_skips hs ⟨b.nextSeq + 1, payload⟩ ha)
    (fun b' c ha => by simp [dropIncomingFor, ha]) hb.sorted
  exact ⟨((keeps_number b).trans hkeeps).reclaim hb, fun c k hk =>
    holds_reclaim.2 ((hholds c).1 k hk)⟩

/-- Numbering a payload: the active consumers that are not handed it skip it. -/
theorem number_spec (hb : b.Linked) (payload : List UInt8) :
    Quiet b (b.number payload).1 (b.number payload).2 ∧
    b.nextSeq + 1 ≤ (b.number payload).1.nextSeq ∧ ∀ c,
      (∀ k, b.Holds c k → (b.number payload).1.Holds c
        (if (b.consumers c).active && !(b.consumers c).takesPayload
          then k.skip ⟨b.nextSeq + 1, payload⟩ else k)) ∧
      ((b.consumers c).takesPayload = true → (b.number payload).1.consumers c = b.consumers c) := by
  obtain ⟨hkeeps, hholds⟩ := skips_both (p := fun st => st.active && !st.takesPayload)
    (f := fun c b' => b'.gapFor (b.nextSeq + 1) payload.length c)
    (b := { b with nextSeq := b.nextSeq + 1 }) (x := ⟨b.nextSeq + 1, payload⟩)
    (fun b' c hs ha => gapFor_skips hs ⟨b.nextSeq + 1, payload⟩ (by simp_all) (by simp_all))
    (fun b' c ha => by
      rw [gapFor]
      cases hact : (b'.consumers c).active <;> simp_all) hb.sorted
  exact ⟨((keeps_number b).trans hkeeps).reclaim hb, hkeeps.nextSeq, fun c =>
    ⟨fun k hk => holds_reclaim.2 ((hholds c).1 k hk), fun ht => (hholds c).2 (by simp [ht])⟩⟩

/-! ## Appending -/

/-- What `writeChunk`'s last region has done with a payload of `n` bytes for
which `n` bytes are reserved: `freed` bytes are to be released. -/
structure Appends (b b' : OutputBuffer) (n : Nat) (freed : Int) : Prop where
  linked : b'.Linked
  resident : b'.resident = b.resident + n - freed
  freed_nonneg : 0 ≤ freed
  config : b'.config = b.config
  closed : b'.closed = b.closed
  flags : ∀ c, SameFlags (b.consumers c) (b'.consumers c)

theorem takesPayload_active {st : ConsumerState} (h : st.takesPayload = true) :
    st.active = true := by
  simp only [ConsumerState.takesPayload, Bool.and_eq_true] at h
  exact h.1

theorem pointAt_flags (st : ConsumerState) (seq : Nat) : SameFlags st (st.pointAt seq) := by
  unfold ConsumerState.pointAt
  split <;> exact .inl ⟨rfl, rfl⟩

/-- A new node behind the list, numbered above all of it. -/
theorem Linked.link (hb : b.Linked) {node : OutputNode}
    (hnew : ∀ x ∈ chunksOf b.nodes, x.seq < node.seq)
    (hseq : node.seq ≤ b.nextSeq) (hp : node.hasPending = true) : (b.link node).Linked where
  sorted := by
    simp only [OutputBuffer.link, chunksOf_append]
    exact pairwise_append.2 ⟨hb.sorted, by simp [chunksOf], by simpa [chunksOf] using hnew⟩
  numbered := by
    simp only [OutputBuffer.link, chunksOf_append]
    exact forall_mem_append.2 ⟨hb.numbered, forall_mem_singleton.2 hseq⟩
  waited := by
    exact forall_mem_append.2 ⟨hb.waited, forall_mem_singleton.2 hp⟩
  resident := by
    simp [OutputBuffer.link, hb.resident, linkedBytes]

/-- `writeChunk` after the reservation, on the list. -/
theorem append_appends (hb : b.Linked) (payload : List UInt8) :
    Appends b (b.append payload).1 payload.length (b.append payload).2 := by
  obtain ⟨hq, hseq, -⟩ := number_spec hb payload
  unfold append
  dsimp only
  split
  · next hp =>
    refine ⟨hq.linked.link (fun x hx => ?_) hseq hp, ?_, hq.freed_nonneg, hq.config, hq.closed,
      fun c => (hq.flags c).trans ?_⟩
    · exact Nat.lt_succ_of_le (hb.numbered x (hq.sublist.subset hx))
    · simp only [link, hq.resident]
      ring
    · simp only [link]
      split
      · exact pointAt_flags _ _
      · exact .refl _
  · refine { hq with resident := ?_, freed_nonneg := ?_ }
    · rw [hq.resident]
      ring
    · have := hq.freed_nonneg
      omega

/-- `writeChunk` after the reservation, for one consumer: the payload is
offered, or skipped behind an earlier loss. -/
theorem append_holds (hb : b.Linked) (payload : List UInt8)
    (h : b.Holds c k) :
    (b.append payload).1.Holds c
      (if (b.consumers c).takesPayload then k.offer ⟨b.nextSeq + 1, payload⟩
      else if (b.consumers c).active then k.skip ⟨b.nextSeq + 1, payload⟩ else k) := by
  obtain ⟨-, -, hnum⟩ := number_spec hb payload
  obtain ⟨hhold, hstate⟩ := hnum c
  have hhold := hhold k h
  unfold append
  dsimp only
  cases ht : (b.consumers c).takesPayload with
  | true =>
    rw [takesPayload_active ht, ht] at hhold
    rw [if_pos (by cases c <;> simp [OutputNode.hasPending, ht])]
    unfold Holds
    simp only [link, pendingChunks_append, ht, if_true]
    rw [pendingChunks_cons_pos (by exact ht)]
    refine Tracks.offer hhold _ ?_
    rw [hstate ht]
    exact takesPayload_active ht
  | false =>
    rw [ht, Bool.not_false, Bool.and_true] at hhold
    split
    · unfold Holds
      simp only [link, pendingChunks_append, ht]
      rw [pendingChunks_cons_neg (by exact ht), pendingChunks_nil, append_nil]
      exact hhold
    · exact hhold

/-! ## Consuming -/

section Consuming

theorem batchOf_eq {first : OutputNode} {more : List OutputNode} {xs : List Chunk}
    (h : chunksOf (first :: more) = xs) :
    xs.head?.map Chunk.seq = some (batchOf first more).first ∧
      xs.getLast?.map Chunk.seq = some (batchOf first more).last ∧
      (batchOf first more).payload = bytes xs := by
  subst h
  refine ⟨rfl, ?_, ?_⟩
  · rw [chunksOf, List.getLast?_map]
    rfl
  · simp [batchOf, bytes, chunksOf, flatMap_map]

/-- What `next` did, by what it returned. -/
inductive NextSpec (b : OutputBuffer) (c : Consumer) (k : Cursor Chunk) :
    OutputBuffer × Next → Prop
  | wait : NextSpec b c k (b, .wait)
  | stop : NextSpec b c k (b, .stop)
  | gap {b' : OutputBuffer} {g : OutputGap} :
      g.droppedBytes = (bytes k.lost).length → b'.Holds c k.handGap → NextSpec b c k (b', .gap g)
  | batch {b' : OutputBuffer} {batch : OutputBatch} (n : Nat) :
      bytes k.lost = [] → b'.Holds c (k.handBatch n) → k.queue.take n ≠ [] →
      (k.queue.take n).head?.map Chunk.seq = some batch.first →
      (k.queue.take n).getLast?.map Chunk.seq = some batch.last →
      batch.payload = bytes (k.queue.take n) → NextSpec b c k (b', .batch batch)

/-- `next` for the consumer that calls it, which has no batch in flight. A
pending loss is handed over first. -/
theorem next_spec (hb : b.Linked) (h : b.Holds c k) (hf : k.flight = [])
    (hok : (b.consumers c).active = true → (b.consumers c).unavailable = none) :
    NextSpec b c k (b.next c) := by
  unfold next
  dsimp only
  split
  · exact .wait
  split
  · exact .stop
  next hstop =>
  have ha : (b.consumers c).active = true := by
    rw [Bool.or_eq_true, not_or, Bool.not_eq_true, Bool.not_eq_false'] at hstop
    exact hstop.1
  have hlost := h.lost (hok ha)
  have hdropped := h.dropped (hok ha)
  split
  · refine .gap hlost ?_
    unfold Holds
    rw [setConsumer_consumers, update_self, setConsumer_nodes]
    exact ⟨by rw [h.pending, hf]; rfl, by rw [h.inFlight, hf]; rfl, by rw [h.inFlightLast, hf]; rfl,
      fun _ => h.next hf, fun hi => absurd (ha.symm.trans hi) (by decide), fun _ => rfl,
      fun _ => by rw [Cursor.allLost_handGap]; exact hdropped⟩
  next hgap =>
  have hnolost : bytes k.lost = [] := eq_nil_of_length_eq_zero (by omega)
  have hpend : pendingChunks c b.nodes = k.queue := by rw [h.pending, hf, nil_append]
  rw [h.next hf]
  cases hq : k.queue with
  | nil => exact .stop
  | cons x xs =>
    obtain ⟨first, rest, hfrom, rfl, -, hrest, -⟩ := nodesFrom_first hb.sorted (hpend.trans hq)
    rw [List.head?_cons, Option.map_some, hfrom]
    obtain ⟨m, hm⟩ := gather_chunks c first.payload.length rest
    have hchunks : chunksOf (first :: gather c first.payload.length rest) =
        k.queue.take (m + 1) := by
      rw [chunksOf_cons, hm, hrest, hq, take_succ_cons]
    obtain ⟨h₁, h₂, h₃⟩ := batchOf_eq hchunks
    refine .batch (m + 1) hnolost ?_ (by simp [hq]) h₁ h₂ h₃
    unfold Holds
    rw [setConsumer_consumers, update_self, setConsumer_nodes]
    refine ⟨?_, h₁.symm, h₂.symm, fun hnil => ?_, fun hi => absurd (ha.symm.trans hi) (by decide),
      fun _ => hlost, fun _ => by rw [Cursor.allLost_handBatch]; exact hdropped⟩
    · rw [hpend]
      simp [Cursor.handBatch]
    · simp [Cursor.handBatch, hq] at hnil

/-- `next` writes only the caller's state. -/
theorem next_eq_setConsumer (b : OutputBuffer) (c : Consumer) :
    ∃ st, (b.next c).1 = b.setConsumer c st ∧ SameFlags (b.consumers c) st := by
  have hself : b = b.setConsumer c (b.consumers c) := by simp [setConsumer]
  unfold next
  dsimp only
  split
  · exact ⟨_, hself, .refl _⟩
  split
  · exact ⟨_, hself, .refl _⟩
  split
  · exact ⟨_, rfl, .inl ⟨rfl, rfl⟩⟩
  split
  · exact ⟨_, hself, .refl _⟩
  · exact ⟨_, rfl, .inl ⟨rfl, rfl⟩⟩

theorem next_own (b : OutputBuffer) (c : Consumer) : Own c b (b.next c).1 := by
  obtain ⟨st, h, hflags⟩ := next_eq_setConsumer b c
  rw [h]
  exact own_setConsumer hflags

/-! ## Completing -/

/-- The batch is the one in flight. -/
def BatchOf (batch : OutputBatch) (k : Cursor Chunk) : Prop :=
  k.flight.head?.map Chunk.seq = some batch.first ∧
    k.flight.getLast?.map Chunk.seq = some batch.last

theorem finishBatch_cleared (b : OutputBuffer) (c : Consumer) (batch : OutputBatch) :
    ClearedFor c b.nodes (b.finishBatch c batch).nodes := by
  have happend : ∀ {nodes}, ClearedFor c (nodesFrom b.nodes (some batch.first)) nodes →
      ClearedFor c b.nodes (nodesBefore b.nodes (some batch.first) ++ nodes) := by
    intro nodes h
    have := (ClearedFor.refl c (nodesBefore b.nodes (some batch.first))).append h
    rwa [nodesBefore_append_nodesFrom] at this
  refine happend ?_
  split
  · exact .refl _ _
  · exact completeLoop_cleared

theorem finishBatch_own (b : OutputBuffer) (c : Consumer) (batch : OutputBatch) :
    Own c b (b.finishBatch c batch) :=
  own_cleared (finishBatch_cleared b c batch) (.inl ⟨rfl, rfl⟩)

variable {batch : OutputBatch}

section

variable (hs : SeqSorted (chunksOf b.nodes)) (h : b.Holds c k) (hbatch : BatchOf batch k)

include hs h hbatch

/-- Completing the batch in flight leaves the queue. -/
theorem finishBatch_pending : pendingChunks c (b.finishBatch c batch).nodes = k.queue := by
  obtain ⟨hfirst, hlast⟩ := hbatch
  cases hfl : k.flight with
  | nil => simp [hfl] at hfirst
  | cons x xs =>
    have hx : x.seq = batch.first := by simpa [hfl] using hfirst
    have hpend : pendingChunks c b.nodes = x :: (xs ++ k.queue) := by rw [h.pending, hfl]; rfl
    obtain ⟨n, rest, hfrom, rfl, hn, hrest, hbefore⟩ := nodesFrom_first hs hpend
    rw [hx] at hfrom hbefore
    have hpf : pendingChunks c (n :: rest) = k.flight ++ k.queue := by
      rw [pendingChunks_cons_pos hn, hrest, hfl]
      rfl
    -- the first node of the batch is pending, so the loop runs
    have hnodes : (b.finishBatch c batch).nodes = nodesBefore b.nodes (some batch.first) ++
        (completeLoop c batch.last (b.consumers c).completedSeq (n :: rest)).1 := by
      simp [finishBatch, hfrom, hn, hx]
    rw [hnodes, pendingChunks_append, hbefore]
    exact completeLoop_pending hpf (hpf ▸ h.pending ▸ hs.pending) hlast

/-- The consumer is then idle, with its pointer at the front of the queue. -/
theorem finishBatch_holds : (b.finishBatch c batch).Holds c k.complete := by
  have hpend := finishBatch_pending hs h hbatch
  have hchunks := (finishBatch_cleared b c batch).chunks
  obtain ⟨l, hl, hlast⟩ := Option.map_eq_some_iff.1 hbatch.2
  have hlmem : l ∈ k.flight := mem_of_getLast? hl
  have hlinked : ∃ n ∈ (b.finishBatch c batch).nodes, n.seq = batch.last := by
    have hmem : l ∈ chunksOf (b.finishBatch c batch).nodes := by
      rw [hchunks]
      exact pendingChunks_sublist.subset (h.pending ▸ mem_append_left _ hlmem)
    obtain ⟨n, hn, rfl⟩ := mem_map.1 hmem
    exact ⟨n, hn, hlast⟩
  have hsplit : SeqSorted (k.flight ++ k.queue) := h.pending ▸ hs.pending
  have hbehind : ∀ x ∈ pendingChunks c (b.finishBatch c batch).nodes, batch.last < x.seq := by
    intro x hx
    rw [hpend] at hx
    exact hlast ▸ (pairwise_append.1 hsplit).2.2 l hlmem x hx
  have hafter := pendingChunks_after (hchunks ▸ hs) hlinked hbehind
  have hstate : (b.finishBatch c batch).consumers c =
      { b.consumers c with
        inFlight := none, inFlightLast := none
        completedSeq := ((b.finishBatch c batch).consumers c).completedSeq
        next := nextPendingNode c
          (nodesFrom (b.finishBatch c batch).nodes (some batch.last)).tail } := by
    simp [finishBatch]
  unfold Holds
  rw [hpend, hstate]
  refine ⟨rfl, rfl, rfl, fun _ => ?_, h.inactive, h.lost, h.dropped⟩
  rw [nextPendingNode_eq, hafter, hpend]
  rfl

end

section

variable (b c) (epoch dropped : Nat) (cause : String) (failurePending : Bool)

theorem fail_cleared :
    ClearedFor c b.nodes (b.fail c epoch dropped cause failurePending).nodes := by
  have := (ClearedFor.refl c (nodesBefore b.nodes (b.consumers c).next)).append
    (@releaseLoop_cleared c (nodesFrom b.nodes (b.consumers c).next))
  rwa [nodesBefore_append_nodesFrom] at this

theorem fail_own : Own c b (b.fail c epoch dropped cause failurePending) :=
  own_cleared (fail_cleared b c epoch dropped cause failurePending) (.inr ⟨rfl, by simp⟩)

end

/-- A consumer that fails while idle leaves nothing pending. -/
theorem fail_holds {q : List Chunk} (hs : SeqSorted (chunksOf b.nodes))
    (hpend : pendingChunks c b.nodes = q) (hnext : (b.consumers c).next = q.head?.map Chunk.seq)
    (hidle : (b.consumers c).inFlight = none ∧ (b.consumers c).inFlightLast = none)
    (epoch dropped : Nat) (cause : String) (failurePending : Bool) :
    (b.fail c epoch dropped cause failurePending).Holds c k.abandon := by
  have hnone : pendingChunks c (b.fail c epoch dropped cause failurePending).nodes = [] := by
    simp only [fail, pendingChunks_append, releaseLoop_pending, append_nil]
    rw [hnext]
    cases q with
    | nil => exact hpend
    | cons x xs =>
      obtain ⟨-, -, -, -, -, -, hbefore⟩ := nodesFrom_first hs hpend
      exact hbefore
  unfold Holds
  rw [hnone]
  simp only [fail, update_self]
  exact ⟨rfl, hidle.1, hidle.2, fun _ => rfl, fun _ => rfl, fun hu => absurd hu (by simp),
    fun hu => absurd hu (by simp)⟩

/-- `completeBatch` on the list and for the other consumer. -/
theorem completeBatch_region (hb : b.Linked) (c : Consumer) (batch : OutputBatch)
    (err : Option String) (failurePending : Bool) :
    Quiet b (b.completeBatch c batch err failurePending).1
      (b.completeBatch c batch err failurePending).2 ∧ ∀ d k, d ≠ c →
      ((b.completeBatch c batch err failurePending).1.Holds d k ↔ b.Holds d k) := by
  unfold completeBatch
  split
  · exact ⟨.refl hb, fun _ _ _ => .rfl⟩
  cases err with
  | none => exact (finishBatch_own b c batch).reclaim hb
  | some cause =>
    refine (((finishBatch_own b c batch).trans ?_).trans (fail_own _ _ _ _ _ _)).reclaim hb
    exact own_setConsumer (.inl ⟨rfl, rfl⟩)

/-- `completeBatch` for the consumer whose batch it is: the batch is complete,
or the consumer has failed. -/
theorem completeBatch_self (hb : b.Linked) (h : b.Holds c k)
    (hbatch : BatchOf batch k) (err : Option String) (failurePending : Bool) :
    let b' := (b.completeBatch c batch err failurePending).1
    b'.Holds c k.complete ∨ ((b'.consumers c).unavailable ≠ none ∧ b'.Holds c k.abandon) := by
  unfold completeBatch
  rw [if_neg (by
    rw [h.inFlight, h.inFlightLast, hbatch.1, hbatch.2]
    simp)]
  have hfin := finishBatch_holds hb.sorted h hbatch
  cases err with
  | none => exact .inl (holds_reclaim.2 hfin)
  | some cause =>
    refine .inr ⟨by simp [reclaim, fail], holds_reclaim.2 ?_⟩
    apply fail_holds (q := k.queue)
    · exact (finishBatch_own b c batch).chunks ▸ hb.sorted
    · exact hfin.pending
    · simp only [countFailed, setConsumer_consumers, update_self]
      exact hfin.next rfl
    · simp only [countFailed, setConsumer_consumers, update_self]
      exact ⟨hfin.inFlight, hfin.inFlightLast⟩

/-- `completeGap` on the list and for the other consumer. -/
theorem completeGap_region (hb : b.Linked) (c : Consumer) (gap : OutputGap)
    (err : Option String) (failurePending : Bool) :
    Quiet b (b.completeGap c gap err failurePending).1
      (b.completeGap c gap err failurePending).2 ∧ ∀ d k, d ≠ c →
      ((b.completeGap c gap err failurePending).1.Holds d k ↔ b.Holds d k) := by
  unfold completeGap
  split
  · exact ⟨.refl hb, fun _ _ _ => .rfl⟩
  have hstart : Own c b (b.setConsumer c { b.consumers c with gapInFlight := none }) :=
    own_setConsumer (.inl ⟨rfl, rfl⟩)
  cases err with
  | none =>
    refine (hstart.trans ?_).reclaim hb
    exact own_setConsumer (.inl ⟨rfl, rfl⟩)
  | some cause => exact (hstart.trans (fail_own _ _ _ _ _ _)).reclaim hb

/-- `completeGap` for the consumer whose gap it is: its cursor stays, or it has
failed. -/
theorem completeGap_self (hb : b.Linked) (h : b.Holds c k) (hf : k.flight = [])
    (gap : OutputGap) (err : Option String) (failurePending : Bool) :
    let b' := (b.completeGap c gap err failurePending).1
    b'.Holds c k ∨ ((b'.consumers c).unavailable ≠ none ∧ b'.Holds c k.abandon) := by
  unfold completeGap
  split
  · exact .inl h
  cases err with
  | none =>
    refine .inl (holds_reclaim.2 ?_)
    unfold Holds
    simp only [setConsumer_consumers, update_self, setConsumer_nodes]
    exact { h with }
  | some cause =>
    refine .inr ⟨by simp [reclaim, fail], holds_reclaim.2 ?_⟩
    apply fail_holds (q := k.queue)
    · exact hb.sorted
    · exact h.pending.trans (by rw [hf, nil_append])
    · simpa using h.next hf
    · simp only [setConsumer_consumers, update_self]
      exact ⟨by rw [h.inFlight, hf]; rfl, by rw [h.inFlightLast, hf]; rfl⟩

end Consuming

/-! ## Closing -/

theorem marks_deactivate (b : OutputBuffer) (c : Consumer) : Marks b (b.deactivate c) :=
  ⟨rfl, rfl, le_rfl, rfl⟩

theorem closeFor_marks (b : OutputBuffer) (c : Consumer) : Marks b (b.closeFor c) := by
  unfold closeFor
  split
  · exact (dropQueued_clearNext_own b c).toMarks.trans (marks_deactivate _ c)
  · exact marks_deactivate b c

theorem Holds.deactivate (h : b.Holds c k) (hq : k.queue = []) : (b.deactivate c).Holds c k := by
  unfold Holds OutputBuffer.deactivate
  simp only [setConsumer_consumers, update_self, setConsumer_nodes]
  exact { h with inactive := fun _ => hq }

/-- `Close` for one consumer: what is queued is lost and nothing more will be. -/
theorem closeFor_self (hs : SeqSorted (chunksOf b.nodes)) (h : b.Holds c k) :
    (b.closeFor c).Holds c k.loseAll ∧ ((b.closeFor c).consumers c).active = false ∧
      ((b.closeFor c).consumers c).unavailable = (b.consumers c).unavailable := by
  unfold closeFor
  split
  · refine ⟨(dropQueued_clearNext_holds hs h).deactivate (by simp), by simp [deactivate], ?_⟩
    obtain ⟨-, hg⟩ := dropQueued_self hs h
    simp only [deactivate, clearNext, setConsumer_consumers, update_self]
    rw [hg]
  · next ha =>
    have hq : k.queue = [] := h.inactive (by simpa using ha)
    rw [Cursor.loseAll_of_queue_nil hq]
    exact ⟨h.deactivate hq, by simp [deactivate], by simp [deactivate]⟩

theorem closeFor_other (hd : d ≠ c) :
    ((b.closeFor c).Holds d k ↔ b.Holds d k) ∧ (b.closeFor c).consumers d = b.consumers d := by
  unfold closeFor deactivate
  split
  · have hown := dropQueued_clearNext_own b c
    exact ⟨(holds_setConsumer_ne hd).trans (hown.holds hd),
      (update_of_ne hd ..).trans (hown.state d hd)⟩
  · exact ⟨holds_setConsumer_ne hd, update_of_ne hd ..⟩

theorem close_region (hb : b.Linked) : Region b b.close.1 b.close.2 := by
  refine Marks.reclaim hb ?_
  have hstart : Marks b { b with closed := true } := ⟨rfl, rfl, le_rfl, rfl⟩
  exact (hstart.trans (closeFor_marks _ .live)).trans (closeFor_marks _ .history)

theorem close_self (hb : b.Linked) (h : b.Holds c k) :
    b.close.1.Holds c k.loseAll ∧ (b.close.1.consumers c).active = false ∧
      (b.close.1.consumers c).unavailable = (b.consumers c).unavailable := by
  set b₀ : OutputBuffer := { b with closed := true }
  have h₀ : b₀.Holds c k := h
  have hs : SeqSorted (chunksOf (b₀.closeFor .live).nodes) :=
    (closeFor_marks b₀ .live).chunks ▸ hb.sorted
  show (((b₀.closeFor .live).closeFor .history).reclaim).1.Holds c k.loseAll ∧ _
  rw [holds_reclaim]
  cases c with
  | live =>
    obtain ⟨h₁, ha, hu⟩ := closeFor_self (b := b₀) hb.sorted h₀
    obtain ⟨h₂, hst⟩ := closeFor_other (b := b₀.closeFor .live) (k := k.loseAll)
      (show Consumer.live ≠ .history by decide)
    refine ⟨h₂.2 h₁, ?_, ?_⟩
    · exact (congrArg ConsumerState.active hst).trans ha
    · exact (congrArg ConsumerState.unavailable hst).trans hu
  | history =>
    obtain ⟨h₁, hst⟩ := closeFor_other (b := b₀) (k := k) (show Consumer.history ≠ .live by decide)
    obtain ⟨h₂, ha, hu⟩ := closeFor_self hs (h₁.2 h₀)
    exact ⟨h₂, ha, hu.trans (congrArg ConsumerState.unavailable hst)⟩

theorem close_closed (b : OutputBuffer) : b.close.1.closed = true := by
  have hloop : ∀ (b : OutputBuffer) (c : Consumer), (b.closeFor c).closed = b.closed := by
    intro b c
    unfold closeFor
    split <;> rfl
  show ((({ b with closed := true } : OutputBuffer).closeFor .live).closeFor .history).closed = true
  rw [hloop, hloop]

end OutputBuffer

end Anytty.Output
