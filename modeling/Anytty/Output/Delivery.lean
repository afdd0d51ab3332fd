import Anytty.Output.Regions
import Anytty.Output.System

/-!
# Every accepted byte is delivered once or reported lost

In every state of every run, what a consumer was handed, followed by its pending
gap and its queue, is exactly the byte stream accepted from the writer
(`delivery_partitions`). The invariant is `Terminal.Ok`: each consumer has a
cursor whose stream is the accepted bytes and whose events are what was handed
over. A step of another terminal, or of the budget, does not touch it, except
that an eviction drops from the front of a queue.
-/

namespace Anytty.Output

open List OutputBuffer

open Lossy (Cursor Event)
open Function
open OutputBuffer (Linked Holds BatchOf SameFlags Quiet)

/-- What a callback sees of an event. -/
def report : Event Chunk → Handed
  | .delivered xs => .batch (bytes xs)
  | .gap xs => .gap (bytes xs).length

/-- The batch a consumer's loop works on is the one in flight. -/
def ReaderAt : Reader → List Chunk → Prop
  | .batch batch, flight =>
    flight.head?.map Chunk.seq = some batch.first ∧
      flight.getLast?.map Chunk.seq = some batch.last
  | _, flight => flight = []

/-- How the consumers' flags depend on each other: one that failed or whose
buffer is closed is inactive, and nothing else switches one off. -/
structure FlagsOk (b : OutputBuffer) (enabled : Consumer → Bool) : Prop where
  failed : ∀ c, (b.consumers c).unavailable ≠ none → (b.consumers c).active = false
  closed : b.closed = true → ∀ c, (b.consumers c).active = false
  alive : ∀ c, enabled c = true → (b.consumers c).unavailable = none → b.closed = false →
    (b.consumers c).active = true

/-- The cursor's stream is what was accepted and its events what was handed over. -/
structure Shows (accepted : List UInt8) (handed : List Handed) (k : Cursor Chunk) : Prop where
  stream : accepted = bytes k.stream
  events : handed = k.handed.map report

/-- What holds of a terminal between regions. -/
structure Terminal.Ok (t : Terminal) : Prop where
  linked : t.buffer.Linked
  flags : FlagsOk t.buffer t.enabled
  cursors : ∀ c, ∃ k, t.buffer.Holds c k ∧ ReaderAt (t.readers c) k.flight ∧
    (t.enabled c = true → (t.buffer.consumers c).unavailable = none →
      Shows t.accepted (t.handed c) k)

section Terminal

variable {t : Terminal} {b : OutputBuffer} {enabled : Consumer → Bool}

theorem FlagsOk.same {b' : OutputBuffer} (h : FlagsOk b enabled) (hclosed : b'.closed = b.closed)
    (hflags : ∀ c, SameFlags (b.consumers c) (b'.consumers c)) : FlagsOk b' enabled where
  failed c hu := by
    rcases hflags c with ⟨ha, hu'⟩ | ⟨ha, -⟩
    · exact ha.trans (h.failed c (hu' ▸ hu))
    · exact ha
  closed hc c := by
    rcases hflags c with ⟨ha, -⟩ | ⟨ha, -⟩
    · exact ha.trans (h.closed (hclosed ▸ hc) c)
    · exact ha
  alive c he hu hc := by
    rcases hflags c with ⟨ha, hu'⟩ | ⟨-, hu'⟩
    · exact ha.trans (h.alive c he (hu' ▸ hu) (hclosed ▸ hc))
    · exact absurd hu hu'

theorem newTerminal_ok (config : BufferConfig) (historyEnabled : Bool) :
    (newTerminal config historyEnabled).Ok where
  linked := ⟨List.Pairwise.nil, by simp [newTerminal, newOutputBuffer],
    by simp [newTerminal, newOutputBuffer], by simp [newTerminal, newOutputBuffer, linkedBytes]⟩
  flags := by
    refine ⟨fun c hu => ?_, fun hc => absurd hc (by simp [newTerminal, newOutputBuffer]),
      fun c he _ _ => ?_⟩
    · cases c <;> exact absurd rfl hu
    · cases c
      · rfl
      · exact he
  cursors c := by
    refine ⟨.empty, ?_, rfl, fun _ _ => ⟨rfl, rfl⟩⟩
    cases c <;> exact ⟨rfl, rfl, rfl, fun _ => rfl, fun _ => rfl, fun _ => rfl, fun _ => rfl⟩

/-- A region of the buffer that no consumer loop runs: cursors keep their batch
and their events, and their streams grow by what was accepted. -/
theorem Terminal.Ok.region {b' : OutputBuffer} {m : List UInt8} (h : t.Ok)
    (hlinked : b'.Linked) (hflags : FlagsOk b' t.enabled)
    (hcursor : ∀ c k, t.buffer.Holds c k → ∃ k', b'.Holds c k' ∧ k'.flight = k.flight ∧
      k'.handed = k.handed ∧ (t.enabled c = true → (b'.consumers c).unavailable = none →
        (t.buffer.consumers c).unavailable = none ∧ bytes k'.stream = bytes k.stream ++ m)) :
    Ok { t with buffer := b', accepted := t.accepted ++ m } where
  linked := hlinked
  flags := hflags
  cursors c := by
    obtain ⟨k, hk, hreader, hshows⟩ := h.cursors c
    obtain ⟨k', hk', hflight, hhanded, hstream⟩ := hcursor c k hk
    refine ⟨k', hk', hflight ▸ hreader, fun he hu => ?_⟩
    obtain ⟨hu, hs⟩ := hstream he hu
    have hold := hshows he hu
    exact ⟨by rw [hs, ← hold.stream], by rw [hhanded]; exact hold.events⟩

/-- Nothing here looks at the writer or the closer. -/
theorem Terminal.Ok.setWriter (h : t.Ok) (writer : Writer) (closer : Closer) :
    Ok { t with writer := writer, closer := closer } :=
  ⟨h.linked, h.flags, h.cursors⟩

variable {c : Consumer}

section

variable (h : t.Ok)
include h

namespace Terminal.Ok

/-- A consumer loop that moves without touching the buffer. -/
theorem setReader {reader : Reader}
    (hmove : ∀ flight, ReaderAt (t.readers c) flight → ReaderAt reader flight) :
    (t.setReader c reader).Ok := by
  refine ⟨h.linked, h.flags, fun d => ?_⟩
  obtain ⟨k, hk, hreader, hshows⟩ := h.cursors d
  refine ⟨k, hk, ?_, hshows⟩
  rcases eq_or_ne d c with rfl | hd
  · simpa [setReader] using hmove _ hreader
  · simpa [Terminal.setReader, hd] using hreader

theorem dropOldest (required : Int) : Ok { t with buffer := (t.buffer.dropOldest required).1 } := by
  have hq := dropOldest_quiet h.linked required
  have hok := h.region (m := []) hq.linked (h.flags.same hq.closed hq.flags) (by
    intro c k hk
    obtain ⟨n, hn⟩ := dropOldest_holds h.linked hk required
    exact ⟨k.lose n, hn, rfl, rfl, fun _ hu => ⟨((hq.flags c).of_none hu).1, by simp⟩⟩)
  simpa using hok

/-- `dropIncomingLocked` in an open buffer: the refused chunk is accepted and
lost for everyone. -/
theorem dropIncoming (hopen : t.buffer.closed = false) (w : WriteJob) :
    (t.dropIncoming t.buffer w).Ok := by
  obtain ⟨hq, hholds⟩ := dropIncoming_spec h.linked w.chunk
  have hok := h.region (m := w.chunk) hq.linked (h.flags.same hq.closed hq.flags) (by
    intro c k hk
    refine ⟨_, hholds c k hk, by split <;> rfl, by split <;> rfl, fun he hu => ?_⟩
    have hold := ((hq.flags c).of_none hu).1
    rw [if_pos (h.flags.alive c he hold hopen)]
    exact ⟨hold, by simp⟩)
  exact hok.setWriter _ _

theorem append (w : WriteJob) : (t.append w).Ok := by
  unfold Terminal.append
  split
  · exact h.setWriter _ _
  next hopen =>
  have hopen : t.buffer.closed = false := by
    rw [Bool.or_eq_true, not_or, Bool.not_eq_true] at hopen
    exact hopen.1
  have ha := append_appends h.linked w.chunk
  have hok := h.region (m := w.chunk) ha.linked (h.flags.same ha.closed ha.flags) (by
    intro c k hk
    refine ⟨_, append_holds h.linked w.chunk hk, ?_, ?_, fun he hu => ?_⟩
    · split
      · rfl
      · split <;> rfl
    · split
      · rfl
      · split <;> rfl
    · have hold := ((ha.flags c).of_none hu).1
      rw [if_pos (h.flags.alive c he hold hopen)]
      refine ⟨hold, ?_⟩
      split <;> simp)
  exact hok.setWriter _ _

theorem gate (w : WriteJob) : (t.gate w).Ok := by
  unfold Terminal.gate
  dsimp only
  split
  · next hfull =>
    split
    · have hdrop := h.dropOldest w.chunk.length
      split
      · have hopen : (t.buffer.dropOldest w.chunk.length).1.closed = false := by
          rw [(dropOldest_quiet h.linked _).closed]
          simp only [Bool.and_eq_true, Bool.not_eq_true'] at hfull
          exact hfull.1.1.1
        exact hdrop.dropIncoming hopen w
      · exact hdrop.setWriter _ _
    · exact h
  split
  · exact h.setWriter _ _
  next hopen =>
  split
  · next hnone =>
    -- nobody reads any more: an enabled consumer has failed
    refine ⟨h.linked, h.flags, fun c => ?_⟩
    obtain ⟨k, hk, hreader, -⟩ := h.cursors c
    refine ⟨k, hk, hreader, fun he hu => absurd (h.flags.alive c he hu ?_) ?_⟩
    · rw [Bool.or_eq_true, not_or, Bool.not_eq_true] at hopen
      exact hopen.1
    · simp only [hasActiveConsumer, Bool.not_eq_true', Bool.or_eq_false_iff] at hnone
      cases c
      · simp [hnone.1]
      · simp [hnone.2]
  · exact h.setWriter _ _

theorem refuse (w : WriteJob) : (t.refuse w).Ok := by
  unfold Terminal.refuse
  split
  · exact h.setWriter _ _
  next hopen =>
  refine h.dropIncoming ?_ w
  simp only [Bool.or_eq_true, not_or, Bool.not_eq_true] at hopen
  exact hopen.1.1

/-- `Close`: what is queued becomes a pending gap. -/
theorem close : t.close.Ok := by
  have hself := fun c k (hk : t.buffer.Holds c k) => close_self h.linked hk
  have hinactive : ∀ c, (t.buffer.close.1.consumers c).active = false := fun c =>
    let ⟨k, hk, _⟩ := h.cursors c
    (hself c k hk).2.1
  have hflags : FlagsOk t.buffer.close.1 t.enabled :=
    ⟨fun c _ => hinactive c, fun _ c => hinactive c, fun _ _ _ hc =>
      absurd (t.buffer.close_closed.symm.trans hc) (by decide)⟩
  have hok := h.region (m := []) (close_region h.linked).linked hflags (by
    intro c k hk
    obtain ⟨hhold, -, hu⟩ := hself c k hk
    exact ⟨k.loseAll, hhold, rfl, rfl, fun _ hnone => ⟨hu ▸ hnone, by simp⟩⟩)
  simpa [Terminal.close] using hok.setWriter t.writer (.release t.buffer.close.2)

/-- A region run by one consumer's loop: its cursor moves with the loop, its
events grow by what it is handed, and the other consumer is left alone. -/
theorem consume {b' : OutputBuffer} {r : Reader} {e : List Handed}
    (hlinked : b'.Linked) (hclosed : b'.closed = t.buffer.closed)
    (hflags : ∀ d, SameFlags (t.buffer.consumers d) (b'.consumers d))
    (hother : ∀ d k, d ≠ c → t.buffer.Holds d k → b'.Holds d k)
    (hself : ∀ k, t.buffer.Holds c k → ReaderAt (t.readers c) k.flight →
      ∃ k', b'.Holds c k' ∧ ReaderAt r k'.flight ∧
        ((b'.consumers c).unavailable = none → bytes k'.stream = bytes k.stream ∧
          k'.handed.map report = k.handed.map report ++ e)) :
    Ok { t with
      buffer := b'
      readers := update t.readers c r
      handed := update t.handed c (t.handed c ++ e) } where
  linked := hlinked
  flags := h.flags.same hclosed hflags
  cursors d := by
    obtain ⟨k, hk, hreader, hshows⟩ := h.cursors d
    rcases eq_or_ne d c with rfl | hd
    · obtain ⟨k', hk', hreader', hmoved⟩ := hself k hk hreader
      refine ⟨k', hk', by simpa using hreader', fun he hu => ?_⟩
      obtain ⟨hstream, hevents⟩ := hmoved hu
      have hold := hshows he ((hflags d).of_none hu).1
      exact ⟨hold.stream.trans hstream.symm, by simp [hevents, hold.events]⟩
    · refine ⟨k, hother d k hd hk, by simpa [hd] using hreader, fun he hu => ?_⟩
      simpa [hd] using hshows he ((hflags d).of_none hu).1

/-- `next`: a pending loss is handed over before anything later. -/
theorem next (hidle : t.readers c = .idle) : (t.next c).Ok := by
  have hspec : ∀ k, t.buffer.Holds c k → ReaderAt (t.readers c) k.flight →
      NextSpec t.buffer c k (t.buffer.next c) := by
    intro k hk hreader
    refine next_spec h.linked hk (by simpa [hidle, ReaderAt] using hreader) ?_
    intro ha
    by_contra hu
    exact absurd (ha.symm.trans (h.flags.failed c hu)) (by decide)
  have hkeeps := next_own t.buffer c
  have hother := fun d k (hd : d ≠ c) => (hkeeps.holds (k := k) hd).2
  have hlinked : (t.buffer.next c).1.Linked := by
    obtain ⟨st, hst, -⟩ := next_eq_setConsumer t.buffer c
    exact hst ▸ h.linked.setConsumer c st
  unfold Terminal.next
  rcases hnext : t.buffer.next c with ⟨b', r⟩
  rw [hnext] at hspec hkeeps hother hlinked
  cases r with
  | wait => exact h
  | stop => exact h.setReader fun flight hf => by simpa [hidle, ReaderAt] using hf
  | gap g =>
    refine h.consume hlinked hkeeps.closed hkeeps.flags hother fun k hk hreader => ?_
    cases hspec k hk hreader with
    | gap hlost hhold =>
      exact ⟨k.handGap, hhold, rfl, fun _ => ⟨by simp, by simp [Cursor.handGap, report, hlost]⟩⟩
  | batch batch =>
    refine h.consume hlinked hkeeps.closed hkeeps.flags hother fun k hk hreader => ?_
    cases hspec k hk hreader with
    | batch n hlost hhold hne hfirst hlast hpayload =>
      refine ⟨k.handBatch n, hhold, ⟨hfirst, hlast⟩, fun _ => ⟨?_, ?_⟩⟩
      · exact Cursor.flatMap_stream_handBatch hlost n
      · simp [Cursor.handBatch, report, hpayload]

theorem completeBatch {batch : OutputBatch}
    (hreader : t.readers c = .batch batch) (err : Option String) (handler : Bool) :
    (t.completed c (t.buffer.completeBatch c batch err handler) err handler).Ok := by
  obtain ⟨hq, hother⟩ := completeBatch_region h.linked c batch err handler
  have hok := h.consume (c := c) (e := []) hq.linked hq.closed hq.flags
    (r := .release (t.buffer.completeBatch c batch err handler).2 err.isSome handler)
    (fun d k hd hk => (hother d k hd).2 hk) (by
      intro k hk hat
      rw [hreader] at hat
      rcases completeBatch_self h.linked hk hat err handler with hd | ⟨hu, hd⟩
      · exact ⟨k.complete, hd, rfl, fun _ => ⟨by simp, by simp [Cursor.complete]⟩⟩
      · exact ⟨k.abandon, hd, rfl, fun hnone => absurd hnone hu⟩)
  simpa [Terminal.completed, Terminal.setReader] using hok

theorem completeGap {gap : OutputGap} (hreader : t.readers c = .gap gap)
    (err : Option String) (handler : Bool) :
    (t.completed c (t.buffer.completeGap c gap err handler) err handler).Ok := by
  obtain ⟨hq, hother⟩ := completeGap_region h.linked c gap err handler
  have hok := h.consume (c := c) (e := []) hq.linked hq.closed hq.flags
    (r := .release (t.buffer.completeGap c gap err handler).2 err.isSome handler)
    (fun d k hd hk => (hother d k hd).2 hk) (by
      intro k hk hat
      rw [hreader] at hat
      rcases completeGap_self h.linked hk hat gap err handler with hd | ⟨hu, hd⟩
      · exact ⟨k, hd, hat, fun _ => ⟨rfl, by simp⟩⟩
      · exact ⟨k.abandon, hd, rfl, fun hnone => absurd hnone hu⟩)
  simpa [Terminal.completed, Terminal.setReader] using hok

/-- A region that only notes where the consumer's loop is. -/
theorem note {st : ConsumerState} {r : Reader} (hst : st = { t.buffer.consumers c with
      started := st.started, failurePending := st.failurePending })
    (hmove : ∀ flight, ReaderAt (t.readers c) flight → ReaderAt r flight) :
    ({ t with buffer := t.buffer.setConsumer c st }.setReader c r).Ok := by
  have hsame : SameFlags (t.buffer.consumers c) st := by
    rw [hst]
    exact .inl ⟨rfl, rfl⟩
  have hok := h.consume (c := c) (e := []) (r := r) (h.linked.setConsumer c st) rfl
    (own_setConsumer hsame).flags
    (fun d k hd hk => (holds_setConsumer_ne hd).2 hk) (by
      intro k hk hat
      refine ⟨k, ?_, hmove _ hat, fun _ => ⟨rfl, by simp⟩⟩
      unfold Holds
      simp only [setConsumer_consumers, update_self]
      rw [hst]
      exact { hk with })
  simpa [Terminal.setReader] using hok

theorem start (hready : t.readers c = .ready) : (t.start c).Ok := by
  unfold Terminal.start OutputBuffer.start
  dsimp only
  split
  · exact h
  split
  · exact h
  · exact h.note rfl fun flight hf => by simpa [hready, ReaderAt] using hf

end Terminal.Ok

end

theorem Terminal.Step.ok {t' : Terminal} (hstep : Step t t') (h : t.Ok) : t'.Ok := by
  cases hstep with
  | write payload | noCandidate => exact h.setWriter _ _
  | gate => exact h.gate _
  | tryReserve =>
    unfold Terminal.tryReserve
    split
    · exact h.setWriter _ _
    · split <;> exact h.setWriter _ _
  | refuse => exact h.refuse _
  | append => exact h.append _
  | start c hready => exact h.start hready
  | next hidle => exact h.next hidle
  | completeBatch err handler hreader => exact h.completeBatch hreader err handler
  | completeGap err handler hreader => exact h.completeGap hreader err handler
  | handled hfailing => exact h.note rfl fun flight hf => by simpa [hfailing, ReaderAt] using hf
  | sealBuffer =>
    exact ⟨⟨h.linked.sorted, h.linked.numbered, h.linked.waited, h.linked.resident⟩,
      ⟨h.flags.failed, h.flags.closed, h.flags.alive⟩, h.cursors⟩
  | close => exact h.close

theorem Terminal.ReleaseStep.ok {t' : Terminal} {n : Int} (hstep : ReleaseStep t n t')
    (h : t.Ok) : t'.Ok := by
  cases hstep with
  | gate | evicted | finish | closer => exact h.setWriter _ _
  | reader hrelease =>
    refine h.setReader fun flight hf => ?_
    rw [hrelease] at hf
    split
    · exact hf
    · split <;> exact hf

end Terminal

/-! ## Runs -/

namespace System

variable {s s' : System}

/-- Every terminal of the system is fine. -/
def Ok (s : System) : Prop := ∀ i, (s.terminals i).Ok

theorem Ok.setTerminal (h : s.Ok) (i : Nat) {t : Terminal} (ht : t.Ok) : (s.setTerminal i t).Ok := by
  intro j
  rcases eq_or_ne j i with rfl | hj
  · simpa [System.setTerminal] using ht
  · simpa [System.setTerminal, hj] using h j

theorem Ok.setWriter (h : s.Ok) (i : Nat) (writer : Writer) : (s.setWriter i writer).Ok :=
  h.setTerminal i ((h i).setWriter writer _)

theorem Step.ok (hstep : Step s s') (h : s.Ok) : s'.Ok := by
  cases hstep with
  | newBuffer config historyEnabled => exact h.setTerminal _ (newTerminal_ok _ _)
  | closeBudget => exact h
  | terminal _ ht | release _ ht => exact h.setTerminal _ (ht.ok (h _))
  | budgetClosed | reserve | waitBudget | evictFrom | refuse => exact h.setWriter _ _
  | evict _ _ hr hs =>
    subst hr hs
    refine Ok.setWriter (h.setTerminal _ ?_) _ _
    unfold dropForAggregate
    split
    · exact h _
    · exact (h _).dropOldest _
  | unregister => exact h.setTerminal _ ((h _).setWriter _ _)

theorem Reachable.ok (h : s.Reachable) : s.Ok := by
  obtain ⟨maxBytes, hrun⟩ := h
  induction hrun with
  | refl => exact fun _ => newTerminal_ok _ _
  | tail _ hstep ih => exact hstep.ok ih

end System

/-! ## What a consumer has of the stream -/

/-- The bytes of the nodes one consumer still has to complete, in flight or not. -/
def OutputBuffer.waiting (b : OutputBuffer) (c : Consumer) (inFlight : Bool) : List UInt8 :=
  (b.nodes.filter fun n =>
    n.pending c && (outputNodeInFlight b.nodes (b.consumers c) n.seq == inFlight)).flatMap (·.payload)

/-- A handed event accounts for a piece of the stream: a batch for the bytes it
carries, a gap for as many bytes as it counts. -/
def Covers : Handed → List UInt8 → Prop
  | .batch payload, piece => piece = payload
  | .gap droppedBytes, piece => piece.length = droppedBytes

/-- The bytes a handed event reports as dropped. -/
def Handed.droppedBytes : Handed → Nat
  | .batch _ => 0
  | .gap n => n

/-- The accepted stream is cut, in order, into one piece for each event handed
to the consumer, the bytes of the pending gap and the queued bytes. The batch in
flight is the last event, and the dropped-byte counter counts the gaps. -/
structure PartitionsStream (t : Terminal) (c : Consumer) : Prop where
  partition : ∃ pieces lost, List.Forall₂ Covers (t.handed c) pieces ∧
    lost.length = (t.buffer.consumers c).pendingGapBytes ∧
    t.accepted = pieces.flatten ++ lost ++ t.buffer.waiting c false
  inFlight : (t.buffer.consumers c).inFlight ≠ none →
    (t.handed c).getLast? = some (.batch (t.buffer.waiting c true))
  dropped : (t.buffer.consumers c).droppedBytes =
    ((t.handed c).map Handed.droppedBytes).sum + (t.buffer.consumers c).pendingGapBytes

section Partition

variable {b : OutputBuffer} {c : Consumer} {k : Cursor Chunk}

theorem bytes_flatMap (events : List (Event Chunk)) (f : Event Chunk → List Chunk) :
    bytes (events.flatMap f) = (events.map fun e => bytes (f e)).flatten := by
  induction events with
  | nil => rfl
  | cons e events ih => simp [ih]

theorem waiting_eq (b : OutputBuffer) (c : Consumer) (inFlight : Bool) :
    b.waiting c inFlight = bytes ((pendingChunks c b.nodes).filter fun x =>
      outputNodeInFlight b.nodes (b.consumers c) x.seq == inFlight) := by
  simp only [waiting, pendingChunks, chunksOf, bytes, filter_map,
    flatMap_map, filter_filter, comp_def, Bool.and_comm]

/-- What the buffer has in flight is the batch of the cursor, and what it has
queued is the queue of the cursor. -/
theorem waiting_eq_bytes (hb : b.Linked) (h : b.Holds c k) (inFlight : Bool) :
    b.waiting c inFlight = bytes (if inFlight then k.flight else k.queue) := by
  have hflight : ∀ x ∈ k.flight, outputNodeInFlight b.nodes (b.consumers c) x.seq = true :=
    fun x hx => inFlight_of_flight hb.sorted h hx
  have hqueue : ∀ x ∈ k.queue, outputNodeInFlight b.nodes (b.consumers c) x.seq = false :=
    fun x hx => not_inFlight_of_queue hb.sorted h hx
  rw [waiting_eq, h.pending, filter_append]
  cases inFlight with
  | true =>
    rw [filter_eq_self.2 (by simpa using hflight), filter_eq_nil_iff.2 (by simpa using hqueue),
      append_nil, if_pos rfl]
  | false =>
    rw [filter_eq_nil_iff.2 (by simpa using hflight), filter_eq_self.2 (by simpa using hqueue)]
    rfl

theorem covers_report (e : Event Chunk) : Covers (report e) (bytes e.items) := by
  cases e <;> rfl

theorem droppedBytes_report (e : Event Chunk) :
    (report e).droppedBytes = (bytes e.lost).length := by
  cases e <;> rfl

/-- Per-consumer delivery: in every state of every run, for a consumer that was
enabled and has not failed, the batches and gaps it was handed partition the
accepted stream up to its pending gap and its queue. -/
theorem delivery_partitions {s : System} (h : s.Reachable) (i : Nat) (c : Consumer)
    (henabled : (s.terminals i).enabled c = true)
    (hok : ((s.terminals i).buffer.consumers c).unavailable = none) :
    PartitionsStream (s.terminals i) c := by
  have hinv := h.ok i
  obtain ⟨k, hk, -, hshows⟩ := hinv.cursors c
  obtain ⟨hstream, hevents⟩ := hshows henabled hok
  refine ⟨⟨k.handed.map fun e => bytes e.items, bytes k.lost, ?_, (hk.lost hok).symm, ?_⟩, ?_, ?_⟩
  · rw [hevents, forall₂_map_left_iff, forall₂_map_right_iff, forall₂_same]
    exact fun e _ => covers_report e
  · rw [hstream, waiting_eq_bytes hinv.linked hk]
    simp [Cursor.stream, bytes_flatMap]
  · intro hflight
    have hne : k.flight ≠ [] := by
      intro hnil
      rw [hk.inFlight, hnil] at hflight
      exact hflight rfl
    rw [hevents, List.getLast?_map, k.flight_handed hne, waiting_eq_bytes hinv.linked hk]
    rfl
  · rw [hk.dropped hok, hk.lost hok, hevents]
    simp [Cursor.allLost, bytes_flatMap, length_flatten, comp_def,
      droppedBytes_report]

/-- A writer with a reservation of three bytes. -/
def System.reserving : { s // Relation.ReflTransGen Step (initial 1048576) s } :=
  have h₀ : Relation.ReflTransGen Step (initial 1048576) _ := .refl
  have h₁ := h₀.tail (.newBuffer ⟨65536, .drop⟩ true)
  have h₂ := h₁.tail (.terminal (i := 0) (by decide) (.write [1, 2, 3] rfl))
  have h₃ := h₂.tail (.terminal (i := 0) (by decide) (.gate rfl))
  have h₄ := h₃.tail (.terminal (i := 0) (by decide) (.tryReserve rfl))
  have h₅ := h₄.tail (.reserve (i := 0) (by decide) (.inl rfl) rfl rfl)
  ⟨_, h₅⟩

/-- The live consumer holds a first batch when the budget closes. The next chunk
is refused and becomes a pending gap behind the batch. -/
theorem delivery_partitions_example :
    ∃ s : System, s.Reachable ∧ (s.terminals 0).accepted = [1, 2, 3, 4, 5] ∧
      (s.terminals 0).handed .live = [.batch [1, 2, 3]] ∧
      ((s.terminals 0).buffer.consumers .live).pendingGapBytes = 2 ∧
      PartitionsStream (s.terminals 0) .live := by
  have h₆ := System.reserving.2.tail (.terminal (i := 0) (by decide) (.append rfl))
  have h₇ := h₆.tail (.release (i := 0) (by decide) (.finish rfl))
  have h₈ := h₇.tail (.terminal (i := 0) (by decide) (.start .live rfl))
  have h₉ := h₈.tail (.terminal (i := 0) (by decide) (.next (c := .live) rfl))
  have h₁₀ := h₉.tail .closeBudget
  have h₁₁ := h₁₀.tail (.terminal (i := 0) (by decide) (.write [4, 5] rfl))
  have h₁₂ := h₁₁.tail (.terminal (i := 0) (by decide) (.gate rfl))
  have h₁₃ := h₁₂.tail (.terminal (i := 0) (by decide) (.tryReserve rfl))
  have h₁₄ := h₁₃.tail (.budgetClosed (i := 0) (by decide) rfl rfl)
  have h₁₅ := h₁₄.tail (.terminal (i := 0) (by decide) (.refuse rfl))
  exact ⟨_, ⟨_, h₁₅⟩, rfl, rfl, rfl, delivery_partitions ⟨_, h₁₅⟩ 0 .live rfl rfl⟩

end Partition

end Anytty.Output
