import Anytty.Output.Delivery

/-!
# Resident accounting of the shared budget

Bytes leave a buffer under `buffer.mu` and the budget under `budget.mu`, a
little later. So the budget's counter is not the sum of the buffers' counters
and the reservations in every state (`budget_lags`). It is that sum and the
bytes some goroutine has taken out and is about to release
(`resident_accounting`). Nothing else is ever missing or counted twice: the
counter stays within the limit, a release never reaches the clamp at zero, and
when every buffer is closed and drained the counter is zero.

`Terminal.account` is one terminal's share. A step of the terminal leaves its
share alone, a release takes from it what it gives back to the budget, and an
eviction moves bytes from the share of the candidate to that of the writer.
-/

namespace Anytty.Output

open Finset OutputBuffer Writer

open Lossy (Cursor)
open Function

/-! ## One terminal's share -/

/-- The bytes a writer has reserved and not linked. -/
def Writer.reservation : Writer → Int
  | .reserved w => w.chunk.length
  | _ => 0

/-- The bytes a writer is about to release. -/
def Writer.releasing : Writer → Int
  | .gateRelease freed _ | .evictRelease freed _ _ _ | .finish freed _ _ => freed
  | _ => 0

/-- The bytes a consumer's loop is about to release. -/
def Reader.releasing : Reader → Int
  | .release freed _ _ => freed
  | _ => 0

/-- The bytes `Close` is about to release. -/
def Closer.releasing : Closer → Int
  | .release freed => freed
  | _ => 0

namespace Terminal

/-- The bytes taken out of the terminal's buffer, or reserved for it in vain,
or evicted elsewhere by its writer, whose release is still to come. -/
def releasing (t : Terminal) : Int :=
  t.writer.releasing + (t.readers .live).releasing + (t.readers .history).releasing +
    t.closer.releasing

/-- What the budget counts on behalf of the terminal. -/
def account (t : Terminal) : Int := t.buffer.resident + t.writer.reservation + t.releasing

end Terminal

/-- The chunk a writer carries once the local check has let it through. -/
def Writer.admitted : Writer → Option WriteJob
  | .reserve w | .lockBudget w | .evict _ _ w | .evictRelease _ _ _ w | .retry w | .refused w
  | .reserved w => some w
  | _ => none

/-- The candidates an evicting writer has left. -/
def Writer.candidates : Writer → List Nat
  | .evict _ candidates _ | .evictRelease _ _ candidates _ => candidates
  | _ => []

/-- The local bounds. An admitted chunk fits: only the writer itself adds bytes
to its buffer. -/
structure Terminal.Bounded (t : Terminal) : Prop where
  capacity : t.buffer.resident ≤ t.buffer.config.capacityBytes
  room : ∀ w, t.writer.admitted = some w →
    t.buffer.resident + w.chunk.length ≤ t.buffer.config.capacityBytes
  writer : 0 ≤ t.writer.releasing
  readers : ∀ c, 0 ≤ (t.readers c).releasing
  closer : 0 ≤ t.closer.releasing
  notClosed : t.buffer.closed = false → t.closer = .idle

section Share

variable {t t' : Terminal} {b' : OutputBuffer} {w : WriteJob} {c : Consumer} {n : Int}
  {reader : Reader} {writer : Writer} {handed : Consumer → List Handed}

theorem Writer.reservation_nonneg (writer : Writer) : 0 ≤ writer.reservation := by
  cases writer <;> simp [reservation]

namespace Terminal

theorem Ok.resident_nonneg (h : t.Ok) : 0 ≤ t.buffer.resident := by
  rw [h.linked.resident]
  exact Int.natCast_nonneg _

theorem Bounded.releasing_nonneg (h : t.Bounded) : 0 ≤ t.releasing := by
  have h₁ := h.writer
  have h₂ := h.readers .live
  have h₃ := h.readers .history
  have h₄ := h.closer
  simp only [releasing]
  omega

theorem account_nonneg (hok : t.Ok) (h : t.Bounded) : 0 ≤ t.account := by
  have h₁ := hok.resident_nonneg
  have h₂ := t.writer.reservation_nonneg
  have h₃ := h.releasing_nonneg
  simp only [account]
  omega

/-- A region run by a consumer's loop, or nobody's: bytes only leave the buffer. -/
theorem Bounded.consume (h : t.Bounded) (hconfig : b'.config = t.buffer.config)
    (hclosed : b'.closed = t.buffer.closed) (hres : b'.resident ≤ t.buffer.resident)
    (hrel : 0 ≤ reader.releasing) :
    Bounded { t with
      buffer := b', readers := update t.readers c reader, handed := handed } := by
  refine ⟨hconfig ▸ hres.trans h.capacity, fun w hw => ?_, h.writer, fun d => ?_, h.closer,
    fun hc => h.notClosed (hclosed ▸ hc)⟩
  · have := h.room w hw
    show b'.resident + _ ≤ b'.config.capacityBytes
    rw [hconfig]
    omega
  · rcases eq_or_ne d c with rfl | hd
    · simpa using hrel
    · simpa [hd] using h.readers d

theorem account_consume (t : Terminal) (c : Consumer) (b' : OutputBuffer)
    (reader : Reader) (handed : Consumer → List Handed) :
    account { t with
      buffer := b', readers := update t.readers c reader, handed := handed } =
    t.account - (t.buffer.resident + (t.readers c).releasing) +
      (b'.resident + reader.releasing) := by
  cases c <;> simp [account, releasing] <;> ring

/-- What a step does to a terminal's share: it takes `n` bytes out and leaves
the bounds. -/
structure Balanced (t t' : Terminal) (n : Int) : Prop where
  account : t'.account = t.account - n
  bounded : t'.Bounded

section

variable (h : t.Bounded)
include h

theorem Balanced.refl : t.Balanced t 0 := ⟨by ring, h⟩

/-- A region run by the writer takes `n` bytes out of the share. -/
theorem Bounded.balanced_write {accepted : List UInt8}
    (hconfig : b'.config = t.buffer.config) (hclosed : b'.closed = t.buffer.closed)
    (hcap : b'.resident ≤ t.buffer.config.capacityBytes) (hroom : ∀ w, writer.admitted = some w →
      b'.resident + w.chunk.length ≤ t.buffer.config.capacityBytes) (hrel : 0 ≤ writer.releasing)
    (hshare : b'.resident + (writer.reservation + writer.releasing) + n =
      t.buffer.resident + (t.writer.reservation + t.writer.releasing)) :
    t.Balanced { t with buffer := b', writer := writer, accepted := accepted } n := by
  refine ⟨?_, hconfig ▸ hcap, fun w hw => hconfig ▸ hroom w hw, hrel, h.readers, h.closer,
    fun hc => h.notClosed (hclosed ▸ hc)⟩
  simp only [account, releasing]
  omega

/-- A move of the writer that leaves the buffer alone and admits nothing new. -/
theorem Bounded.balanced_setWriter
    (hroom : writer.admitted = none ∨ writer.admitted = t.writer.admitted)
    (hrel : 0 ≤ writer.releasing) (hshare : writer.reservation + writer.releasing + n =
      t.writer.reservation + t.writer.releasing) :
    t.Balanced { t with writer := writer } n := by
  refine h.balanced_write rfl rfl h.capacity (fun w hw => ?_) hrel (by omega)
  rcases hroom with hnone | hsame
  · rw [hnone] at hw
    cases hw
  · exact h.room w (hsame ▸ hw)

omit h in
theorem nextChunk_idle (t : Terminal) (payload : List UInt8) :
    (t.nextChunk payload).reservation = 0 ∧ (t.nextChunk payload).releasing = 0 ∧
      (t.nextChunk payload).admitted = none ∧ (t.nextChunk payload).candidates = [] := by
  unfold nextChunk
  split <;> exact ⟨rfl, rfl, rfl, rfl⟩

/-- A refused chunk becomes a gap. `b` is the buffer, or what an earlier drop
that freed nothing made of it. -/
theorem Bounded.balanced_dropIncoming {b : OutputBuffer} (hb : b.Linked)
    (hres : b.resident = t.buffer.resident) (hconfig : b.config = t.buffer.config)
    (hclosed : b.closed = t.buffer.closed)
    (hold : t.writer.reservation + t.writer.releasing = 0) :
    t.Balanced (t.dropIncoming b w) 0 := by
  obtain ⟨hq, -⟩ := dropIncoming_spec hb w.chunk
  have hfreed := hq.freed_nonneg
  have hcap := h.capacity
  have hleft := hq.resident
  refine h.balanced_write (hq.config.trans hconfig) (hq.closed.trans hclosed) (by omega) nofun
    hfreed ?_
  rw [hold]
  simp only [reservation, Writer.releasing]
  omega

theorem Bounded.balanced_gate (hok : t.Ok) (hw : t.writer = .gate w) : t.Balanced (t.gate w) 0 := by
  have hold : t.writer.reservation + t.writer.releasing = 0 := by rw [hw]; rfl
  unfold Terminal.gate
  dsimp only
  split
  · split
    · have hq := dropOldest_quiet hok.linked w.chunk.length
      have hleft := hq.resident
      split
      · next hnone =>
        exact h.balanced_dropIncoming hq.linked (by omega) hq.config hq.closed hold
      have hfreed := hq.freed_nonneg
      have hcap := h.capacity
      refine h.balanced_write hq.config hq.closed (by omega) nofun hfreed ?_
      rw [hold]
      simp only [reservation, Writer.releasing]
      omega
    · exact .refl h
  next hfull =>
  split
  · exact h.balanced_setWriter (.inl rfl) le_rfl hold.symm
  next hopen =>
  split
  · obtain ⟨h₁, h₂, h₃, -⟩ := t.nextChunk_idle w.rest
    exact h.balanced_write rfl rfl h.capacity (by simp [h₃]) h₂.ge (by omega)
  next hactive =>
  -- open, with a reader, and still not over capacity: the chunk fits
  refine h.balanced_write rfl rfl h.capacity (fun w' hw' => ?_) le_rfl
    (by rw [hold]; exact Int.add_zero _)
  obtain rfl := Option.some.inj hw'
  have hactive : t.buffer.hasActiveConsumer = true := by simpa using hactive
  simp only [Bool.or_eq_true, not_or, Bool.not_eq_true] at hopen
  simpa [hopen.1, hopen.2, hactive] using hfull

/-- `reserve` up to the budget. -/
theorem Bounded.balanced_tryReserve (hw : t.writer = .reserve w) :
    t.Balanced (t.tryReserve w) 0 := by
  unfold tryReserve
  split
  · next hnil =>
    exact h.balanced_setWriter (.inr (by rw [hw]; rfl)) le_rfl
      (by rw [hw]; simp [reservation, Writer.releasing, hnil])
  · split <;> exact h.balanced_setWriter (.inr (by rw [hw]; rfl)) le_rfl (by rw [hw]; rfl)

/-- `writeChunk` after a refused reservation. -/
theorem Bounded.balanced_refuse (hok : t.Ok) (hw : t.writer = .refused w) :
    t.Balanced (t.refuse w) 0 := by
  have hold : t.writer.reservation + t.writer.releasing = 0 := by rw [hw]; rfl
  unfold refuse
  split
  · exact h.balanced_setWriter (.inl rfl) le_rfl hold.symm
  · exact h.balanced_dropIncoming hok.linked rfl rfl rfl hold

/-- `writeChunk` with its bytes reserved: they are linked, or given back. -/
theorem Bounded.balanced_append (hok : t.Ok) (hw : t.writer = .reserved w) :
    t.Balanced (t.append w) 0 := by
  have hold : t.writer.reservation + t.writer.releasing = w.chunk.length := by
    rw [hw]
    exact Int.add_zero _
  unfold Terminal.append
  split
  · refine h.balanced_setWriter (.inl rfl) (Int.natCast_nonneg _) ?_
    rw [hold]
    simp [reservation, Writer.releasing]
  · have ha := append_appends hok.linked w.chunk
    have hfreed := ha.freed_nonneg
    have hleft := ha.resident
    have hroom := h.room w (by rw [hw]; rfl)
    refine h.balanced_write ha.config ha.closed (by omega) nofun hfreed ?_
    rw [hold]
    simp only [reservation, Writer.releasing]
    omega

/-- A completion: the bytes freed are about to be released. -/
theorem Bounded.balanced_completed {r : OutputBuffer × Int}
    (hq : Quiet t.buffer r.1 r.2) (hidle : (t.readers c).releasing = 0)
    (err : Option String) (handler : Bool) : t.Balanced (t.completed c r err handler) 0 := by
  have hfreed := hq.freed_nonneg
  refine ⟨?_, h.consume hq.config hq.closed (by rw [hq.resident]; omega) hfreed⟩
  have hshare := t.account_consume c r.1 (.release r.2 err.isSome handler) t.handed
  rw [hq.resident, hidle] at hshare
  refine hshare.trans ?_
  simp only [Reader.releasing]
  ring

/-- A region of a consumer's loop that frees nothing. -/
theorem Bounded.balanced_consume (hkeeps : Keeps t.buffer b')
    (hidle : (t.readers c).releasing = 0) (hrel : reader.releasing = 0) : t.Balanced { t with
      buffer := b', readers := update t.readers c reader, handed := handed } 0 := by
  refine ⟨?_, h.consume hkeeps.config hkeeps.closed hkeeps.resident.le hrel.ge⟩
  rw [account_consume, hkeeps.resident, hidle, hrel]
  ring

theorem Bounded.balanced_next (hidle : t.readers c = .idle) : t.Balanced (t.next c) 0 := by
  have hzero : (t.readers c).releasing = 0 := by rw [hidle]; rfl
  have hkeeps := (next_own t.buffer c).toKeeps
  unfold next
  rcases hnext : t.buffer.next c with ⟨b', r⟩
  rw [hnext] at hkeeps
  cases r with
  | wait => exact .refl h
  | stop => exact h.balanced_consume (.refl _) hzero rfl
  | gap g | batch batch => exact h.balanced_consume hkeeps hzero rfl

theorem Bounded.balanced_start (hready : t.readers c = .ready) : t.Balanced (t.start c) 0 := by
  have hzero : (t.readers c).releasing = 0 := by rw [hready]; rfl
  unfold start OutputBuffer.start
  dsimp only
  split
  · exact .refl h
  split
  · exact .refl h
  · exact h.balanced_consume (Own.toKeeps (own_setConsumer (.inl ⟨rfl, rfl⟩))) hzero rfl

theorem Bounded.balanced_close (hok : t.Ok)
    (hopen : t.buffer.closed = false) : t.Balanced t.close 0 := by
  have hr := close_region hok.linked
  have hfreed := hr.freed_nonneg
  have hidle := h.notClosed hopen
  have hcap := h.capacity
  refine ⟨?_, ?_, fun w hw => ?_, h.writer, h.readers, hfreed, fun hc => ?_⟩
  · simp only [close, account, releasing, hidle, hr.resident,
      Closer.releasing]
    ring
  · simp only [close, hr.config, hr.resident]
    omega
  · have hroom := h.room w hw
    simp only [close, hr.config, hr.resident]
    omega
  · exact absurd (t.buffer.close_closed.symm.trans hc) (by decide)

end

/-- A step of the terminal's goroutines leaves its share alone. -/
theorem Step.balanced (hstep : Step t t') (hok : t.Ok) (h : t.Bounded) : t.Balanced t' 0 := by
  cases hstep with
  | write payload hw =>
    obtain ⟨h₁, h₂, h₃, -⟩ := t.nextChunk_idle payload
    exact h.balanced_setWriter (.inl h₃) h₂.ge (by rw [hw, h₁, h₂]; rfl)
  | gate hw => exact h.balanced_gate hok hw
  | tryReserve hw => exact h.balanced_tryReserve hw
  | noCandidate hw =>
    exact h.balanced_setWriter (.inr (by rw [hw]; rfl)) le_rfl (by rw [hw]; rfl)
  | refuse hw => exact h.balanced_refuse hok hw
  | append hw => exact h.balanced_append hok hw
  | start c hready => exact h.balanced_start hready
  | next hidle => exact h.balanced_next hidle
  | completeBatch err handler hreader =>
    exact h.balanced_completed (completeBatch_region hok.linked _ _ err handler).1
      (by rw [hreader]; rfl) err handler
  | completeGap err handler hreader =>
    exact h.balanced_completed (completeGap_region hok.linked _ _ err handler).1
      (by rw [hreader]; rfl) err handler
  | handled hfailing =>
    exact h.balanced_consume (Own.toKeeps (own_setConsumer (.inl ⟨rfl, rfl⟩)))
      (by rw [hfailing]; rfl) rfl
  | sealBuffer =>
    exact ⟨by simp [account, releasing, OutputBuffer.sealBuffer], { h with }⟩
  | close hopen => exact h.balanced_close hok hopen

/-- A release takes from the share what it gives back. -/
theorem ReleaseStep.balanced (hstep : ReleaseStep t n t') (h : t.Bounded) :
    t.Balanced t' n ∧ 0 ≤ n := by
  cases hstep with
  | gate hw =>
    have hrel := h.writer
    rw [hw] at hrel
    exact ⟨h.balanced_setWriter (.inl rfl) le_rfl (by rw [hw]; rfl), hrel⟩
  | @evicted freed remaining candidates w hw =>
    have hrel := h.writer
    rw [hw] at hrel
    refine ⟨?_, hrel⟩
    split <;> exact h.balanced_setWriter (.inr (by rw [hw]; rfl)) le_rfl (by rw [hw]; rfl)
  | @finish freed ok rest hw =>
    have hrel := h.writer
    rw [hw] at hrel
    obtain ⟨h₁, h₂, h₃, -⟩ := t.nextChunk_idle rest
    refine ⟨?_, hrel⟩
    split
    · exact h.balanced_setWriter (.inl h₃) h₂.ge (by rw [hw, h₁, h₂]; rfl)
    · exact h.balanced_setWriter (.inl rfl) le_rfl (by rw [hw]; rfl)
  | @reader c freed err handler hr =>
    have hrel := h.readers c
    have hnew : (if !err then Reader.idle else if handler then .failing else .finished).releasing
        = 0 := by
      split
      · rfl
      · split <;> rfl
    rw [hr] at hrel
    refine ⟨⟨?_, h.consume rfl rfl le_rfl hnew.ge⟩, hrel⟩
    have hshare := t.account_consume c t.buffer
      (if !err then .idle else if handler then .failing else .finished) t.handed
    rw [hr, hnew] at hshare
    refine hshare.trans ?_
    simp only [Reader.releasing]
    ring
  | closer hc =>
    have hrel := h.closer
    rw [hc] at hrel
    refine ⟨⟨?_, h.capacity, h.room, h.writer, h.readers, le_rfl, fun hopen => ?_⟩, hrel⟩
    · simp only [account, releasing, hc, Closer.releasing]
      ring
    · have hidle := h.notClosed hopen
      rw [hc] at hidle
      cases hidle

/-- Candidates for eviction are only picked at the budget. -/
theorem Step.candidates (hstep : Step t t') :
    ∀ j ∈ t'.writer.candidates, j ∈ t.writer.candidates := by
  have hnext : ∀ payload, ∀ j ∈ (t.nextChunk payload).candidates, j ∈ t.writer.candidates := by
    intro payload j hj
    rw [(t.nextChunk_idle payload).2.2.2] at hj
    cases hj
  cases hstep with
  | write payload => exact hnext payload
  | gate hw =>
    unfold Terminal.gate
    dsimp only
    split
    · split
      · split <;> simp [dropIncoming, candidates]
      · exact fun _ hj => hj
    split
    · simp [candidates]
    split
    · exact hnext _
    · simp [candidates]
  | tryReserve hw =>
    unfold Terminal.tryReserve
    split
    · simp [candidates]
    · split <;> simp [candidates]
  | noCandidate hw => simp [candidates]
  | refuse hw =>
    unfold Terminal.refuse
    split <;> simp [dropIncoming, candidates]
  | append hw =>
    unfold Terminal.append
    split <;> simp [candidates]
  | start c =>
    unfold Terminal.start
    dsimp only
    split <;> exact fun _ hj => hj
  | @next c _ =>
    unfold Terminal.next
    rcases t.buffer.next c with ⟨b', r⟩
    cases r <;> exact fun _ hj => hj
  | completeBatch | completeGap | handled | sealBuffer | close =>
    exact fun _ hj => hj

theorem ReleaseStep.candidates (hstep : ReleaseStep t n t') :
    ∀ j ∈ t'.writer.candidates, j ∈ t.writer.candidates := by
  cases hstep with
  | gate hw => simp [candidates]
  | evicted hw =>
    rw [hw]
    split <;> simp [candidates]
  | @finish freed ok rest hw =>
    split
    · rw [(t.nextChunk_idle rest).2.2.2]
      simp
    · simp [candidates]
  | reader hr | closer hc => exact fun _ hj => hj

end Terminal

end Share

/-! ## The budget over whole runs -/

namespace System

variable {s s' : System} {t : Terminal} {i : Nat} {w : WriteJob} {n : Int} {writer : Writer}

/-- What the terminals account for together. -/
def total (s : System) : Int := ∑ i ∈ range s.count, (s.terminals i).account

/-- The invariant of the accounting. -/
structure Accounted (s : System) : Prop where
  ok : s.Ok
  bounded : ∀ i, (s.terminals i).Bounded
  total : s.budget.resident = s.total
  limit : s.budget.resident ≤ s.budget.maxBytes
  registered : ∀ j ∈ s.budget.buffers, j < s.count
  candidates : ∀ i, ∀ j ∈ (s.terminals i).writer.candidates, j < s.count

theorem total_setTerminal (hi : i < s.count) (t : Terminal) :
    (s.setTerminal i t).total = s.total - (s.terminals i).account + t.account := by
  have hmem : i ∈ range s.count := mem_range.2 hi
  have hcomp : ∀ j, (update s.terminals i t j).account =
      update (fun j => (s.terminals j).account) i t.account j := by
    intro j
    rcases eq_or_ne j i with rfl | hj
    · simp
    · simp [hj]
  have hnew : (s.setTerminal i t).total =
      t.account + ∑ j ∈ range s.count \ {i}, (s.terminals j).account := by
    show ∑ j ∈ range s.count, (update s.terminals i t j).account = _
    rw [sum_congr rfl fun j _ => hcomp j, sum_update_of_mem hmem]
  have hold : s.total =
      (s.terminals i).account + ∑ j ∈ range s.count \ {i}, (s.terminals j).account :=
    sum_eq_add_sum_sdiff_singleton_of_mem hmem _
  rw [hnew, hold]
  ring

section

variable (h : s.Accounted) (hi : i < s.count)

include h hi

theorem Accounted.account_le : (s.terminals i).account ≤ s.budget.resident := by
  rw [h.total]
  exact single_le_sum (f := fun j => (s.terminals j).account)
    (fun j _ => Terminal.account_nonneg (h.ok j) (h.bounded j)) (mem_range.2 hi)

/-- A terminal gives `n` bytes of its share back to the budget (takes them, if
`n` is negative). -/
theorem Accounted.move {budget : ResidentBudget}
    (ht : (s.terminals i).Balanced t n) (hok : t.Ok)
    (hcand : ∀ j ∈ t.writer.candidates, j < s.count)
    (hres : budget.resident = s.budget.resident - n) (hlimit : budget.resident ≤ budget.maxBytes)
    (hreg : ∀ j ∈ budget.buffers, j < s.count) :
    Accounted { s.setTerminal i t with budget := budget } where
  ok := h.ok.setTerminal i hok
  bounded j := by
    rcases eq_or_ne j i with rfl | hj
    · simpa [setTerminal] using ht.bounded
    · simpa [setTerminal, hj] using h.bounded j
  total := by
    show budget.resident = (s.setTerminal i t).total
    rw [total_setTerminal hi, hres, ht.account, h.total]
    ring
  limit := hlimit
  registered := hreg
  candidates j := by
    rcases eq_or_ne j i with rfl | hj
    · simpa [setTerminal] using hcand
    · simpa [setTerminal, hj] using h.candidates j

/-- A writer at the budget moves on, and takes bytes from it if it gets any. -/
theorem Accounted.moveWriter {budget : ResidentBudget}
    (hroom : writer.admitted = (s.terminals i).writer.admitted) (hrel : 0 ≤ writer.releasing)
    (hshare : writer.reservation + writer.releasing + n =
      (s.terminals i).writer.reservation + (s.terminals i).writer.releasing)
    (hcand : ∀ j ∈ writer.candidates, j < s.count)
    (hres : budget.resident = s.budget.resident - n) (hlimit : budget.resident ≤ budget.maxBytes)
    (hreg : budget.buffers = s.budget.buffers) :
    Accounted { s.setWriter i writer with budget := budget } :=
  h.move hi ((h.bounded i).balanced_setWriter (.inr hroom) hrel hshare)
    ((h.ok i).setWriter writer _) hcand hres hlimit (hreg ▸ h.registered)

theorem Accounted.release
    (hstep : Terminal.ReleaseStep (s.terminals i) n t) :
    0 ≤ s.budget.resident - n ∧ (s.budget.release n).resident = s.budget.resident - n := by
  obtain ⟨hbal, hn⟩ := hstep.balanced (h.bounded i)
  have hafter := Terminal.account_nonneg (hstep.ok (h.ok i)) hbal.bounded
  have hshare := h.account_le hi
  rw [hbal.account] at hafter
  refine ⟨by omega, ?_⟩
  unfold ResidentBudget.release
  split
  · omega
  · dsimp only
    rw [if_neg (by omega)]

end

open ResidentBudget

theorem release_fields (budget : ResidentBudget) (n : Int) :
    (budget.release n).maxBytes = budget.maxBytes ∧ (budget.release n).buffers = budget.buffers := by
  unfold release
  split <;> exact ⟨rfl, rfl⟩

theorem Accounted.reserve (h : s.Accounted) (hi : i < s.count)
    (hw : (s.terminals i).writer = .lockBudget w ∨ (s.terminals i).writer = .retry w)
    (hfits : s.budget.fits w.chunk.length = true) :
    Accounted { s.setWriter i (.reserved w) with budget := s.budget.add w.chunk.length } := by
  refine h.moveWriter (n := -w.chunk.length) hi ?_ le_rfl ?_ nofun (by simp [add])
    (by simpa [fits, add] using hfits) rfl
  · rcases hw with hw | hw <;> rw [hw] <;> rfl
  · rcases hw with hw | hw <;> rw [hw] <;> simp [reservation, releasing]

theorem dropForAggregate_quiet {b : OutputBuffer} (hb : b.Linked) (required : Int) :
    Quiet b (dropForAggregate b required).1 (dropForAggregate b required).2 := by
  unfold dropForAggregate
  split
  · exact .refl hb
  · exact dropOldest_quiet hb required

/-- The candidate's side of an eviction: the bytes leave its share. -/
theorem dropForAggregate_balanced (hok : t.Ok) (h : t.Bounded) (required : Int) :
    t.Balanced { t with buffer := (dropForAggregate t.buffer required).1 }
      (dropForAggregate t.buffer required).2 := by
  have hq := dropForAggregate_quiet hok.linked required
  have hfreed := hq.freed_nonneg
  have hcap := h.capacity
  have hleft := hq.resident
  refine h.balanced_write hq.config hq.closed (by omega) (fun w hw => ?_) h.writer (by omega)
  have hroom := h.room w hw
  omega

/-- An eviction moves bytes from the candidate's share to the writer's. The
candidate may be the writer's own buffer. -/
theorem Accounted.evict {j : Nat} {remaining : Int} {candidates : List Nat} (h : s.Accounted)
    (hi : i < s.count) (hw : (s.terminals i).writer = .evict remaining (j :: candidates) w)
    {r : OutputBuffer × Int} (hr : r = dropForAggregate (s.terminals j).buffer remaining) :
    ((s.setTerminal j { s.terminals j with buffer := r.1 }).setWriter i
      (.evictRelease r.2 (remaining - r.2) candidates w)).Accounted := by
  have hj : j < s.count := h.candidates i j (by simp [hw, Writer.candidates])
  have hdrop := dropForAggregate_balanced (h.ok j) (h.bounded j) remaining
  have hfreed := (dropForAggregate_quiet (h.ok j).linked remaining).freed_nonneg
  have hdropOk : Terminal.Ok { s.terminals j with buffer := r.1 } := by
    rw [hr]
    unfold dropForAggregate
    split
    · exact h.ok j
    · exact (h.ok j).dropOldest remaining
  rw [← hr] at hdrop hfreed
  -- the candidate gives the bytes to the budget and the writer takes them, even from itself
  have hlimit := h.limit
  have hgiven : Accounted { s.setTerminal j { s.terminals j with buffer := r.1 } with
      budget := { s.budget with resident := s.budget.resident - r.2 } } :=
    h.move hj hdrop hdropOk (h.candidates j) rfl (by dsimp only; omega) h.registered
  have hwriter : ((s.setTerminal j { s.terminals j with buffer := r.1 }).terminals i).writer =
      .evict remaining (j :: candidates) w := by
    rcases eq_or_ne i j with rfl | hk
    · simpa [setTerminal] using hw
    · simpa [setTerminal, hk] using hw
  refine hgiven.moveWriter (n := -r.2) hi ?_ hfreed ?_ (fun k hk => ?_) ?_ hlimit rfl
  · exact (congrArg admitted hwriter).symm
  · simp [hwriter, reservation, releasing]
  · exact h.candidates i k (by rw [hw]; exact List.mem_cons_of_mem _ hk)
  · show s.budget.resident = s.budget.resident - r.2 - -r.2
    ring

theorem newTerminal_account (config : BufferConfig) (historyEnabled : Bool) :
    (newTerminal config historyEnabled).account = 0 := rfl

theorem newTerminal_bounded (config : BufferConfig) (historyEnabled : Bool) :
    (newTerminal config historyEnabled).Bounded where
  capacity := by
    have hvalid := config.normalized_valid.1
    simp only [newTerminal, newOutputBuffer, minCapacityBytes] at hvalid ⊢
    omega
  room w hw := by cases hw
  writer := le_rfl
  readers _ := le_rfl
  closer := le_rfl
  notClosed _ := rfl

theorem register_fields (budget : ResidentBudget) (i : Nat) :
    (budget.register i).resident = budget.resident ∧
      (budget.register i).maxBytes = budget.maxBytes := by
  unfold register
  split <;> exact ⟨rfl, rfl⟩

theorem Step.accounted (hstep : Step s s') (h : s.Accounted) : s'.Accounted := by
  cases hstep with
  | newBuffer config historyEnabled =>
    have hcount : ∀ {j}, j < s.count → j < s.count + 1 := fun h => Nat.lt_succ_of_lt h
    refine ⟨h.ok.setTerminal _ (newTerminal_ok _ _), fun i => ?_, ?_, ?_, fun j hj => ?_, fun i => ?_⟩
    · rcases eq_or_ne i s.count with rfl | hi
      · simpa using newTerminal_bounded config historyEnabled
      · simpa [hi] using h.bounded i
    · simp only [total, sum_range_succ, update_self,
        newTerminal_account, Int.add_zero, register_fields]
      rw [h.total]
      refine sum_congr rfl fun i hi => ?_
      rw [update_of_ne (mem_range.1 hi).ne]
    · simpa [register_fields] using h.limit
    · unfold register at hj
      split at hj
      · exact hcount (h.registered j hj)
      rcases List.mem_cons.1 hj with rfl | hj
      · exact Nat.lt_succ_self _
      · exact hcount (h.registered j hj)
    · rcases eq_or_ne i s.count with rfl | hi
      · simp [newTerminal, candidates]
      · intro j hj
        simp only [update_of_ne hi] at hj
        exact hcount (h.candidates i j hj)
  | closeBudget => exact { h with }
  | terminal hi ht =>
    exact h.move hi (ht.balanced (h.ok _) (h.bounded _)) (ht.ok (h.ok _))
      (fun j hj => h.candidates _ j (ht.candidates j hj)) (by ring) h.limit h.registered
  | release hi ht =>
    obtain ⟨hbal, hn⟩ := ht.balanced (h.bounded _)
    obtain ⟨-, hres⟩ := h.release hi ht
    obtain ⟨hmax, hbuf⟩ := release_fields s.budget _
    have hlimit := h.limit
    exact h.move hi hbal (ht.ok (h.ok _)) (fun j hj => h.candidates _ j (ht.candidates j hj)) hres
      (by rw [hmax]; omega) (hbuf ▸ h.registered)
  | budgetClosed hi hw | waitBudget hi hw | refuse hi hw =>
    exact h.moveWriter hi (by rw [hw]; rfl) le_rfl (by rw [hw]; rfl) (by rintro _ ⟨⟩)
      (sub_zero _).symm h.limit rfl
  | reserve hi hw _ hfits => exact h.reserve hi hw hfits
  | evictFrom hi hw _ _ _ hcand =>
    refine h.moveWriter hi (by rw [hw]; rfl) le_rfl (by rw [hw]; rfl) (fun j hj => ?_)
      (sub_zero _).symm h.limit rfl
    exact h.registered j (List.mem_filter.1 (hcand.mem_iff.1 hj)).1
  | evict hi hw hr hs =>
    subst hs
    exact h.evict hi hw hr
  | @unregister i hi hc =>
    have hb := h.bounded i
    refine h.move (n := 0) hi ⟨?_, hb.capacity, hb.room, hb.writer, hb.readers, le_rfl, fun hopen => ?_⟩
      ((h.ok i).setWriter _ _) (h.candidates i) (by simp [ResidentBudget.unregister]) h.limit
      (fun j hj => h.registered j (List.mem_filter.1 hj).1)
    · simp [Terminal.account, Terminal.releasing, hc, Closer.releasing]
    · have hidle := hb.notClosed hopen
      rw [hc] at hidle
      cases hidle

theorem Reachable.accounted (h : s.Reachable) : s.Accounted := by
  obtain ⟨maxBytes, hrun⟩ := h
  induction hrun with
  | refl =>
    refine ⟨fun _ => newTerminal_ok _ _, fun _ => newTerminal_bounded _ _, rfl, ?_, by simp [initial,
      newResidentBudget], fun i => by simp [initial, newTerminal, candidates]⟩
    simp only [initial, newResidentBudget]
    split <;> omega
  | tail _ hstep ih => exact hstep.accounted ih

/-! ## The accounting law -/

/-- No terminal has bytes reserved or about to be released. -/
def Settled (s : System) : Prop :=
  ∀ i < s.count, (s.terminals i).writer.reservation = 0 ∧ (s.terminals i).releasing = 0

/-- Every buffer is closed and has no batch in flight. -/
def Drained (s : System) : Prop :=
  ∀ i < s.count, (s.terminals i).buffer.closed = true ∧
    ∀ c, ((s.terminals i).buffer.consumers c).inFlight = none

/-- The resident counters of the buffers and of their budget. -/
structure ResidentLaw (s : System) : Prop where
  linked : ∀ i, (s.terminals i).buffer.resident = linkedBytes (s.terminals i).buffer.nodes
  capacity : ∀ i, (s.terminals i).buffer.resident ≤ (s.terminals i).buffer.config.capacityBytes
  total : s.budget.resident = ∑ i ∈ range s.count,
    ((s.terminals i).buffer.resident + (s.terminals i).writer.reservation +
      (s.terminals i).releasing)
  limit : s.budget.resident ≤ s.budget.maxBytes
  clamp : ∀ i n t, i < s.count → Terminal.ReleaseStep (s.terminals i) n t →
    0 ≤ s.budget.resident - n
  drained : s.Drained → s.Settled → s.budget.resident = 0

/-- A closed buffer without a batch in flight holds nothing. -/
theorem Accounted.resident_eq_zero (h : s.Accounted)
    (hclosed : (s.terminals i).buffer.closed = true)
    (hidle : ∀ c, ((s.terminals i).buffer.consumers c).inFlight = none) :
    (s.terminals i).buffer.resident = 0 := by
  have hok := h.ok i
  have hnone : ∀ c, pendingChunks c (s.terminals i).buffer.nodes = [] := by
    intro c
    obtain ⟨k, hk, -⟩ := hok.cursors c
    have hflight : k.flight = [] := by
      have := hk.inFlight
      rw [hidle c] at this
      simpa using this.symm
    rw [hk.pending, hflight, hk.inactive (hok.flags.closed hclosed c)]
    rfl
  have hnodes : (s.terminals i).buffer.nodes = [] := by
    refine List.eq_nil_iff_forall_not_mem.2 fun n hn => ?_
    have hwaits := hok.linked.waited n hn
    have hbit : ∀ c, n.pending c = false := by
      intro c
      rw [← Bool.not_eq_true]
      intro hp
      have hmem : n.toChunk ∈ pendingChunks c (s.terminals i).buffer.nodes :=
        List.mem_map_of_mem (List.mem_filter.2 ⟨hn, hp⟩)
      rw [hnone c] at hmem
      cases hmem
    simp [OutputNode.hasPending, hbit] at hwaits
  rw [hok.linked.resident, hnodes]
  rfl

/-- Resident accounting: in every state of every run the counters agree. -/
theorem resident_accounting (h : s.Reachable) : s.ResidentLaw := by
  have hinv := h.accounted
  refine ⟨fun i => (hinv.ok i).linked.resident, fun i => (hinv.bounded i).capacity, hinv.total,
    hinv.limit, fun i n t hi ht => (hinv.release hi ht).1, fun hdrained hsettled => ?_⟩
  rw [hinv.total]
  refine sum_eq_zero fun i hi => ?_
  obtain ⟨hclosed, hidle⟩ := hdrained i (mem_range.1 hi)
  obtain ⟨hres, hrel⟩ := hsettled i (mem_range.1 hi)
  rw [Terminal.account, hinv.resident_eq_zero hclosed hidle, hres, hrel]
  rfl

/-- A writer with a reservation of three bytes. -/
theorem resident_accounting_example :
    ∃ s : System, s.Reachable ∧ s.budget.resident = 3 ∧ (s.terminals 0).buffer.resident = 0 ∧
      s.ResidentLaw := by
  exact ⟨reserving.1, ⟨_, reserving.2⟩, rfl, rfl, resident_accounting ⟨_, reserving.2⟩⟩

/-- The budget lags behind the buffers. `Close` has unlinked three bytes and not
released them: the only buffer is closed and empty, no batch is in flight and
nothing is reserved, but the budget still counts the bytes. -/
theorem budget_lags :
    ∃ s : System, s.Reachable ∧ s.Drained ∧ s.budget.resident = 3 ∧
      ∑ i ∈ range s.count,
        ((s.terminals i).buffer.resident + (s.terminals i).writer.reservation) = 0 := by
  have h₆ := reserving.2.tail (.terminal (i := 0) (by decide) (.append rfl))
  have h₇ := h₆.tail (.terminal (i := 0) (by decide) (.close rfl))
  refine ⟨_, ⟨_, h₇⟩, fun i hi => ?_, rfl, ?_⟩
  · obtain rfl : i = 0 := Nat.lt_one_iff.1 hi
    exact ⟨rfl, fun c => by cases c <;> rfl⟩
  · rfl

end System

end Anytty.Output
