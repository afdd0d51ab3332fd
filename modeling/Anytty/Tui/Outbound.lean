import Mathlib

/-!
# The outbound writer of a session

Frames to the layout program go through a bounded queue that one goroutine writes out.
While there is room a frame is appended. When the queue is full, control and input frames
wait; a coalescible frame takes the place of the last queued one with its key, else of the
first coalescible one, else it is dropped.
-/

namespace Anytty.Tui

inductive OutputClass
  | control
  | reliable
  | coalescible
deriving DecidableEq, Repr

/-- A queued frame; its bytes are those of one message. -/
structure OutboundFrame (μ : Type) where
  message : μ
  outputClass : OutputClass
  coalesce : String
deriving DecidableEq, Repr

structure OutboundWriter (μ : Type) where
  queue : List (OutboundFrame μ)
  closed : Bool
  /-- The message that `run` has taken and is writing. -/
  writing : Option μ
  /-- What the program was sent. -/
  written : List μ
deriving DecidableEq, Repr

variable {μ : Type}

def newOutboundWriter : OutboundWriter μ := ⟨[], false, none, []⟩

/-- Change the first element that satisfies `p`. -/
def replaceFirst {α : Type} (p : α → Bool) (f : α → α) : List α → Option (List α)
  | [] => none
  | a :: as => if p a then some (f a :: as) else (replaceFirst p f as).map (a :: ·)

def OutboundFrame.isCoalescible (f : OutboundFrame μ) : Bool :=
  f.outputClass = .coalescible

/-- The queue after a coalescible frame met a full one. -/
def coalesced (queue : List (OutboundFrame μ)) (frame : OutboundFrame μ) : List (OutboundFrame μ) :=
  match replaceFirst (fun q => q.isCoalescible && q.coalesce = frame.coalesce)
      (fun q => { q with message := frame.message }) queue.reverse with
  | some changed => changed.reverse
  | none => (replaceFirst OutboundFrame.isCoalescible (fun _ => frame) queue).getD queue

inductive Enqueued (μ : Type)
  | accepted (w : OutboundWriter μ)
  /-- `io.ErrClosedPipe`. -/
  | closed
  /-- The caller waits for room. -/
  | waiting

/-- `enqueue` of a marshalled frame; a limit below 1 counts as 1. -/
def OutboundWriter.enqueue (limit : Nat) (w : OutboundWriter μ) (frame : OutboundFrame μ) :
    Enqueued μ :=
  if w.closed then .closed
  else if w.queue.length < max limit 1 then .accepted { w with queue := w.queue ++ [frame] }
  else if frame.isCoalescible then .accepted { w with queue := coalesced w.queue frame }
  else .waiting

/-- `run` takes the next frame. -/
def OutboundWriter.take (w : OutboundWriter μ) : OutboundWriter μ :=
  match w.writing, w.queue with
  | none, frame :: queue => { w with queue := queue, writing := some frame.message }
  | _, _ => w

/-- `run` finishes its write, which only an open pipe takes. -/
def OutboundWriter.write (pipeOpen : Bool) (w : OutboundWriter μ) : OutboundWriter μ :=
  match w.writing with
  | none => w
  | some message =>
    { w with writing := none, written := if pipeOpen then w.written ++ [message] else w.written }

def OutboundWriter.close (w : OutboundWriter μ) : OutboundWriter μ :=
  { w with closed := true, queue := [] }

/-- All messages that were accepted and not lost, in their order. -/
def OutboundWriter.pipeline (w : OutboundWriter μ) : List μ :=
  w.written ++ w.writing.toList ++ w.queue.map OutboundFrame.message

open OutboundWriter

section

variable (w : OutboundWriter μ)
include w

@[simp]
theorem pipeline_append (frame : OutboundFrame μ) :
    ({ w with queue := w.queue ++ [frame] } : OutboundWriter μ).pipeline =
      w.pipeline ++ [frame.message] := by
  simp [pipeline]

@[simp]
theorem pipeline_take : w.take.pipeline = w.pipeline := by
  unfold take
  split
  · next frame queue writing entries => simp [pipeline, writing, entries]
  · rfl

theorem written_take : w.take.written = w.written := by
  unfold take
  split <;> rfl

@[simp]
theorem pipeline_write : (w.write true).pipeline = w.pipeline := by
  unfold write
  split
  · rfl
  · next message writing => simp [pipeline, writing]

theorem written_write_closed : (w.write false).written = w.written := by
  unfold write
  split <;> rfl

omit w in
@[simp]
theorem queue_write (pipeOpen : Bool) (w : OutboundWriter μ) :
    (w.write pipeOpen).queue = w.queue := by
  unfold write
  split <;> rfl

omit w in
@[simp]
theorem closed_write (pipeOpen : Bool) (w : OutboundWriter μ) :
    (w.write pipeOpen).closed = w.closed := by
  unfold write
  split <;> rfl

omit w in
/-- A write loses at most what it was writing. -/
theorem pipeline_write_subset (pipeOpen : Bool) (w : OutboundWriter μ) :
    ∀ m ∈ (w.write pipeOpen).pipeline, m ∈ w.pipeline := by
  cases pipeOpen with
  | true => simp
  | false =>
    intro m member
    unfold write at member
    split at member
    · exact member
    next message writing =>
    simp only [pipeline, Option.toList_none, List.append_nil,
      Bool.false_eq_true, if_false, List.mem_append] at member ⊢
    exact member.imp_left .inl

@[simp]
theorem closed_take : w.take.closed = w.closed := by
  unfold take
  split <;> rfl

theorem queue_take_subset : ∀ q ∈ w.take.queue, q ∈ w.queue := by
  unfold take
  split
  · next queue =>
    intro q member
    rw [queue]
    exact List.mem_cons_of_mem _ member
  · exact fun _ member => member

theorem pipeline_close : w.close.pipeline = w.written ++ w.writing.toList := by
  simp [pipeline, close]

theorem written_prefix_pipeline : w.written <+: w.pipeline :=
  ⟨w.writing.toList ++ w.queue.map OutboundFrame.message, by simp [pipeline]⟩

end

/-- Only a coalescible frame is accepted without room. -/
theorem enqueue_accepted {limit : Nat} {w w' : OutboundWriter μ} {frame : OutboundFrame μ}
    (h : w.enqueue limit frame = .accepted w') :
    w.closed = false ∧
      (w' = { w with queue := w.queue ++ [frame] } ∨
        frame.isCoalescible = true ∧ ¬ w.queue.length < max limit 1 ∧
          w' = { w with queue := coalesced w.queue frame }) := by
  unfold enqueue at h
  split at h
  · cases h
  next opened =>
  refine ⟨by simpa using opened, ?_⟩
  split at h
  · cases h
    exact .inl rfl
  next full =>
  split at h
  · next coalescible =>
    cases h
    exact .inr ⟨coalescible, full, rfl⟩
  · cases h

/-! ### Coalescing -/

/-- What the first match was, and what it became. -/
theorem replaceFirst_eq_some {α : Type} {p : α → Bool} {f : α → α} {as bs : List α}
    (h : replaceFirst p f as = some bs) :
    ∃ before a after, as = before ++ a :: after ∧ bs = before ++ f a :: after ∧ p a = true := by
  induction as generalizing bs with
  | nil => cases h
  | cons a as ih =>
    unfold replaceFirst at h
    split at h
    · next found =>
      cases h
      exact ⟨[], a, as, rfl, rfl, found⟩
    · obtain ⟨rest, replaced, rfl⟩ := Option.map_eq_some_iff.mp h
      obtain ⟨before, b, after, rfl, rfl, found⟩ := ih replaced
      exact ⟨a :: before, b, after, rfl, rfl, found⟩

theorem replaceFirst_isSome {α : Type} {p : α → Bool} {f : α → α} {as : List α} {a : α}
    (member : a ∈ as) (found : p a = true) : (replaceFirst p f as).isSome := by
  induction as with
  | nil => cases member
  | cons b as ih =>
    unfold replaceFirst
    split
    · rfl
    next other =>
    rcases List.mem_cons.mp member with rfl | member
    · exact absurd found other
    · simpa using ih member

/-- A frame that meets one of its own key replaces only that one's message. -/
theorem coalesced_same {queue : List (OutboundFrame μ)} {frame : OutboundFrame μ}
    (same : ∃ q ∈ queue, q.isCoalescible ∧ q.coalesce = frame.coalesce) :
    ∃ before q after, queue = before ++ q :: after ∧
      (q.isCoalescible = true ∧ q.coalesce = frame.coalesce) ∧
      coalesced queue frame = before ++ { q with message := frame.message } :: after := by
  obtain ⟨q, member, coalescible, key⟩ := same
  have found : (replaceFirst (fun q => q.isCoalescible && q.coalesce = frame.coalesce)
      (fun q => { q with message := frame.message }) queue.reverse).isSome :=
    replaceFirst_isSome (List.mem_reverse.mpr member) (by simp [coalescible, key])
  obtain ⟨changed, replaced⟩ := Option.isSome_iff_exists.mp found
  obtain ⟨before, victim, after, split, result, hit⟩ := replaceFirst_eq_some replaced
  have sameKey : victim.isCoalescible = true ∧ victim.coalesce = frame.coalesce := by
    simpa using hit
  refine ⟨after.reverse, victim, before.reverse, ?_, sameKey, ?_⟩
  · rw [← List.reverse_reverse queue, split]
    simp
  · simp [coalesced, replaced, result]

end Anytty.Tui
