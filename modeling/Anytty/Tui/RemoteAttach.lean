import Anytty.Tui.RemotePty

/-!
# One attachment per remote view

A rebind opens a new attachment and leaves the old one to the daemon: `setPending` overwrites
`att`, and only what is in `att` is ever detached. Nor does `setPending` look at `closed` and
`detached`, which `rebindOne` has read some requests earlier. So a lost stream on a live
connection leaves two attachments, of which one is never detached (`rebind_leaks`).

`Careful` says when this does not happen: an attachment is opened only when none is left, and
handed over only while the view is open and attached. Along such runs each attachment of the
daemon has one owner (`Exclusive`), and at rest that is the view (`one_attachment`).
-/

namespace Anytty.Tui.Remote

open Function

/-- The condition on an event and the state before it. -/
def Host.Careful (h : Host) : Event → Prop
  | .openAttachment _ none => h.daemon = []
  | .publish i => ∀ initial a, h.binds i = some ⟨initial, .ready a⟩ →
      h.pty.closed = false ∧ h.pty.detached = false ∧ ∀ x ∈ h.daemon, x = a
  | .abort _ ok | .detachSent _ ok | .closeSent _ ok => ok = true ∨ h.daemon = []
  | .detach _ | .close _ => ∀ i, (h.releases i).attachment = none
  | _ => True

/-- The view, a bind or a release will use or detach the attachment. -/
def Host.Owns (h : Host) (x : Nat) : Prop :=
  (h.pty.att = some x ∧ h.pty.detached = false ∧ h.pty.closed = false) ∨
  (∃ i b, h.binds i = some b ∧ b.stage.attachment = some x) ∨
  ∃ i, (h.releases i).attachment = some x

structure Exclusive (h : Host) : Prop where
  single : h.daemon.length ≤ 1
  owned : ∀ x ∈ h.daemon, h.Owns x
  lone : ∀ i j, h.releases i ≠ .idle → h.releases j ≠ .idle → i = j
  pending : ∀ a, h.pty.pending = some a → h.pty.att = some a
  away : h.pty.detached = true → h.pty.att = none
  detaching : ∀ i a, h.releases i = .detaching a false → h.pty.detached = true
  closing : ∀ i a, h.releases i = .closing a → h.pty.closed = true
  detachReturned : h.detachReturned = true →
    (h.pty.detached = true ∨ h.pty.closed = true) ∧ ∀ i, (h.releases i).attachment = none
  closeReturned : h.closeReturned = true →
    h.pty.closed = true ∧ ∀ i, (h.releases i).attachment = none

section Steps

variable {h : Host} {i a : Nat} {r : Release} {answered : Bool}

section

variable (ok : Exclusive h)
include ok

theorem Exclusive.quiet {e : Event} {k : Host} (quiet : h.Quiet e k) : Exclusive k := by
  have same := quiet.custody
  simp only [Host.custody, Custody.mk.injEq] at same
  obtain ⟨daemon, binds, releases, _, att, detached, closed, detachRet, closeRet⟩ := same
  constructor <;> simp only [Host.Owns, daemon, binds, releases, att, detached, closed,
    detachRet, closeRet]
  exacts [ok.single, ok.owned, ok.lone, fun a pending => ok.pending a (quiet.pending a pending),
    ok.away, ok.detaching, ok.closing, ok.detachReturned, ok.closeReturned]

omit ok in
theorem exclusive_new : Exclusive newHost where
  single := Nat.zero_le _
  owned := by rintro x ⟨⟩
  lone := fun i _ busy => absurd rfl busy
  pending := by rintro a ⟨⟩
  away := nofun
  detaching := by rintro i a ⟨⟩
  closing := by rintro i a ⟨⟩
  detachReturned := nofun
  closeReturned := nofun

theorem Exclusive.daemon_cases : h.daemon = [] ∨ ∃ x, h.daemon = [x] := by
  have single := ok.single
  cases daemon : h.daemon with
  | nil => exact .inl rfl
  | cons x rest =>
    rw [daemon] at single
    have none : rest = [] := List.length_eq_zero_iff.mp (by simpa using single)
    exact .inr ⟨x, by rw [none]⟩

theorem Exclusive.send (a : Nat) (answered : Bool) : Exclusive (h.send a answered) := by
  have subset : ∀ x ∈ (h.send a answered).daemon, x ∈ h.daemon := by
    intro x member
    cases answered with
    | false => exact member
    | true => exact List.mem_of_mem_erase member
  have shorter : (h.send a answered).daemon.length ≤ h.daemon.length := by
    cases answered with
    | false => exact Nat.le_refl _
    | true => exact List.length_erase_le
  exact { ok with
    single := shorter.trans ok.single
    owned := fun x member => ok.owned x (subset x member) }

theorem Exclusive.sent (careful : answered = true ∨ h.daemon = []) :
    a ∉ (h.send a answered).daemon := by
  rcases ok.daemon_cases with daemon | ⟨x, daemon⟩
  · cases answered <;> simp [Host.send, daemon]
  obtain rfl : answered = true := careful.resolve_right (by rw [daemon]; rintro ⟨⟩)
  by_cases same : x = a
  · simp [Host.send, daemon, same]
  · simp [Host.send, daemon, same, Ne.symm same]

/-! ### Binds -/

/-- A bind moves on; its attachment must still have an owner. -/
theorem Exclusive.setBind {b : Option Bind}
    (keeps : ∀ x ∈ h.daemon, ∀ old, h.binds i = some old → old.stage.attachment = some x →
      (h.setBind i b).Owns x) : Exclusive (h.setBind i b) := by
  refine { ok with owned := fun x member => ?_ }
  rcases ok.owned x member with view | ⟨j, c, at_j, holds⟩ | release
  · exact .inl view
  · by_cases same : j = i
    · subst same
      exact keeps x member c at_j holds
    · exact .inr (.inl ⟨j, c, (setBind_of_ne h same b).trans at_j, holds⟩)
  · exact .inr (.inr release)

theorem Exclusive.keepBind {old new : Option Bind} (at_i : h.binds i = old)
    (same : heldBy new = heldBy old) : Exclusive (h.setBind i new) := by
  refine ok.setBind fun x _ b at_b holds => ?_
  have held : heldBy new = some x := by
    rw [same, ← at_i, at_b]
    exact holds
  obtain ⟨c, at_c, attachment⟩ := Option.bind_eq_some_iff.mp held
  exact .inr (.inl ⟨i, c, (setBind_self ..).trans at_c, attachment⟩)

theorem Exclusive.opened {initial : Bool} (careful : h.Careful (.openAttachment i none)) :
    Exclusive ({ h with daemon := h.opened :: h.daemon, opened := h.opened + 1 }.setStage i
      initial (.fetching h.opened)) := by
  have empty : h.daemon = [] := careful
  refine { ok with
    single := by simp [Host.setStage, Host.setBind, empty]
    owned := fun x member => ?_ }
  obtain rfl : x = h.opened := by simpa [Host.setStage, Host.setBind, empty] using member
  exact .inr (.inl ⟨i, _, update_self .., rfl⟩)

theorem Exclusive.aborted {initial notFound : Bool}
    (at_i : h.binds i = some ⟨initial, .aborting a notFound⟩)
    (careful : h.Careful (.abort i answered)) :
    Exclusive ((h.send a answered).setStage i initial (.failed notFound)) := by
  refine (ok.send a answered).setBind fun x member old at_old holds => ?_
  cases at_i.symm.trans at_old
  cases holds
  exact absurd member (ok.sent careful)

/-- The attachment goes from the bind to the view. -/
theorem Exclusive.published {initial : Bool} (at_i : h.binds i = some ⟨initial, .ready a⟩)
    (careful : h.Careful (.publish i)) :
    Exclusive ({ h with
      pty := h.pty.setPending a
      runner := if initial then .polling else h.runner }.setBind i none) := by
  obtain ⟨opened, attached, only⟩ := careful initial a at_i
  refine { ok with owned := ?_, pending := fun _ pending => pending, away := ?_ }
  · intro x member
    obtain rfl := only x member
    exact .inl ⟨rfl, attached, opened⟩
  · intro detached
    exact absurd (attached.symm.trans detached) (by decide)

/-! ### Releases -/

/-- While the view is open, a release has its attachment to send. -/
theorem Exclusive.idle (opened : h.pty.closed = false)
    (free : ∀ j, (h.releases j).attachment = none) (j : Nat) : h.releases j = .idle := by
  have none := free j
  cases release : h.releases j with
  | idle => rfl
  | detaching a superseded =>
    rw [release] at none
    cases none
  | closing a => exact absurd (opened.symm.trans (ok.closing j a release)) (by decide)

omit ok in
theorem attachment_supersede (r : Release) : r.supersede.attachment = r.attachment := by
  cases r <;> rfl

omit ok in
theorem supersede_idle (busy : r.supersede ≠ .idle) : r ≠ .idle := by
  rintro rfl
  exact busy rfl

omit ok in
theorem supersede_closing {a : Option Nat} (same : r.supersede = .closing a) : r = .closing a := by
  cases r with
  | idle | detaching => cases same
  | closing b => exact same

omit ok in
theorem supersede_detaching : r.supersede ≠ .detaching a false := by
  cases r <;> rintro ⟨⟩

omit ok in
theorem lone_update {releases : Nat → Release} (r : Release)
    (idle : ∀ j, j ≠ i → releases j = .idle) (j k : Nat)
    (busy : update releases i r j ≠ .idle) (busy' : update releases i r k ≠ .idle) :
    j = k := by
  have at_i : ∀ j, update releases i r j ≠ .idle → j = i := by
    intro j busy
    by_contra ne
    exact busy ((update_of_ne ne ..).trans (idle j ne))
  exact (at_i j busy).trans (at_i k busy').symm

namespace Exclusive

theorem others_idle (busy : h.releases i ≠ .idle) (j : Nat)
    (ne : j ≠ i) : h.releases j = .idle := by
  by_contra other
  exact ne (ok.lone j i other busy)

/-- A release takes over what the view used. -/
theorem owns_setRelease {p : RemotePTY}
    (idle : ∀ j, h.releases j = .idle) (takes : r.attachment = h.pty.att) :
    ∀ x ∈ h.daemon, (({ h with pty := p } : Host).setRelease i r).Owns x := by
  intro x member
  rcases ok.owned x member with ⟨view, _⟩ | bind | ⟨j, release⟩
  · refine .inr (.inr ⟨i, ?_⟩)
    have at_i : (({ h with pty := p } : Host).setRelease i r).releases i = r :=
      update_self ..
    rw [at_i, takes, view]
  · exact .inr (.inl bind)
  · rw [idle j] at release
    cases release

/-- `Detach` takes the attachment from the view, or has nothing to do. -/
theorem detach (careful : h.Careful (.detach i)) : Exclusive (h.detach i) := by
  have free : ∀ j, (h.releases j).attachment = none := careful
  unfold Host.detach
  split
  · exact ok
  cases away : h.pty.closed || h.pty.detached with
  | true =>
    simp only [RemotePTY.detach, away, if_true]
    refine { ok with detachReturned := fun _ => ⟨?_, free⟩ }
    exact (Bool.or_eq_true _ _ ▸ away : _ ∨ _).symm
  | false =>
    obtain ⟨opened, attached⟩ := Bool.or_eq_false_iff.mp away
    have idle := ok.idle opened free
    have noClose : h.closeReturned = true → False := fun returned =>
      absurd (opened.symm.trans (ok.closeReturned returned).1) (by decide)
    cases att : h.pty.att with
    | none =>
      simp only [RemotePTY.detach, away, att, Bool.false_eq_true, if_false]
      refine ⟨ok.single, ?_, ok.lone, by rintro a ⟨⟩, fun _ => rfl, fun _ _ _ => rfl,
        ok.closing, fun _ => ⟨.inl rfl, free⟩, fun returned => (noClose returned).elim⟩
      intro x member
      rcases ok.owned x member with ⟨view, _⟩ | bind | release
      · rw [att] at view
        cases view
      · exact .inr (.inl bind)
      · exact .inr (.inr release)
    | some a =>
      simp only [RemotePTY.detach, away, att, Bool.false_eq_true, if_false]
      have noDetach : h.detachReturned = true → False := fun returned => by
        rcases (ok.detachReturned returned).1 with detached | closed
        · exact absurd (attached.symm.trans detached) (by decide)
        · exact absurd (opened.symm.trans closed) (by decide)
      refine ⟨ok.single, ok.owns_setRelease idle att.symm, lone_update _ fun j _ => idle j,
        by rintro b ⟨⟩, fun _ => rfl, fun _ _ _ => rfl, ?_,
        fun returned => (noDetach returned).elim, fun returned => (noClose returned).elim⟩
      intro j b closing
      by_cases same : j = i
      · subst same
        simp [Host.setRelease] at closing
      · simp [Host.setRelease, update_of_ne same, idle j] at closing

theorem close (careful : h.Careful (.close i)) : Exclusive (h.close i) := by
  have free : ∀ j, (h.releases j).attachment = none := careful
  unfold Host.close
  split
  · exact ok
  cases closed : h.pty.closed with
  | true =>
    simp only [RemotePTY.close, closed, if_true]
    exact { ok with closeReturned := fun _ => ⟨closed, free⟩ }
  | false =>
    have idle := ok.idle closed free
    simp only [RemotePTY.close, closed, Bool.false_eq_true, if_false]
    refine ⟨ok.single, ok.owns_setRelease idle rfl, lone_update _ fun j _ => idle j,
      ok.pending, ok.away, ?_, fun _ _ _ => rfl, ?_, ?_⟩
    · intro j b detaching
      by_cases same : j = i
      · subst same
        simp [Host.setRelease] at detaching
      · simp [Host.setRelease, update_of_ne same, idle j] at detaching
    · -- A view that is detached has no attachment to take.
      intro returned
      have detached := (ok.detachReturned returned).1.resolve_right (by simp [closed])
      refine ⟨.inl detached, fun j => ?_⟩
      by_cases same : j = i
      · subst same
        simpa [Host.setRelease, Release.attachment] using ok.away detached
      · simpa [Host.setRelease, update_of_ne same] using free j
    · intro returned
      exact absurd (closed.symm.trans (ok.closeReturned returned).1) (by decide)

/-- A release goes on without an attachment. The others are idle, so the daemon holds what the
view and the binds own. -/
theorem setRelease {returned : Bool} (busy : h.releases i ≠ .idle)
    (sent : ∀ x ∈ h.daemon, (h.releases i).attachment ≠ some x) (none : r.attachment = none)
    (closing : ∀ b, r = .closing b → h.pty.closed = true)
    (detachReturned : returned = true → h.detachReturned = true ∨ h.pty.detached = true) :
    Exclusive ({ h with detachReturned := returned }.setRelease i r) := by
  have idle := ok.others_idle busy
  have free : ∀ j, (update h.releases i r j).attachment = Option.none := by
    intro j
    by_cases same : j = i
    · rw [same, update_self, none]
    · rw [update_of_ne same, idle j same]
      rfl
  refine ⟨ok.single, ?_, lone_update r idle, ok.pending, ok.away, ?_, ?_, ?_, ?_⟩
  · intro x member
    rcases ok.owned x member with view | bind | ⟨j, release⟩
    · exact .inl view
    · exact .inr (.inl bind)
    by_cases same : j = i
    · subst same
      exact absurd release (sent x member)
    · rw [idle j same] at release
      cases release
  · intro j b detaching
    have attachment : (Release.detaching b false).attachment = Option.none := detaching ▸ free j
    cases attachment
  · intro j b at_j
    by_cases same : j = i
    · subst same
      exact closing b ((update_self ..).symm.trans at_j)
    · have other : h.releases j = .closing b := (update_of_ne same ..).symm.trans at_j
      exact ok.closing j b other
  · intro holds
    rcases detachReturned holds with before | detached
    · exact ⟨(ok.detachReturned before).1, free⟩
    · exact ⟨.inl detached, free⟩
  · intro holds
    exact ⟨(ok.closeReturned holds).1, free⟩

theorem detachSent (careful : h.Careful (.detachSent i answered)) :
    Exclusive (h.detachSent i answered) := by
  unfold Host.detachSent
  split
  · next a superseded release =>
    refine (ok.send a answered).setRelease (by simp [Host.send, release]) ?_ rfl
      (by rintro b ⟨⟩) ?_
    · intro x member same
      have holds : (h.releases i).attachment = some x := same
      rw [release] at holds
      cases holds
      exact ok.sent careful member
    · intro returned
      cases superseded with
      | true => exact .inl (by simpa [Host.send] using returned)
      | false => exact .inr (ok.detaching i a release)
  · exact ok

theorem closeSent (careful : h.Careful (.closeSent i answered)) :
    Exclusive (h.closeSent i answered) := by
  unfold Host.closeSent
  split
  · next a release =>
    refine (ok.send a answered).setRelease (by simp [Host.send, release]) ?_ rfl
      (fun _ _ => ok.closing i _ release) .inl
    intro x member same
    have holds : (h.releases i).attachment = some x := same
    rw [release] at holds
    cases holds
    exact ok.sent careful member
  · exact ok

theorem closeReturns (i : Nat) : Exclusive (h.closeReturns i) := by
  unfold Host.closeReturns
  split
  · next release =>
    have closed := ok.closing i none release
    have after : Exclusive ({ h with detachReturned := h.detachReturned }.setRelease i .idle) :=
      ok.setRelease (by simp [release]) (fun x _ => by simp [release, Release.attachment]) rfl
        (by rintro b ⟨⟩) .inl
    refine { after with closeReturned := fun _ => ⟨closed, fun j => ?_⟩ }
    by_cases same : j = i
    · subst same
      simp [Host.setRelease, Release.attachment]
    · simp [Host.setRelease, update_of_ne same,
        ok.others_idle (by simp [release]) j same, Release.attachment]
  · exact ok

theorem reattach (i : Nat) : Exclusive (h.reattach i) := by
  unfold Host.reattach
  split
  · exact ok
  next free =>
  unfold RemotePTY.reattach
  cases closed : h.pty.closed with
  | true =>
    exact ok
  | false =>
    refine Exclusive.keepBind ?_ (Option.not_isSome_iff_eq_none.mp free)
      (by cases h.pty.started && h.pty.detached <;> rfl)
    refine ⟨ok.single, ?_, ?_, ok.pending, nofun, ?_, ?_, nofun, ?_⟩
    · intro x member
      rcases ok.owned x member with ⟨view, _⟩ | bind | ⟨j, release⟩
      · exact .inl ⟨view, rfl, rfl⟩
      · exact .inr (.inl bind)
      · exact .inr (.inr ⟨j, (attachment_supersede _).trans release⟩)
    · intro j k busy busy'
      exact ok.lone j k (supersede_idle busy) (supersede_idle busy')
    · intro j a detaching
      exact absurd detaching supersede_detaching
    · intro j a closing
      exact closed.symm.trans (ok.closing j a (supersede_closing closing))
    · intro returned
      exact absurd (closed.symm.trans (ok.closeReturned returned).1) (by decide)

end Exclusive

/-! ### The loops -/

theorem Exclusive.take : Exclusive h.take := by
  unfold Host.take
  split
  · have att : h.pty.take.att = h.pty.att := by
      unfold RemotePTY.take
      cases pending : h.pty.pending with
      | none => rfl
      | some a => exact (ok.pending a pending).symm
    refine { ok with
      owned := fun x member => ?_
      pending := by rintro a ⟨⟩
      away := fun away => att.trans (ok.away away) }
    rcases ok.owned x member with ⟨view, here⟩ | bind | release
    · exact .inl ⟨att.trans view, here⟩
    · exact .inr (.inl bind)
    · exact .inr (.inr release)
  · exact ok

theorem Exclusive.feed : Exclusive h.feed := by
  unfold Host.feed RemotePTY.feed
  split
  · cases h.pty.closed || h.pty.readErr.isSome <;> exact { ok with }
  · exact ok

theorem Exclusive.perform {e : Event} (careful : h.Careful e) : Exclusive (h.perform e) := by
  have effect := h.perform_effect e
  generalize h.perform e = k at effect ⊢
  cases effect with
  | quiet quiet => exact ok.quiet quiet
  | bind at_i quiet same =>
    have binds := congrArg Custody.binds quiet.custody
    exact (ok.quiet quiet).keepBind ((congrFun binds _).trans at_i) same
  | lost => exact { ok with single := Nat.zero_le _, owned := by rintro x ⟨⟩ }
  | opened at_i => exact ok.opened careful
  | aborted at_i => exact ok.aborted at_i careful
  | published at_i => exact ok.published at_i careful
  | take => exact ok.take
  | feed => exact ok.feed
  | detach i => exact ok.detach careful
  | detachSent i answered => exact ok.detachSent careful
  | reattach i => exact ok.reattach i
  | close i => exact ok.close careful
  | closeSent i answered => exact ok.closeSent careful
  | closeReturns i => exact ok.closeReturns i

end

end Steps

theorem exclusive_run {events : List Event} (obeys : newHost.Obeys Host.Careful events) :
    Exclusive (newHost.run events) :=
  run_invariant (fun _ _ ok careful => ok.perform careful) exclusive_new obeys

/-- The view holds at most one attachment, which `Write` and `Resize` use unless a `Detach` or
`Close` is about to detach it, and none after `Detach` or `Close` has returned. -/
structure Host.OneAttachment (h : Host) : Prop where
  single : h.daemon.length ≤ 1
  used : ∀ x ∈ h.daemon, h.pty.target = .ok x ∨ ∃ i, (h.releases i).attachment = some x
  released : h.detachReturned = true ∨ h.closeReturned = true → h.daemon = []

/-- Along careful runs a view with no bind in progress has at most one attachment. -/
theorem one_attachment {events : List Event} (obeys : newHost.Obeys Host.Careful events)
    (settled : (newHost.run events).Settled) : (newHost.run events).OneAttachment := by
  have ok := exclusive_run obeys
  generalize newHost.run events = h at ok settled
  have owner : ∀ x ∈ h.daemon,
      (h.pty.att = some x ∧ h.pty.detached = false ∧ h.pty.closed = false) ∨
        ∃ i, (h.releases i).attachment = some x := by
    intro x member
    rcases ok.owned x member with view | ⟨i, b, at_i, _⟩ | release
    · exact .inl view
    · cases (settled i).symm.trans at_i
    · exact .inr release
  refine ⟨ok.single, ?_, ?_⟩
  · intro x member
    rcases owner x member with ⟨view, _, opened⟩ | release
    · exact .inl (by simp [RemotePTY.target, opened, view])
    · exact .inr release
  · intro returned
    have gone : (h.pty.detached = true ∨ h.pty.closed = true) ∧
        ∀ i, (h.releases i).attachment = none := by
      rcases returned with detached | closed
      · exact ok.detachReturned detached
      · exact ⟨.inr (ok.closeReturned closed).1, (ok.closeReturned closed).2⟩
    refine List.eq_nil_iff_forall_not_mem.mpr fun x member => ?_
    rcases owner x member with ⟨_, attached, opened⟩ | ⟨i, release⟩
    · rcases gone.1 with detached | closed
      · exact absurd (attached.symm.trans detached) (by decide)
      · exact absurd (opened.symm.trans closed) (by decide)
    · cases (gone.2 i).symm.trans release

/-- A bind from its first region to the hand-over. -/
def bindEvents (i : Nat) (checks : List Event) : List Event :=
  checks ++ [.openAttachment i none, .liveScreen i none, .startStream i none, .publish i]

/-- The view is started on a new connection. -/
def startEvents : List Event := [.connect, .start 0] ++ bindEvents 0 [.step 0, .step 0]

/-- Started, detached and bound again after a reconnect. -/
def reconnectEvents : List Event :=
  startEvents ++ [.take, .lost, .pumpEnds .transient 0, .clearClient, .connect, .rebindAll 0] ++
    bindEvents 0 [.step 0, .step 0, .step 0] ++ [.notified, .take, .detach 0, .detachSent 0 true]

theorem one_attachment_reconnect :
    newHost.Obeys Host.Careful reconnectEvents ∧ (newHost.run reconnectEvents).Settled ∧
      (newHost.run reconnectEvents).daemon = [] := by
  have obeys : newHost.Obeys Host.Careful reconnectEvents := by
    refine ⟨trivial, trivial, trivial, trivial, rfl, trivial, trivial, ?_, trivial, trivial,
      trivial, trivial, trivial, trivial, trivial, trivial, trivial, rfl, trivial, trivial, ?_,
      trivial, trivial, fun _ => rfl, .inl rfl, trivial⟩
    · rintro _ _ ⟨⟩
      exact ⟨rfl, rfl, by decide⟩
    · rintro _ _ ⟨⟩
      exact ⟨rfl, rfl, by decide⟩
  have settled : (newHost.run reconnectEvents).Settled := fun i => by cases i <;> rfl
  exact ⟨obeys, settled, (one_attachment obeys settled).released (.inl rfl)⟩

/-- A lost stream is rebound on the same connection. -/
def leakEvents : List Event :=
  startEvents ++ [.take, .pumpEnds .syncLost 0] ++ bindEvents 0 [.step 0, .step 0, .step 0]

/-- Two attachments are left, and `Detach` detaches one of them. -/
theorem rebind_leaks :
    (newHost.run leakEvents).Settled ∧ (newHost.run leakEvents).daemon = [1, 0] ∧
      (newHost.run leakEvents).pty.target = .ok 1 ∧
      (newHost.run (leakEvents ++ [.detach 0, .detachSent 0 true])).detachReturned = true ∧
      (newHost.run (leakEvents ++ [.detach 0, .detachSent 0 true])).daemon = [0] := by
  exact ⟨fun i => by cases i <;> rfl, rfl, rfl, rfl, rfl⟩

end Anytty.Tui.Remote
