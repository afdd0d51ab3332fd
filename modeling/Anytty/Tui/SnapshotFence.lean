import Anytty.Tui.RemotePty

/-!
# The snapshot fence of a remote terminal

`seedSnapshot` replaces the unread stream by the rendered screen, and the first `Read` of it calls
the reset hook before it returns the bytes. That alone puts one reset between the last old chunk
and the snapshot. But `seedSnapshot` also resets the parser itself, after its region: at once if no
read is in flight, through the barrier if one has old bytes. By then `Terminal.pump` may have
parsed the snapshot. And the loop `run` may still hold a frame of the earlier attachment, which it
feeds behind the snapshot. `fence_broken` has a run of each kind.

`FenceKept` says when neither happens; then the parser is as claimed (`snapshot_fenced`).
-/

namespace Anytty.Tui.Remote

open List

/-- The parser was reset and then got the snapshot and the output of its attachment. -/
def Host.Replayed (h : Host) (a : Nat) (rendered : List UInt8) (earlier : List ParserOp)
    (chunks : List (List UInt8)) : Prop :=
  h.parser = earlier ++ .reset :: chunks.map .write ∧ chunks.flatten = rendered ++ h.output a

/-- All buffered bytes have been parsed. -/
def Host.Drained (h : Host) : Prop := h.pty.buf = [] ∧ h.reader.chunk = none

instance (h : Host) : Decidable h.Drained := inferInstanceAs (Decidable (_ ∧ _))

/-- No byte of the snapshot has been parsed: none was read, or the first are in hand. -/
def Host.Unparsed (h : Host) : Prop :=
  h.pty.snapshotResetDone = false ∨ h.reader.isHook = true ∨
    h.pty.readSnapshot = true ∧ h.reader.chunk ≠ none

instance (h : Host) : Decidable h.Unparsed := inferInstanceAs (Decidable (_ ∨ _ ∨ _))

/-- The condition on an event and the state before it. -/
def Host.keepsFence (h : Host) : Event → Bool
  | .liveScreen _ (some rendered) =>
    rendered ≠ [] ∧ h.pty.closed = false ∧ h.pty.readErr = none
  | .lateReset _ => h.Unparsed
  | .feed => h.pty.closed = false ∧ h.pty.readErr = none ∧
      ∀ seed ∈ h.seeded, h.runner.attachment = some seed.1
  | _ => true

def Host.FenceKept (h : Host) (e : Event) : Prop := h.keepsFence e = true

instance (h : Host) (e : Event) : Decidable (h.FenceKept e) := inferInstanceAs (Decidable (_ = _))

/-! ### Attachments are handed over once -/

/-- A bind holds the attachment. -/
def Host.Holds (h : Host) (i a : Nat) : Prop :=
  ∃ b, h.binds i = some b ∧ b.stage.attachment = some a

/-- The attachment was handed over. -/
def Host.Published (h : Host) (a : Nat) : Prop :=
  h.pty.pending = some a ∨ h.runner.attachment = some a ∨ ∃ frame ∈ h.fed, frame.1 = a

structure Numbered (h : Host) : Prop where
  held : ∀ i a, h.Holds i a → a < h.opened
  published : ∀ a, h.Published a → a < h.opened
  apart : ∀ i j a, h.Holds i a → h.Holds j a → i = j
  fresh : ∀ i a, h.Holds i a → ¬ h.Published a

section Numbered

variable {h : Host}

theorem numbered_new : Numbered newHost where
  held := by rintro i a ⟨b, ⟨⟩, _⟩
  published := by
    rintro a (pending | runner | ⟨frame, member, _⟩)
    · cases pending
    · cases runner
    · cases member
  apart := by rintro i j a ⟨b, ⟨⟩, _⟩
  fresh := by rintro i a ⟨b, ⟨⟩, _⟩

section

variable (ok : Numbered h)
include ok

variable {h' k : Host} {i : Nat} {b : Option Bind}

/-- An event that neither opens nor hands over. -/
theorem Numbered.mono (opened : h'.opened = h.opened) (holds : ∀ i a, h'.Holds i a → h.Holds i a)
    (published : ∀ a, h'.Published a → h.Published a) : Numbered h' where
  held i a held := opened ▸ ok.held i a (holds i a held)
  published a out := opened ▸ ok.published a (published a out)
  apart i j a hi hj := ok.apart i j a (holds i a hi) (holds j a hj)
  fresh i a held out := ok.fresh i a (holds i a held) (published a out)

omit ok in
theorem holds_setBind {j a : Nat} (holds : (h.setBind i b).Holds j a) :
    (j = i ∧ ∃ c, b = some c ∧ c.stage.attachment = some a) ∨ (j ≠ i ∧ h.Holds j a) := by
  obtain ⟨c, at_j, attachment⟩ := holds
  by_cases same : j = i
  · subst same
    exact .inl ⟨rfl, c, (setBind_self ..).symm.trans at_j, attachment⟩
  · exact .inr ⟨same, c, (setBind_of_ne h same b).symm.trans at_j, attachment⟩

/-- The bind has no attachment that it did not have. -/
theorem Numbered.setBind (opened : k.opened = h.opened) (binds : k.binds = h.binds)
    (published : ∀ a, k.Published a → h.Published a)
    (kept : ∀ a, heldBy b = some a → heldBy (h.binds i) = some a) :
    Numbered (k.setBind i b) := by
  refine ok.mono opened ?_ published
  intro j a holds
  rcases holds_setBind holds with ⟨rfl, c, rfl, attachment⟩ | ⟨_, c, at_j, attachment⟩
  · exact Option.bind_eq_some_iff.mp (kept a attachment)
  · exact ⟨c, binds ▸ at_j, attachment⟩

theorem Numbered.openAttachment (i : Nat) (initial : Bool)
    (opened : k.opened = h.opened + 1) (binds : k.binds = h.binds)
    (published : ∀ a, k.Published a → h.Published a) :
    Numbered (k.setStage i initial (.fetching h.opened)) := by
  have cases' : ∀ j a, (k.setStage i initial (.fetching h.opened)).Holds j a →
      (j = i ∧ a = h.opened) ∨ h.Holds j a := by
    intro j a holds
    rcases holds_setBind holds with ⟨rfl, c, at_c, attachment⟩ | ⟨_, b, at_j, attachment⟩
    · cases at_c
      cases attachment
      exact .inl ⟨rfl, rfl⟩
    · exact .inr ⟨b, binds ▸ at_j, attachment⟩
  have later : ∀ {a}, a < h.opened → a < k.opened := fun lt => opened ▸ Nat.lt_succ_of_lt lt
  refine ⟨?_, fun a out => later (ok.published a (published a out)), ?_, ?_⟩
  · intro j a holds
    rcases cases' j a holds with ⟨_, rfl⟩ | old
    · exact opened ▸ Nat.lt_succ_self _
    · exact later (ok.held j a old)
  · intro j k a holds holds'
    rcases cases' j a holds with ⟨rfl, rfl⟩ | old <;>
      rcases cases' k _ holds' with ⟨rfl, eq⟩ | old'
    · rfl
    · exact absurd (ok.held k _ old') (Nat.lt_irrefl _)
    · subst eq
      exact absurd (ok.held j _ old) (Nat.lt_irrefl _)
    · exact ok.apart j k a old old'
  · intro j a holds out
    rcases cases' j a holds with ⟨_, rfl⟩ | old
    · exact absurd (ok.published _ (published _ out)) (Nat.lt_irrefl _)
    · exact ok.fresh j a old (published a out)

/-- The attachment passes from the bind to the view. -/
theorem Numbered.publish {a : Nat} (mine : h.Holds i a)
    (opened : k.opened = h.opened) (binds : k.binds = h.binds)
    (out : ∀ b, k.Published b → b = a ∨ h.Published b) : Numbered (k.setBind i none) := by
  have others : ∀ j b, (k.setBind i none).Holds j b → j ≠ i ∧ h.Holds j b := by
    intro j b holds
    rcases holds_setBind holds with ⟨_, c, ⟨⟩, _⟩ | ⟨ne, c, at_j, attachment⟩
    exact ⟨ne, c, binds ▸ at_j, attachment⟩
  refine ⟨fun j b holds => opened ▸ ok.held j b (others j b holds).2, ?_,
    fun j k b hj hk => ok.apart j k b (others j b hj).2 (others k b hk).2, ?_⟩
  · intro b published
    refine opened ▸ ?_
    rcases out b published with rfl | old
    · exact ok.held i _ mine
    · exact ok.published b old
  · intro j b holds published
    obtain ⟨ne, old⟩ := others j b holds
    rcases out b published with rfl | before
    · exact ne (ok.apart j i _ old mine)
    · exact ok.fresh j b old before

omit ok in
theorem Host.Quiet.published {e : Event} {k : Host} (quiet : h.Quiet e k) (a : Nat) :
    k.Published a → h.Published a := by
  unfold Host.Published
  rw [quiet.fed]
  exact Or.imp (quiet.pending a) (Or.imp_left (quiet.runner a))

theorem Numbered.keep (opened : h'.opened = h.opened)
    (binds : h'.binds = h.binds) (published : ∀ a, h'.Published a → h.Published a) : Numbered h' :=
  ok.mono opened (fun _ _ ⟨b, at_i, attachment⟩ => ⟨b, binds ▸ at_i, attachment⟩) published

theorem Numbered.take : Numbered h.take := by
  unfold Host.take
  split
  · refine ok.keep rfl rfl ?_
    rintro a (pending | runner | fed)
    · cases pending
    · left
      revert runner
      split
      · rintro ⟨⟩
      split
      · rintro ⟨⟩
      · next b pending => exact fun same => pending.trans same
    · exact .inr (.inr fed)
  · exact ok

theorem Numbered.feed : Numbered h.feed := by
  unfold Host.feed
  split
  · next a data runner =>
    have pending : (h.pty.feed data).pending = h.pty.pending := by
      unfold RemotePTY.feed
      split <;> rfl
    have mine : h.Published a := .inr (.inl (by rw [runner]; rfl))
    refine ok.keep rfl rfl ?_
    rintro b (out | out | ⟨frame, member, same⟩)
    · exact .inl (pending ▸ out)
    · cases out
      exact mine
    · rcases mem_append.mp member with old | new
      · exact .inr (.inr ⟨frame, old, same⟩)
      · obtain rfl := mem_singleton.mp new
        cases same
        exact mine
  · exact ok

theorem Numbered.perform (e : Event) : Numbered (h.perform e) := by
  have same : ∀ a, h.Published a → h.Published a := fun _ out => out
  have effect := h.perform_effect e
  generalize h.perform e = k at effect ⊢
  cases effect with
  | quiet quiet =>
    exact ok.keep quiet.opened (congrArg Custody.binds quiet.custody) quiet.published
  | bind at_i quiet held =>
    refine ok.setBind quiet.opened (congrArg Custody.binds quiet.custody) quiet.published ?_
    rw [held, at_i]
    exact fun _ held => held
  | lost => exact ok.keep rfl rfl same
  | opened at_i => exact ok.openAttachment _ _ rfl rfl same
  | aborted at_i => exact ok.setBind rfl rfl same (by rintro a ⟨⟩)
  | @published i a initial at_i =>
    refine ok.publish ⟨_, at_i, rfl⟩ rfl rfl ?_
    rintro b (pending | runner | fed)
    · exact .inl (Option.some.inj pending).symm
    · cases initial with
      | true => cases runner
      | false => exact .inr (.inr (.inl runner))
    · exact .inr (.inr (.inr fed))
  | take => exact ok.take
  | feed => exact ok.feed
  | detach i =>
    simp only [Host.detach, RemotePTY.detach]
    split
    · exact ok
    cases h.pty.closed || h.pty.detached with
    | true => exact ok.keep rfl rfl same
    | false =>
      cases h.pty.att <;>
      · refine ok.keep rfl rfl ?_
        rintro a (pending | out)
        · cases pending
        · exact .inr out
  | reattach i =>
    simp only [Host.reattach, RemotePTY.reattach]
    split
    · exact ok
    cases h.pty.closed with
    | true => exact ok
    | false =>
      refine ok.setBind rfl rfl same ?_
      cases h.pty.started && h.pty.detached <;> rintro a ⟨⟩
  | close i =>
    simp only [Host.close, RemotePTY.close]
    split
    · exact ok
    · cases h.pty.closed <;> exact ok.keep rfl rfl same
  | detachSent | closeSent | closeReturns =>
    simp only [Host.detachSent, Host.closeSent, Host.closeReturns]
    split <;> exact ok.keep rfl rfl same

end

end Numbered

/-! ### The fence -/

/-- What `Terminal.pump` holds of the bytes after the last reset. -/
inductive Parsing (rest rendered output : List UInt8) (readSnapshot : Bool)
    (parser : List ParserOp) : Reader → Prop
  /-- The first bytes of the snapshot; the hook is called next. -/
  | hook (chunk : List UInt8) (bytes : chunk ++ rest = rendered ++ output) :
      Parsing rest rendered output readSnapshot parser (.hook chunk)
  | parse (chunk : List UInt8) (earlier : List ParserOp) (chunks : List (List UInt8))
      (calls : parser = earlier ++ .reset :: chunks.map .write)
      (bytes : chunks.flatten ++ (chunk ++ rest) = rendered ++ output)
      (first : readSnapshot = true → chunks = []) :
      Parsing rest rendered output readSnapshot parser (.parse chunk)
  | between (reader : Reader) (free : reader.chunk = none)
      (earlier : List ParserOp) (chunks : List (List UInt8))
      (calls : parser = earlier ++ .reset :: chunks.map .write)
      (bytes : chunks.flatten ++ rest = rendered ++ output) :
      Parsing rest rendered output readSnapshot parser reader

/-- The bytes after the seed are all in the buffer, or partly with the pump and the parser. -/
structure Fenced (h : Host) (a : Nat) (rendered : List UInt8) : Prop where
  shown : rendered ≠ []
  pending : h.pty.snapshotResetPending = true
  waiting : h.pty.snapshotResetDone = false → h.pty.buf = rendered ++ h.output a
  parsing : h.pty.snapshotResetDone = true →
    Parsing h.pty.buf rendered (h.output a) h.pty.readSnapshot h.parser h.reader

/-- The invariant: the last seed is fenced. -/
structure FenceHolds (h : Host) : Prop where
  numbered : Numbered h
  fenced : ∀ a rendered, h.seeded = some (a, rendered) → Fenced h a rendered

section Fenced

variable {h : Host} {a : Nat} {rendered : List UInt8}

section

variable (ok : Fenced h a rendered)
include ok

variable {h' : Host} {i : Nat} {rest output : List UInt8} {snapshot : Bool} {parser : List ParserOp}
  {reader : Reader}

theorem Fenced.frame (same : h'.bytes = h.bytes) : Fenced h' a rendered := by
  simp only [Host.bytes, Bytes.mk.injEq] at same
  obtain ⟨buf, pending, done, snapshot, reader, parser, fed, _⟩ := same
  have output : h'.output a = h.output a := by simp only [Host.output, fed]
  constructor
  · exact ok.shown
  · exact pending.trans ok.pending
  · rw [done, buf, output]
    exact ok.waiting
  · rw [done, buf, output, snapshot, parser, reader]
    exact ok.parsing

omit ok in
/-- Nothing was fed for an attachment that a bind still holds. -/
theorem Numbered.output_nil (ok : Numbered h) (holds : h.Holds i a) : h.output a = [] := by
  have none : h.fed.filter (fun frame => frame.1 = a) = [] := by
    refine filter_eq_nil_iff.mpr fun frame member same => ?_
    exact ok.fresh i a holds (.inr (.inr ⟨frame, member, by simpa using same⟩))
  rw [Host.output, none]
  rfl

omit ok in
/-- `seedSnapshot` puts the snapshot in the place of the unread stream. -/
theorem FenceHolds.liveScreen (ok : FenceHolds h) {shown : Option (List UInt8)}
    (kept : h.FenceKept (.liveScreen i shown))
    (seeded : (h.liveScreen i shown).seeded = some (a, rendered)) :
    Fenced (h.liveScreen i shown) a rendered := by
  revert seeded
  unfold Host.liveScreen
  split
  · next initial b at_i =>
    cases shown with
    | none => exact fun seeded => (ok.fenced a rendered seeded).frame rfl
    | some bytes =>
      obtain ⟨some, opened, noErr⟩ := of_decide_eq_true kept
      intro seeded
      cases seeded
      have seed : (h.pty.seedSnapshot rendered).1 = { h.pty with
          buf := rendered, snapshotResetPending := true, snapshotResetDone := false } := by
        simp [RemotePTY.seedSnapshot, some, opened, noErr]
      have output : h.output a = [] := ok.numbered.output_nil ⟨_, at_i, rfl⟩
      refine ⟨some, ?_, fun _ => ?_, ?_⟩
      · change (h.pty.seedSnapshot rendered).1.snapshotResetPending = true
        rw [seed]
      · change (h.pty.seedSnapshot rendered).1.buf = rendered ++ h.output a
        rw [seed, output, append_nil]
      · change (h.pty.seedSnapshot rendered).1.snapshotResetDone = true → _
        rw [seed]
        rintro ⟨⟩
  · exact fun seeded => ok.fenced a rendered seeded

/-- A reset of the parser before any byte of the snapshot. -/
theorem Fenced.lateReset (kept : h.Unparsed) : Fenced (h.lateReset i) a rendered := by
  unfold Host.lateReset
  split
  · refine { ok with parsing := fun done => ?_ }
    have parsing := ok.parsing done
    change Parsing h.pty.buf rendered (h.output a) h.pty.readSnapshot _ h.reader
    rcases kept with waiting | hook | ⟨first, inHand⟩
    · exact absurd (waiting.symm.trans done) (by decide)
    · generalize h.reader = reader at parsing hook
      cases parsing with
      | hook chunk bytes => exact .hook chunk bytes
      | parse => cases hook
      | between _ free =>
        cases reader with
        | hook chunk => cases free
        | _ => cases hook
    · generalize h.reader = reader at parsing inHand
      cases parsing with
      | hook chunk bytes => exact .hook chunk bytes
      | parse chunk earlier chunks calls bytes only =>
        obtain rfl := only first
        exact .parse chunk h.parser [] rfl bytes fun _ => rfl
      | between _ free => exact absurd free inHand
  · exact ok

omit ok in
theorem Parsing.append (ok : Parsing rest rendered output snapshot parser reader)
    (data : List UInt8) :
    Parsing (rest ++ data) rendered (output ++ data) snapshot parser reader := by
  cases ok with
  | hook chunk bytes => exact .hook chunk (by simp only [← List.append_assoc, bytes])
  | parse chunk earlier chunks calls bytes first =>
    refine .parse chunk earlier chunks calls ?_ first
    simp only [← List.append_assoc] at bytes ⊢
    rw [bytes]
  | between _ free earlier chunks calls bytes =>
    exact .between _ free earlier chunks calls (by simp only [← List.append_assoc, bytes])

/-- A frame of the attachment of the last seed. -/
theorem Fenced.feed (seeded : h.seeded = some (a, rendered))
    (kept : h.FenceKept .feed) : Fenced h.feed a rendered := by
  unfold Host.feed
  split
  · next b data runner =>
    obtain ⟨opened, noErr, same⟩ := of_decide_eq_true kept
    have attachment := same (a, rendered) seeded
    rw [runner] at attachment
    obtain rfl : a = b := (Option.some.inj attachment).symm
    have fed : h.pty.feed data = { h.pty with buf := h.pty.buf ++ data } := by
      simp [RemotePTY.feed, opened, noErr]
    have output : Host.output { h with
        pty := h.pty.feed data, fed := h.fed ++ [(a, data)], runner := .pumping a } a =
          h.output a ++ data := by
      simp [Host.output, filter_append]
    refine ⟨ok.shown, ?_, ?_, ?_⟩
    · simpa only [fed] using ok.pending
    · rw [output]
      simp only [fed]
      intro waiting
      rw [ok.waiting waiting, List.append_assoc]
    · rw [output]
      simp only [fed]
      exact fun done => (ok.parsing done).append data
  · exact ok

omit ok in
theorem Parsing.free (ok : Parsing rest rendered output snapshot parser reader)
    (free : reader.chunk = none) :
    ∃ (earlier : List ParserOp) (chunks : List (List UInt8)),
      parser = earlier ++ .reset :: chunks.map .write ∧
        chunks.flatten ++ rest = rendered ++ output := by
  cases ok with
  | hook chunk | parse chunk => cases free
  | between _ _ earlier chunks calls bytes => exact ⟨earlier, chunks, calls, bytes⟩

/-- The pump moves on without bytes in hand. -/
theorem Fenced.move (free : h.reader.chunk = none) (free' : h'.reader.chunk = none)
    (pending : h'.pty.snapshotResetPending = h.pty.snapshotResetPending)
    (done : h'.pty.snapshotResetDone = h.pty.snapshotResetDone) (buf : h'.pty.buf = h.pty.buf)
    (parser : h'.parser = h.parser) (fed : h'.fed = h.fed) : Fenced h' a rendered := by
  have output : h'.output a = h.output a := by simp only [Host.output, fed]
  refine ⟨ok.shown, pending.trans ok.pending, ?_, ?_⟩
  · rw [done, buf, output]
    exact ok.waiting
  · rw [done, buf, output, parser]
    intro holds
    obtain ⟨earlier, chunks, calls, bytes⟩ := (ok.parsing holds).free free
    exact .between _ free' earlier chunks calls bytes

/-- `Read` returns: the first read of the snapshot goes to the hook. -/
theorem Fenced.readReturn (free : h.reader.chunk = none) : Fenced h.readReturn a rendered := by
  unfold Host.readReturn RemotePTY.readReturn
  by_cases some : h.pty.buf ≠ []
  · simp only [if_pos some, ok.pending, Bool.true_and]
    cases done : h.pty.snapshotResetDone with
    | false =>
      refine ⟨ok.shown, rfl, nofun, fun _ => .hook _ ?_⟩
      exact (take_append_drop ..).trans (ok.waiting done)
    | true =>
      obtain ⟨earlier, chunks, calls, bytes⟩ := (ok.parsing done).free free
      have whole : chunks.flatten ++ (h.pty.buf.take RemotePTY.readSize ++
          h.pty.buf.drop RemotePTY.readSize) = rendered ++ h.output a := by
        rw [take_append_drop]
        exact bytes
      exact ⟨ok.shown, rfl, nofun, fun _ =>
        .parse _ earlier chunks calls whole nofun⟩
  · simp only [if_neg some]
    cases h.pty.closed || h.pty.readErr.isSome with
    | true | false => exact ok.move free rfl rfl rfl rfl rfl rfl

theorem Fenced.resetHook : Fenced (h.perform .resetHook) a rendered := by
  simp only [Host.perform]
  split
  · next chunk reader =>
    refine { ok with parsing := fun done => ?_ }
    have parsing := ok.parsing done
    rw [reader] at parsing
    cases parsing with
    | hook _ bytes => exact .parse chunk h.parser [] rfl bytes fun _ => rfl
    | between _ free => cases free
  · exact ok

theorem Fenced.parse : Fenced (h.perform .parse) a rendered := by
  simp only [Host.perform]
  split
  · next chunk reader =>
    refine { ok with parsing := fun done => ?_ }
    have parsing := ok.parsing done
    rw [reader] at parsing
    cases parsing with
    | parse _ earlier chunks calls bytes =>
      refine .between _ rfl earlier (chunks ++ [chunk]) ?_ ?_
      · rw [calls]
        simp
      · change (chunks ++ [chunk]).flatten ++ h.pty.buf = rendered ++ h.output a
        simpa using bytes
    | between _ free => cases free
  · exact ok

end

end Fenced

variable {e : Event}

theorem bytes_perform (h : Host) (quiet : e.touchesBytes = false) :
    (h.perform e).bytes = h.bytes := by
  have effect := h.perform_effect e
  generalize h.perform e = k at effect ⊢
  cases effect with
  | quiet same | bind at_i same => exact same.bytes quiet
  | feed => cases quiet
  | lost | opened | aborted | published => rfl
  | take | detachSent | closeSent | closeReturns =>
    simp only [Host.take, Host.detachSent, Host.closeSent, Host.closeReturns]
    split <;> rfl
  | detach i =>
    simp only [Host.detach, RemotePTY.detach]
    split
    · rfl
    cases h.pty.closed || h.pty.detached with
    | true => rfl
    | false => cases h.pty.att <;> rfl
  | reattach i =>
    simp only [Host.reattach, RemotePTY.reattach]
    split
    · rfl
    · cases h.pty.closed <;> rfl
  | close i =>
    simp only [Host.close, RemotePTY.close]
    split
    · rfl
    · cases h.pty.closed <;> rfl

theorem seeded_readReturn (h : Host) : h.readReturn.seeded = h.seeded := by
  unfold Host.readReturn
  split <;> rfl

/-- Only `seedSnapshot` seeds. -/
theorem seeded_perform (h : Host) (other : ∀ i shown, e ≠ .liveScreen i shown) :
    (h.perform e).seeded = h.seeded := by
  by_cases quiet : e.touchesBytes = false
  · exact congrArg Bytes.seeded (bytes_perform h quiet)
  cases e with
  | liveScreen i shown => exact absurd rfl (other i shown)
  | lateReset | feed | lockRead | resetHook | parse | readDone | unlockRead =>
    simp only [Host.perform, Host.lateReset, Host.feed]
    split <;> rfl
  | read | wake =>
    simp only [Host.perform]
    split
    · exact seeded_readReturn _
    · rfl
  | _ => exact absurd rfl quiet

/-- An event other than a seed, and a fence that it keeps. -/
theorem Fenced.perform {h : Host} {a : Nat} {rendered : List UInt8} (ok : Fenced h a rendered)
    (seeded : h.seeded = some (a, rendered)) (kept : h.FenceKept e)
    (other : ∀ i shown, e ≠ .liveScreen i shown) : Fenced (h.perform e) a rendered := by
  by_cases quiet : e.touchesBytes = false
  · exact ok.frame (bytes_perform h quiet)
  cases e with
  | liveScreen i shown => exact absurd rfl (other i shown)
  | lateReset i => exact ok.lateReset (of_decide_eq_true kept)
  | feed => exact ok.feed seeded kept
  | resetHook => exact ok.resetHook
  | parse => exact ok.parse
  | lockRead =>
    simp only [Host.perform]
    split
    · next idle => exact ok.move (by rw [idle]; rfl) rfl rfl rfl rfl rfl rfl
    · exact ok
  | read =>
    simp only [Host.perform]
    split
    · next locked =>
      have begun : Fenced { h with pty := h.pty.readBegin } a rendered :=
        ok.move (by rw [locked]; rfl) (by rw [locked]; rfl) rfl rfl rfl rfl rfl
      exact begun.readReturn (by rw [locked]; rfl)
    · exact ok
  | wake =>
    simp only [Host.perform]
    split
    · next waiting => exact ok.readReturn (by rw [waiting]; rfl)
    · exact ok
  | readDone =>
    simp only [Host.perform]
    split
    · next failed parsed => exact ok.move (by rw [parsed]; rfl) rfl rfl rfl rfl rfl rfl
    · exact ok
  | unlockRead =>
    simp only [Host.perform]
    split
    · next failed unlocking =>
      refine ok.move (by rw [unlocking]; rfl) ?_ rfl rfl rfl rfl rfl
      cases failed <;> rfl
    · exact ok
  | _ => exact absurd rfl quiet

theorem FenceHolds.perform {h : Host} (ok : FenceHolds h) (kept : h.FenceKept e) :
    FenceHolds (h.perform e) := by
  refine ⟨ok.numbered.perform e, fun a rendered seeded => ?_⟩
  by_cases seed : ∃ i shown, e = .liveScreen i shown
  · obtain ⟨i, shown, rfl⟩ := seed
    exact ok.liveScreen kept seeded
  · have other : ∀ i shown, e ≠ .liveScreen i shown := fun i shown same => seed ⟨i, shown, same⟩
    have before := (seeded_perform h other).symm.trans seeded
    exact (ok.fenced a rendered before).perform before kept other

theorem fenceHolds_new : FenceHolds newHost :=
  ⟨numbered_new, by rintro a rendered ⟨⟩⟩

theorem fenceHolds_run {events : List Event} (kept : newHost.Obeys Host.FenceKept events) :
    FenceHolds (newHost.run events) :=
  run_invariant (fun _ _ ok kept => ok.perform kept) fenceHolds_new kept

/-! ### The parser -/

/-- A parser of terminal output. -/
structure Parser (σ : Type) where
  write : σ → List UInt8 → σ
  reset : σ → σ

def Parser.call {σ : Type} (P : Parser σ) (s : σ) : ParserOp → σ
  | .reset => P.reset s
  | .write data => P.write s data

def Parser.run {σ : Type} (P : Parser σ) (s : σ) (ops : List ParserOp) : σ :=
  ops.foldl P.call s

/-- In a run that keeps the fence, once all buffered bytes are parsed, the parser was reset and
then got the snapshot and the output of its attachment, and nothing else. -/
theorem snapshot_fenced {events : List Event} (kept : newHost.Obeys Host.FenceKept events)
    {a : Nat} {rendered : List UInt8} (seeded : (newHost.run events).seeded = some (a, rendered))
    (drained : (newHost.run events).Drained) :
    ∃ earlier chunks, (newHost.run events).Replayed a rendered earlier chunks ∧
      ∀ {σ : Type} (P : Parser σ) (s : σ),
        P.run s (newHost.run events).parser = chunks.foldl P.write (P.reset (P.run s earlier)) := by
  have ok := fenceHolds_run kept
  generalize newHost.run events = h at ok seeded drained
  have fenced := ok.fenced a rendered seeded
  cases done : h.pty.snapshotResetDone with
  | false =>
    have buf := (fenced.waiting done).symm.trans drained.1
    exact absurd (append_eq_nil_iff.mp buf).1 fenced.shown
  | true =>
    obtain ⟨earlier, chunks, calls, bytes⟩ := (fenced.parsing done).free drained.2
    rw [drained.1, append_nil] at bytes
    refine ⟨earlier, chunks, ⟨calls, bytes⟩, fun P s => ?_⟩
    rw [calls, Parser.run, foldl_append, foldl_cons, foldl_map]
    rfl

/-- A bind from its first region to the seed with the screen "A". -/
def seedEvents (checks : List Event) : List Event :=
  checks ++ [.openAttachment 0 none, .liveScreen 0 (some [65])]

/-- Start on a new connection, then one chunk through the pump of the terminal. -/
def firstEvents : List Event :=
  [.connect, .start 0, .step 0, .step 0, .openAttachment 0 none, .liveScreen 0 none,
    .startStream 0 none, .publish 0, .take, .lockRead, .read, .recv [64], .feed, .wake, .parse,
    .readDone, .unlockRead]

/-- The connection is lost and the view is bound again up to the seed. -/
def rebindEvents : List Event :=
  [.lost, .pumpEnds .transient 0, .clearClient, .connect, .rebindAll 0] ++
    seedEvents [.step 0, .step 0, .step 0]

/-- The pump of the terminal is in `Read` when the seed comes, and a frame follows. -/
def fencedEvents : List Event :=
  firstEvents ++ [.lockRead, .read] ++ rebindEvents ++
    [.startStream 0 none, .publish 0, .notified, .take, .recv [66], .feed, .wake, .resetHook,
      .parse, .readDone, .unlockRead]

theorem snapshot_fenced_rebind :
    newHost.Obeys Host.FenceKept fencedEvents ∧
      (newHost.run fencedEvents).seeded = some (1, [65]) ∧ (newHost.run fencedEvents).Drained ∧
      ∃ earlier chunks, (newHost.run fencedEvents).Replayed 1 [65] earlier chunks := by
  have kept : newHost.Obeys Host.FenceKept fencedEvents := by decide +kernel
  have seeded : (newHost.run fencedEvents).seeded = some (1, [65]) := by decide +kernel
  have drained : (newHost.run fencedEvents).Drained := by decide +kernel
  obtain ⟨earlier, chunks, replayed, _⟩ := snapshot_fenced kept seeded drained
  exact ⟨kept, seeded, drained, earlier, chunks, replayed⟩

/-- What was written since the last reset. -/
def sinceReset (ops : List ParserOp) : Option (List UInt8) :=
  ops.foldl (fun seen op => match op with
    | .reset => some []
    | .write data => seen.map (· ++ data)) none

theorem sinceReset_writes (earlier : List ParserOp) (chunks : List (List UInt8)) :
    sinceReset (earlier ++ .reset :: chunks.map .write) = some chunks.flatten := by
  have writes : ∀ (seen : List UInt8) (chunks : List (List UInt8)),
      (chunks.map ParserOp.write).foldl (fun seen op => match op with
        | .reset => some []
        | .write data => seen.map (· ++ data)) (some seen) = some (seen ++ chunks.flatten) := by
    intro seen chunks
    induction chunks generalizing seen with
    | nil => simp
    | cons chunk chunks ih =>
      simp [ih, List.append_assoc]
  rw [sinceReset, foldl_append, foldl_cons, writes, nil_append]

theorem Host.Replayed.sinceReset {h : Host} {a : Nat} {rendered : List UInt8}
    {earlier : List ParserOp} {chunks : List (List UInt8)}
    (ok : h.Replayed a rendered earlier chunks) :
    Remote.sinceReset h.parser = some (rendered ++ h.output a) := by
  rw [ok.1, sinceReset_writes, ok.2]

/-- The pump of the terminal is between two reads when the seed comes: it reads and parses the
snapshot before `seedSnapshot` resets the parser. -/
def wipedEvents : List Event :=
  firstEvents ++ rebindEvents ++
    [.lockRead, .read, .resetHook, .parse, .readDone, .unlockRead, .lateReset 0]

/-- The loop `run` has received a frame of the lost connection when the seed comes. -/
def staleEvents : List Event :=
  firstEvents ++ [.lockRead, .read, .recv [66], .lost, .clearClient, .connect, .rebindAll 0] ++
    seedEvents [.step 0, .step 0, .step 0] ++ [.feed, .wake, .resetHook, .parse]

theorem fence_broken :
    ((newHost.run wipedEvents).seeded = some (1, [65]) ∧ (newHost.run wipedEvents).Drained ∧
      ¬ ∃ earlier chunks, (newHost.run wipedEvents).Replayed 1 [65] earlier chunks) ∧
    (newHost.run staleEvents).seeded = some (1, [65]) ∧ (newHost.run staleEvents).Drained ∧
      ¬ ∃ earlier chunks, (newHost.run staleEvents).Replayed 1 [65] earlier chunks := by
  refine ⟨⟨by decide +kernel, by decide +kernel, ?_⟩, by decide +kernel, by decide +kernel, ?_⟩
  · rintro ⟨earlier, chunks, replayed⟩
    exact absurd replayed.sinceReset (by decide +kernel)
  · rintro ⟨earlier, chunks, replayed⟩
    exact absurd replayed.sinceReset (by decide +kernel)

end Anytty.Tui.Remote
