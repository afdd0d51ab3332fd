import Anytty.Data.Ledger
import Anytty.Tui.HistoryQueue

/-!
# Every accepted request is answered once

An accepted request is an obligation. It lies with the frame reader, in the queue of a
terminal, with the terminal's worker or with a goroutine of its own, and is paid by its
response. `perform_tracks` follows a run of the host in a ledger of these obligations, entry by
entry, so that what the ledger says about whole histories holds of every interleaving of
reader and workers.

Two steps forfeit an obligation. A scroll that enters a queue with another scroll drops
that one with its reply, and an answer that does not keep to the message limit is
discarded. `requests_answered_once` shows that nothing else does: when the host has come to
rest, all accepted requests are answered, each once, exactly if no step was of these kinds.
-/

namespace Anytty.Tui

open Anytty.Data Function List Option ResultFrame Host Terminal SortedMap Ledger

variable {δ : Type}

/-- Where an unanswered request can lie. -/
inductive Place
  | reader
  | queue (t : Nat)
  | worker (t : Nat)
  | background
deriving DecidableEq, Repr

/-- The request that the reader will answer or hand on. -/
def Reader.owes : Reader δ → List ResultFrame
  | .idle => []
  | .handling r | .queueing r _ | .begun r _ _ => [r]
  | .returned r _ pending => if pending then [] else [r]

/-- The request that the worker of a terminal has not completed. -/
def Terminal.owes (t : Terminal) : List ResultFrame :=
  match t.worker with
  | some (.taken, work) | some (.calling, work) => [work.request]
  | _ => []

def Host.holds (h : Host δ) : Place → List ResultFrame
  | .reader => h.reader.owes
  | .queue t => (h.terminals t).historyQueue.map Work.request
  | .worker t => (h.terminals t).owes
  | .background => h.background

/-- The ledger agrees with the session's request table and with who holds what. -/
structure Tracks (s : Session δ) (holds : Place → List ResultFrame)
    (ledger : Ledger Nat Place) : Prop where
  held : ∀ place id,
    id ∈ (holds place).map requestID ↔ ledger.holder id = some place
  nodup : ∀ place, ((holds place).map requestID).Nodup
  current : ∀ place, ∀ r ∈ holds place, r.epoch = s.epoch
  raised : ledger.raised.reverse = s.accepted.map requestID
  paid : ledger.paid.reverse = s.answers.map Response.requestID
  answered : ∀ id, id ∈ s.answered ↔ id ∈ ledger.raised
  epochs : ∀ r ∈ s.accepted, r.epoch = s.epoch
  answerEpochs : ∀ a ∈ s.answers, a.epoch = s.epoch
  flying : ∀ id place, ledger.holder id = some place → s.inflight.lookup id = some s.epoch
  inflight : ∀ id epoch, s.inflight.lookup id = some epoch →
    epoch = s.epoch ∧ id ∈ ledger.raised ∧ id ∉ ledger.paid

section Posting

variable {s : Session δ} {holds holds' : Place → List ResultFrame} {ledger : Ledger Nat Place}
  {r : ResultFrame} {p q : Place}

theorem Tracks.holder (tracks : Tracks s holds ledger) (h : r ∈ holds p) :
    ledger.holder r.requestID = some p :=
  (tracks.held p r.requestID).mp (List.mem_map_of_mem h)

/-- A place gives one of its requests away. -/
theorem mem_ids_of_perm {rs rs' : List ResultFrame} (take : rs.Perm (r :: rs'))
    (nodup : (rs.map requestID).Nodup) (id : Nat) :
    id ∈ rs'.map requestID ↔
      id ∈ rs.map requestID ∧ id ≠ r.requestID := by
  have perm := take.map requestID
  have fresh := (nodup_cons.mp (perm.nodup_iff.mp nodup)).1
  rw [perm.mem_iff, map_cons, mem_cons]
  constructor
  · intro member
    exact ⟨.inr member, fun same => fresh (same ▸ member)⟩
  · rintro ⟨same | member, ne⟩
    · exact absurd same ne
    · exact member

/-- Who holds what: the part of `Tracks` that a move of a request changes. -/
structure Held (holds : Place → List ResultFrame) (holder : Nat → Option Place) (epoch : Nat) :
    Prop where
  held : ∀ place id, id ∈ (holds place).map requestID ↔ holder id = some place
  nodup : ∀ place, ((holds place).map requestID).Nodup
  current : ∀ place, ∀ r ∈ holds place, r.epoch = epoch

theorem Tracks.placed (tracks : Tracks s holds ledger) : Held holds ledger.holder s.epoch :=
  ⟨tracks.held, tracks.nodup, tracks.current⟩

section Held

variable {holder holder' : Nat → Option Place} {epoch : Nat}

section

variable (h : Held holds holder epoch)
include h

/-- The order of the requests at a place does not matter. -/
theorem Held.perm
    (perm : ∀ place, (holds place).Perm (holds' place)) : Held holds' holder epoch where
  held place id := by
    rw [← ((perm place).map requestID).mem_iff]
    exact h.held place id
  nodup place := ((perm place).map requestID).nodup_iff.mp (h.nodup place)
  current place r member := h.current place r ((perm place).mem_iff.mpr member)

theorem Held.change (rest : ∀ place, place ≠ p → holds' place = holds place)
    (here : ∀ id, id ∈ (holds' p).map requestID ↔ holder' id = some p)
    (others : ∀ place id, place ≠ p → (holder' id = some place ↔ holder id = some place))
    (nodup : ((holds' p).map requestID).Nodup) (current : ∀ r ∈ holds' p, r.epoch = epoch) :
    Held holds' holder' epoch := by
  refine ⟨fun place id => ?_, fun place => ?_, fun place r member => ?_⟩
  all_goals by_cases atP : place = p
  · exact atP ▸ here id
  · rw [rest place atP, h.held, others place id atP]
  · exact atP ▸ nodup
  · exact rest place atP ▸ h.nodup place
  · exact current r (atP ▸ member)
  · exact h.current place r (rest place atP ▸ member)

theorem Held.take (take : (holds p).Perm (r :: holds' p))
    (rest : ∀ place, place ≠ p → holds' place = holds place) :
    Held holds' (update holder r.requestID none) epoch := by
  have here : holder r.requestID = some p :=
    (h.held p _).mp (List.mem_map_of_mem (take.mem_iff.mpr mem_cons_self))
  refine h.change rest (fun id => ?_) (fun place id ne => ?_)
    (nodup_cons.mp ((take.map requestID).nodup_iff.mp (h.nodup p))).2 fun other member =>
      h.current p other (take.mem_iff.mpr (mem_cons_of_mem _ member))
  · rw [mem_ids_of_perm take (h.nodup p), h.held]
    by_cases same : id = r.requestID
    · simp [same]
    · simp [same]
  · by_cases same : id = r.requestID
    · simp [same, here, ne.symm]
    · rw [update_of_ne same]

/-- A request nobody holds comes to `p`. -/
theorem Held.give (free : holder r.requestID = none)
    (current : r.epoch = epoch) (give : (holds' p).Perm (r :: holds p))
    (rest : ∀ place, place ≠ p → holds' place = holds place) :
    Held holds' (update holder r.requestID (some p)) epoch := by
  have absent : r.requestID ∉ (holds p).map requestID := by
    rw [h.held, free]
    exact nofun
  refine h.change rest (fun id => ?_) (fun place id ne => ?_)
    ((give.map _).nodup_iff.mpr (nodup_cons.mpr ⟨absent, h.nodup p⟩)) fun other member => ?_
  · rw [(give.map _).mem_iff, map_cons, mem_cons, h.held]
    by_cases same : id = r.requestID
    · simp [same]
    · simp [same]
  · by_cases same : id = r.requestID
    · simp [same, free, ne.symm]
    · rw [update_of_ne same]
  · rcases mem_cons.mp (give.mem_iff.mp member) with rfl | member
    · exact current
    · exact h.current p other member

end

end Held

section

variable (tracks : Tracks s holds ledger)
include tracks

theorem Tracks.hand (ne : p ≠ q)
    (take : (holds p).Perm (r :: holds' p)) (give : (holds' q).Perm (r :: holds q))
    (rest : ∀ place, place ≠ p → place ≠ q → holds' place = holds place) :
    Tracks s holds' (ledger.post (.hand r.requestID q)) := by
  have here : r ∈ holds p := take.mem_iff.mpr mem_cons_self
  -- On the way the request is with nobody.
  have taken : Held (update holds p (holds' p))
      (update ledger.holder r.requestID none) s.epoch :=
    tracks.placed.take (by rwa [update_self]) fun place atP =>
      update_of_ne atP _ _
  have given : Held holds' _ s.epoch :=
    taken.give (p := q) (update_self _ _ _) (tracks.current p r here)
      (by rwa [update_of_ne (symm ne)]) fun place atQ => by
        by_cases atP : place = p
        · rw [atP, update_self]
        · rw [update_of_ne atP, rest place atP atQ]
  rw [update_idem] at given
  refine { tracks with
    held := given.held, nodup := given.nodup, current := given.current
    flying := fun id place member => ?_ }
  rcases update_eq_some member with ⟨rfl, -⟩ | ⟨-, old⟩
  · exact tracks.flying r.requestID p (tracks.holder here)
  · exact tracks.flying id place old

theorem Tracks.flying_taken {id : Nat} {place : Place}
    (member : update ledger.holder r.requestID none id = some place) :
    id ≠ r.requestID ∧ s.inflight.lookup id = some s.epoch := by
  rcases update_eq_some member with ⟨-, none⟩ | ⟨ne, old⟩
  · cases none
  · exact ⟨ne, tracks.flying id place old⟩

/-- A request is dropped where it lies: it stays in flight. -/
theorem Tracks.forfeit (take : (holds p).Perm (r :: holds' p))
    (rest : ∀ place, place ≠ p → holds' place = holds place) :
    Tracks s holds' (ledger.post (.forfeit r.requestID)) := by
  obtain ⟨held, nodup, current⟩ := tracks.placed.take take rest
  exact { tracks with
    held, nodup, current, flying := fun _ _ member => (tracks.flying_taken member).2 }

theorem Tracks.forfeitAll {dropped kept : List ResultFrame}
    (perm : (holds p).Perm (dropped ++ kept)) : Tracks s (update holds p kept)
      (ledger.postAll (dropped.map fun r => .forfeit r.requestID)) ∧
    ledger.Valid (dropped.map fun r => .forfeit r.requestID) := by
  induction dropped generalizing holds ledger with
  | nil =>
    have same : ∀ place, (holds place).Perm (update holds p kept place) := by
      intro place
      by_cases atP : place = p
      · subst atP
        rwa [update_self]
      · rw [update_of_ne atP]
    obtain ⟨held, nodup, current⟩ := tracks.placed.perm same
    exact ⟨{ tracks with held, nodup, current }, trivial⟩
  | cons r dropped ih =>
    have one : Tracks s (update holds p (dropped ++ kept))
        (ledger.post (.forfeit r.requestID)) :=
      tracks.forfeit (by simpa using perm) fun place ne => update_of_ne ne _ _
    obtain ⟨all, valid⟩ := ih one (by simp)
    rw [update_idem] at all
    have here : r ∈ holds p := perm.mem_iff.mpr mem_cons_self
    exact ⟨all, by simp [Ledger.Entry.Valid, tracks.holder here], valid⟩

/-- A new request is reserved and given to a place. -/
theorem Tracks.raise (sound : ledger.Sound) (epoch : r.epoch = s.epoch)
    (fresh : r.requestID ∉ s.answered) (give : holds' p = r :: holds p)
    (rest : ∀ place, place ≠ p → holds' place = holds place) :
    Tracks { s.accept r with inflight := s.inflight.insert r.requestID r.epoch }
      holds' (ledger.post (.raise r.requestID p)) := by
  have unraised : r.requestID ∉ ledger.raised := fun member =>
    fresh ((tracks.answered _).mpr member)
  have free : ledger.holder r.requestID = none :=
    eq_none_iff_forall_ne_some.mpr fun place there => unraised (sound.held _ _ there)
  obtain ⟨held, nodup, current⟩ := tracks.placed.give free epoch (.of_eq give) rest
  refine ⟨held, nodup, current, ?_, tracks.paid, ?_, ?_, tracks.answerEpochs, ?_, ?_⟩
  · simp [Session.accept, post, tracks.raised]
  · intro id
    simp [Session.accept, post, tracks.answered id]
  · exact forall_mem_append.mpr ⟨tracks.epochs, forall_mem_singleton.mpr epoch⟩
  · intro id place member
    change (s.inflight.insert r.requestID r.epoch).lookup id = some s.epoch
    rw [lookup_insert]
    rcases update_eq_some member with ⟨same, -⟩ | ⟨ne, old⟩
    · rw [if_pos same, epoch]
    · rw [if_neg ne]
      exact tracks.flying id place old
  · intro id reserved found
    change (s.inflight.insert r.requestID r.epoch).lookup id = some reserved at found
    change reserved = s.epoch ∧ id ∈ r.requestID :: ledger.raised ∧ id ∉ ledger.paid
    rw [lookup_insert] at found
    split at found
    · next same =>
      cases found
      refine ⟨epoch, mem_cons.mpr (.inl same), fun paid => ?_⟩
      exact unraised (same ▸ (sound.paid id paid).1)
    · next =>
      obtain ⟨same, was, unpaid⟩ := tracks.inflight id reserved found
      exact ⟨same, mem_cons_of_mem _ was, unpaid⟩

end

/-- The entry that ends an obligation: its response is written if it keeps to the limit. -/
def ending (options : SessionOptions δ) (r : ResultFrame) (outcome : Outcome δ) : Entry Nat Place :=
  if options.marshals (response r.epoch r.requestID outcome) then .pay r.requestID
  else .forfeit r.requestID

/-- The request of a place is taken off the table and answered. -/
theorem Tracks.ending {options : SessionOptions δ} {outcome : Outcome δ}
    (tracks : Tracks s holds ledger) (take : (holds p).Perm (r :: holds' p))
    (rest : ∀ place, place ≠ p → holds' place = holds place) :
    Tracks
      (Session.answer options { s with inflight := s.inflight.erase r.requestID }
        (response r.epoch r.requestID outcome))
      holds' (ledger.post (ending options r outcome)) := by
  have here : r ∈ holds p := take.mem_iff.mpr mem_cons_self
  obtain ⟨held, nodup, current⟩ := tracks.placed.take take rest
  have flying : ∀ id place, update ledger.holder r.requestID none id = some place →
      (s.inflight.erase r.requestID).lookup id = some s.epoch := by
    intro id place member
    obtain ⟨ne, there⟩ := tracks.flying_taken member
    rw [lookup_erase, if_neg ne]
    exact there
  have left : ∀ id epoch, (s.inflight.erase r.requestID).lookup id = some epoch →
      id ≠ r.requestID ∧ s.inflight.lookup id = some epoch := by
    intro id epoch found
    rw [lookup_erase] at found
    split at found
    · cases found
    · next ne => exact ⟨ne, found⟩
  unfold Session.answer Tui.ending
  split
  · refine ⟨held, nodup, current, tracks.raised, ?_, tracks.answered, tracks.epochs, ?_,
      flying, ?_⟩
    · simp [post, tracks.paid, response]
    · exact forall_mem_append.mpr
        ⟨tracks.answerEpochs, forall_mem_singleton.mpr (tracks.current p r here)⟩
    · intro id epoch found
      obtain ⟨ne, found⟩ := left id epoch found
      obtain ⟨same, was, unpaid⟩ := tracks.inflight id epoch found
      refine ⟨same, was, fun member => ?_⟩
      exact (mem_cons.mp member).elim ne unpaid
  · exact { tracks with
      held, nodup, current, flying
      inflight := fun id epoch found => tracks.inflight id epoch (left id epoch found).2 }

theorem Tracks.completeForEpoch {options : SessionOptions δ} {outcome : Outcome δ}
    (tracks : Tracks s holds ledger) (here : r ∈ holds p) :
    s.completeForEpoch options r.epoch r.requestID outcome =
      Session.answer options { s with inflight := s.inflight.erase r.requestID }
        (response r.epoch r.requestID outcome) := by
  have epoch := tracks.current p r here
  unfold Session.completeForEpoch
  rw [tracks.flying _ _ (tracks.holder here), epoch]
  simp

end Posting

/-! ### What a step does to the ledger -/

/-- The scrolls in a queue, which a new scroll replaces. -/
def Terminal.replaced (t : Terminal) (r : ResultFrame) : List Work :=
  if r.method = "terminal.scroll" then t.historyQueue.filter Work.latest else []

def Host.entries (options : SessionOptions δ) (h : Host δ) :
    Event δ → List (Entry Nat Place)
  | .receive r forwarded =>
    match h.reader, h.session.refusal options r with
    | .idle, none =>
      if r.method = "input.forward" then
        [.raise r.requestID .reader, ending options r forwarded]
      else [.raise r.requestID .reader]
    | _, _ => []
  | .handle .background =>
    match h.reader with
    | .handling r => if r.method ∈ historyMethods then [] else [.hand r.requestID .background]
    | _ => []
  | .enqueue =>
    match h.reader with
    | .begun r t _ =>
      if historyQueueLimit ≤ (h.terminals t).historyQueue.length ∨
          (h.terminals t).historyClosed then []
      else
        (((h.terminals t).replaced r).map fun w => .forfeit w.request.requestID) ++
          [.hand r.requestID (.queue t)]
    | _ => []
  | .finish =>
    match h.reader with
    | .returned r outcome false => [ending options r outcome]
    | _ => []
  | .take t =>
    if (h.terminals t).historyRunning ∧ (h.terminals t).worker = none then
      ((h.terminals t).historyQueue.head?.map fun w =>
        .hand w.request.requestID (.worker t)).toList
    else []
  | .complete t outcome =>
    match (h.terminals t).worker with
    | some (.calling, work) => [ending options work.request (historyCompletion outcome)]
    | _ => []
  | .completeAsync r outcome =>
    if r ∈ h.background then [ending options r (asyncCompletion outcome)] else []
  | _ => []

/-- Between two hosts exactly these entries are posted. -/
def Posts (h h' : Host δ) (entries : List (Entry Nat Place)) : Prop :=
  ∀ ledger : Ledger Nat Place, ledger.Sound → Tracks h.session h.holds ledger →
    Tracks h'.session h'.holds (ledger.postAll entries) ∧ ledger.Valid entries

theorem Posts.nothing {h h' : Host δ} (session : h'.session = h.session)
    (holds : h'.holds = h.holds) : Posts h h' [] := by
  intro ledger _ tracks
  rw [session, holds]
  exact ⟨tracks, trivial⟩

theorem Posts.one {h h' : Host δ} {entry : Entry Nat Place}
    (post : ∀ ledger : Ledger Nat Place, ledger.Sound → Tracks h.session h.holds ledger →
      Tracks h'.session h'.holds (ledger.post entry) ∧ entry.Valid ledger) :
    Posts h h' [entry] := by
  intro ledger sound tracks
  obtain ⟨after, valid⟩ := post ledger sound tracks
  exact ⟨after, valid, trivial⟩

section Steps

variable {options : SessionOptions δ} {h h' : Host δ} {r : ResultFrame} {p q : Place} {t : Nat}

theorem Posts.hand (session : h'.session = h.session) (ne : p ≠ q)
    (take : (h.holds p).Perm (r :: h'.holds p)) (give : (h'.holds q).Perm (r :: h.holds q))
    (rest : ∀ place, place ≠ p → place ≠ q → h'.holds place = h.holds place) :
    Posts h h' [.hand r.requestID q] := by
  refine .one fun ledger _ tracks => ⟨?_, ?_⟩
  · rw [session]
    exact tracks.hand ne take give rest
  · have here : r ∈ h.holds p := take.mem_iff.mpr mem_cons_self
    exact isSome_iff_exists.mpr ⟨p, tracks.holder here⟩

theorem ending_valid {ledger : Ledger Nat Place} {outcome : Outcome δ}
    (held : (ledger.holder r.requestID).isSome) : (ending options r outcome).Valid ledger := by
  unfold ending
  split <;> exact held

theorem Posts.ending {outcome : Outcome δ}
    (session : ∀ ledger, Tracks h.session h.holds ledger → h'.session =
      Session.answer options
        { h.session with inflight := h.session.inflight.erase r.requestID }
        (response r.epoch r.requestID outcome))
    (take : (h.holds p).Perm (r :: h'.holds p))
    (rest : ∀ place, place ≠ p → h'.holds place = h.holds place) :
    Posts h h' [ending options r outcome] := by
  refine .one fun ledger _ tracks => ⟨?_, ?_⟩
  · rw [session ledger tracks]
    exact tracks.ending take rest
  · have here : r ∈ h.holds p := take.mem_iff.mpr mem_cons_self
    exact ending_valid (isSome_iff_exists.mpr ⟨p, tracks.holder here⟩)

theorem holds_setTerminal (h : Host δ) (t : Nat) (terminal : Terminal) (place : Place) :
    (h.setTerminal t terminal).holds place =
      if place = .queue t then terminal.historyQueue.map Work.request
      else if place = .worker t then terminal.owes
      else h.holds place := by
  cases place with
  | reader | background => rfl
  | queue i | worker i =>
    by_cases same : i = t
    · simp [holds, setTerminal, same]
    · simp [holds, setTerminal, same]

/-- A change of a terminal that moves no request. -/
theorem holds_setTerminal_quiet {terminal : Terminal}
    (queue : terminal.historyQueue = (h.terminals t).historyQueue)
    (owes : terminal.owes = (h.terminals t).owes) :
    (h.setTerminal t terminal).holds = h.holds := by
  funext place
  rw [holds_setTerminal]
  split
  · next same => rw [same, queue]; rfl
  split
  · next same => rw [same, owes]; rfl
  · rfl

theorem holds_reader (h : Host δ) (reader : Reader δ) (place : Place) :
    ({ h with reader := reader } : Host δ).holds place =
      if place = .reader then reader.owes else h.holds place := by
  cases place <;> rfl

theorem Tracks.refuse {s : Session δ} {holds : Place → List ResultFrame}
    {ledger : Ledger Nat Place} (tracks : Tracks s holds ledger) (message : Response δ) :
    Tracks (s.refuse options message) holds ledger := by
  unfold Session.refuse
  split
  · exact { tracks with }
  · exact tracks

/-- A frame that is not refused is of this epoch and new. -/
theorem refusal_none {s : Session δ} (accepted : s.refusal options r = none) :
    r.epoch = s.epoch ∧ r.requestID ∉ s.answered := by
  unfold Session.refusal at accepted
  split at accepted
  · cases accepted
  next epoch =>
  split at accepted
  · cases accepted
  · next fresh => exact ⟨not_not.mp epoch, fresh⟩

theorem Tracks.unreserved {s : Session δ} {holds : Place → List ResultFrame}
    {ledger : Ledger Nat Place} (tracks : Tracks s holds ledger)
    (fresh : r.requestID ∉ s.answered) :
    (s.inflight.insert r.requestID r.epoch).erase r.requestID = s.inflight := by
  refine ext_lookup fun id => ?_
  rw [lookup_erase, lookup_insert]
  split
  · next same =>
    cases found : s.inflight.lookup id with
    | none => rfl
    | some epoch =>
      have raised := (tracks.inflight id epoch found).2.1
      exact absurd (same ▸ (tracks.answered id).mpr raised) fresh
  · rfl

theorem receive_posts (r : ResultFrame) (forwarded : Outcome δ) :
    Posts h (h.perform options (.receive r forwarded))
      (h.entries options (.receive r forwarded)) := by
  cases reader : h.reader with
  | handling | queueing | begun | returned =>
    simp only [perform, Host.entries, reader]
    exact .nothing rfl rfl
  | idle =>
    have empty : h.holds .reader = [] := by simp [holds, Reader.owes, reader]
    have holds : ∀ session : Session δ,
        ({ h with session := session, reader := .idle } : Host δ).holds = h.holds := by
      intro session
      funext place
      cases place <;> simp [holds, reader]
    cases refused : h.session.refusal options r with
    | some error =>
      intro ledger _ tracks
      simp only [perform, Host.entries, Session.reserve, reader, refused, holds,
        Bool.false_eq_true, if_false]
      exact ⟨tracks.refuse _, trivial⟩
    | none =>
      obtain ⟨epoch, fresh⟩ := refusal_none refused
      intro ledger sound tracks
      have unraised : r.requestID ∉ ledger.raised := fun member =>
        fresh ((tracks.answered _).mpr member)
      by_cases forward : r.method = "input.forward"
      · -- accepted and answered in one region: raised and ended at the reader
        have raised : Tracks _ (update h.holds .reader [r])
            (ledger.post (.raise r.requestID .reader)) :=
          tracks.raise sound epoch fresh (by rw [update_self, empty])
            fun place ne => update_of_ne ne _ _
        have ended : Tracks _ h.holds
            ((ledger.post (.raise r.requestID .reader)).post (ending options r forwarded)) :=
          raised.ending (p := .reader) (by rw [update_self, empty])
            fun place ne => (update_of_ne ne _ _).symm
        simp only [tracks.unreserved fresh] at ended
        simp only [perform, Host.entries, Session.reserve, reader, refused, forward, if_true,
          holds, Bool.false_eq_true, if_false]
        refine ⟨ended, unraised, ending_valid ?_, trivial⟩
        simp [Ledger.post]
      · simp only [perform, Host.entries, Session.reserve, reader, refused, forward, if_true,
          if_false]
        refine ⟨tracks.raise sound epoch fresh ?_ ?_, unraised, trivial⟩
        · rw [empty]
          rfl
        · intro place ne
          cases place <;> first | rfl | exact absurd rfl ne

theorem Posts.reader {reader : Reader δ} (owes : reader.owes = h.reader.owes) :
    Posts h { h with reader := reader } [] := by
  refine .nothing rfl ?_
  funext place
  rw [holds_reader]
  split
  · next same => rw [same, owes]; rfl
  · rfl

theorem terminalHistory_owes (r : ResultFrame) (inline : Outcome δ) :
    (h.terminalHistory r inline).owes = [r] := by
  unfold terminalHistory
  split
  · rfl
  split
  · rfl
  · split <;> rfl

theorem handle_posts (handled : Handled δ) :
    Posts h (h.perform options (.handle handled)) (h.entries options (.handle handled)) := by
  cases reader : h.reader with
  | idle | queueing | begun | returned =>
    cases handled <;> simp only [perform, handle, Host.entries, reader] <;>
      exact .nothing rfl rfl
  | handling r =>
    have owes : h.reader.owes = [r] := by rw [reader]; rfl
    cases handled with
    | inline outcome =>
      by_cases history : r.method ∈ historyMethods
      · simp only [perform, handle, Host.entries, reader, history, if_true]
        exact .reader ((terminalHistory_owes r outcome).trans owes.symm)
      · simp only [perform, handle, Host.entries, reader, history, if_false]
        exact .reader owes.symm
    | background =>
      by_cases history : r.method ∈ historyMethods
      · simp only [perform, handle, Host.entries, reader, history, if_true]
        exact .nothing rfl rfl
      simp only [perform, handle, Host.entries, reader, history, if_false]
      refine .hand (p := .reader) rfl nofun ?_ ?_ ?_
      · simp [holds, Reader.owes, reader]
      · rfl
      · intro place atReader atBackground
        cases place with
        | reader => exact absurd rfl atReader
        | background => exact absurd rfl atBackground
        | queue i | worker i => rfl

theorem holds_setView (h : Host δ) (t : Nat) (view : String) (f : PaneView → PaneView) :
    (h.setTerminal t ((h.terminals t).setView view f)).holds = h.holds :=
  holds_setTerminal_quiet rfl rfl

theorem beginHistoryScroll_posts :
    Posts h (h.perform options .beginHistoryScroll)
      (h.entries options .beginHistoryScroll) := by
  cases reader : h.reader with
  | idle | handling | begun | returned =>
    simp only [perform, Host.beginHistoryScroll, Host.entries, reader]
    exact .nothing rfl rfl
  | queueing r t =>
    simp only [perform, Host.beginHistoryScroll, Host.entries, reader]
    refine .nothing rfl ?_
    funext place
    rw [holds_reader]
    split
    · next same =>
      rw [same]
      simp [holds, Reader.owes, reader]
    · rw [holds_setView]

/-- Scrolls and other work split a queue. -/
theorem split_queue (works : List Work) :
    (works.map Work.request).Perm
      ((works.filter Work.latest).map Work.request ++
        (works.filter fun w => !w.latest).map Work.request) := by
  rw [← map_append]
  exact (filter_append_perm Work.latest works).symm.map _

/-- What the queue keeps when the work of `r` enters. -/
theorem enqueueHistory_spec {terminal : Terminal} {token : Nat}
    (room : ¬ (historyQueueLimit ≤ terminal.historyQueue.length ∨ terminal.historyClosed)) :
    ∃ next kept, terminal.enqueueHistory ⟨r, token, r.method = "terminal.scroll", 0⟩ =
        some next ∧ next.owes = terminal.owes ∧
      (next.historyQueue.map Work.request).Perm (r :: kept) ∧
      (terminal.historyQueue.map Work.request).Perm
        ((terminal.replaced r).map Work.request ++ kept) := by
  by_cases scroll : r.method = "terminal.scroll"
  · simp only [enqueueHistory, room, scroll, if_false, decide_true, if_true]
    refine ⟨_, (terminal.historyQueue.filter fun w => !w.latest).map Work.request, rfl, rfl,
      .refl _, ?_⟩
    rw [replaced, if_pos scroll]
    exact split_queue terminal.historyQueue
  · simp only [enqueueHistory, room, scroll, if_false, decide_false, Bool.false_eq_true]
    refine ⟨_, terminal.historyQueue.map Work.request, rfl, rfl, ?_, ?_⟩
    · rw [map_append]
      exact perm_append_singleton _ _
    · rw [replaced, if_neg scroll]
      exact .refl _

theorem enqueue_posts : Posts h (h.perform options .enqueue) (h.entries options .enqueue) := by
  cases reader : h.reader with
  | idle | handling | queueing | returned =>
    simp only [perform, enqueue, Host.entries, reader]
    exact .nothing rfl rfl
  | begun r t token =>
    have owes : h.holds .reader = [r] := by simp [holds, Reader.owes, reader]
    by_cases room : historyQueueLimit ≤ (h.terminals t).historyQueue.length ∨
        (h.terminals t).historyClosed
    · simp only [perform, enqueue, Host.entries, reader, enqueueHistory, room,
        if_true]
      refine .nothing rfl ?_
      funext place
      rw [holds_reader, holds_setView]
      split
      · next same => rw [same, owes]; rfl
      · rfl
    · obtain ⟨next, kept, enqueued, idle, entered, split⟩ :=
        @enqueueHistory_spec r _ token room
      simp only [perform, enqueue, Host.entries, reader, enqueued, room, if_false]
      intro ledger _ tracks
      -- first the replaced scrolls go, then the new work comes
      obtain ⟨dropped, valid⟩ := tracks.forfeitAll (p := .queue t) split
      rw [List.map_map] at dropped valid
      refine ⟨?_, valid_append.mpr ⟨valid, ?_, trivial⟩⟩
      · rw [postAll_append]
        refine dropped.hand (p := .reader) nofun ?_ ?_ ?_
        · rw [update_of_ne (by rintro ⟨⟩), owes]
          exact .refl _
        · rw [update_self, holds_reader, holds_setTerminal, if_pos rfl]
          exact entered
        · intro place atReader atQueue
          rw [holds_reader, if_neg atReader, holds_setTerminal, if_neg atQueue,
            update_of_ne atQueue]
          split
          · next same => rw [same, idle]; rfl
          · rfl
      · have here : r ∈ update h.holds (.queue t) kept .reader := by
          rw [update_of_ne (by rintro ⟨⟩), owes]
          exact mem_singleton_self r
        exact isSome_iff_exists.mpr ⟨.reader, dropped.holder here⟩

theorem finish_posts : Posts h (h.perform options .finish) (h.entries options .finish) := by
  cases reader : h.reader with
  | idle | handling | queueing | begun =>
    simp only [perform, Host.entries, reader]
    exact .nothing rfl rfl
  | returned r outcome pending =>
    cases pending with
    | true =>
      simp only [perform, Host.entries, reader, Session.finish, if_true, ite_self]
      refine .nothing rfl ?_
      funext place
      cases place <;> simp [holds, Reader.owes, reader]
    | false =>
      have owes : h.holds .reader = [r] := by simp [holds, Reader.owes, reader]
      simp only [perform, Host.entries, reader]
      refine .ending (p := .reader) ?_ ?_ ?_
      · intro ledger tracks
        have epoch : r.epoch = h.session.epoch :=
          tracks.current .reader r (owes ▸ mem_singleton_self r)
        simp [Session.finish, epoch]
      · rw [owes]
        exact .refl _
      · intro place ne
        cases place <;> first | rfl | exact absurd rfl ne

theorem take_posts (t : Nat) :
    Posts h (h.perform options (.take t)) (h.entries options (.take t)) := by
  by_cases ready : (h.terminals t).historyRunning ∧ (h.terminals t).worker = none
  · cases queue : (h.terminals t).historyQueue with
    | nil =>
      simp only [perform, Host.entries, takeWork, ready, queue, and_self, if_true,
        List.head?_nil, map_none, toList_none]
      exact .nothing rfl (holds_setTerminal_quiet queue.symm (by simp [Terminal.owes, ready]))
    | cons work works =>
      simp only [perform, Host.entries, takeWork, ready, queue, and_self, if_true,
        List.head?_cons, map_some, toList_some]
      refine .hand (p := .queue t) rfl nofun ?_ ?_ ?_
      · rw [holds_setTerminal]
        simp [holds, queue]
      · rw [holds_setTerminal]
        simp [holds, Terminal.owes, ready.2]
      · intro place atQueue atWorker
        rw [holds_setTerminal, if_neg atQueue, if_neg atWorker]
  · simp only [perform, Host.entries, takeWork, ready, if_false]
    exact .nothing rfl (holds_setTerminal_quiet rfl rfl)

theorem start_posts (t : Nat) :
    Posts h (h.perform options (.start t)) (h.entries options (.start t)) := by
  simp only [perform, Host.entries]
  split
  · next work worker =>
    have owes : (h.terminals t).owes = [work.request] := by simp [owes, worker]
    intro ledger _ tracks
    -- a request of this epoch is in the closure, so the early return is not taken
    have epoch : work.request.epoch = h.session.epoch :=
      tracks.current (.worker t) work.request (by simp [holds, owes])
    have quiet : (h.setTerminal t ((h.terminals t).setStage .calling work)).holds = h.holds :=
      holds_setTerminal_quiet rfl owes.symm
    rw [if_neg (not_not.mpr epoch.symm), quiet]
    exact ⟨tracks, trivial⟩
  · exact .nothing rfl rfl

theorem complete_posts (t : Nat) (outcome : Outcome δ) :
    Posts h (h.perform options (.complete t outcome))
      (h.entries options (.complete t outcome)) := by
  cases worker : (h.terminals t).worker with
  | none =>
    simp only [perform, Host.entries, worker]
    exact .nothing rfl rfl
  | some running =>
    obtain ⟨stage, work⟩ := running
    cases stage with
    | calling =>
      have owes : h.holds (.worker t) = [work.request] := by
        simp [holds, Terminal.owes, worker]
      have holds : ∀ session : Session δ, ∀ place,
          ({ h.setTerminal t ((h.terminals t).setStage .ending work) with
            session := session } : Host δ).holds place =
          if place = .worker t then [] else h.holds place := by
        intro session place
        change (h.setTerminal t ((h.terminals t).setStage .ending work)).holds place = _
        rw [holds_setTerminal]
        by_cases queue : place = .queue t
        · rw [if_pos queue, queue]
          rfl
        · rw [if_neg queue]
          rfl
      simp only [perform, Host.entries, worker]
      refine .ending (p := .worker t) ?_ ?_ ?_
      · intro ledger tracks
        exact tracks.completeForEpoch (p := .worker t) (owes ▸ mem_singleton_self _)
      · rw [holds, if_pos rfl, owes]
      · intro place ne
        rw [holds, if_neg ne]
    | _ =>
      simp only [perform, Host.entries, worker]
      exact .nothing rfl rfl

theorem completeAsync_posts (r : ResultFrame) (outcome : Outcome δ) :
    Posts h (h.perform options (.completeAsync r outcome))
      (h.entries options (.completeAsync r outcome)) := by
  simp only [perform, Host.entries]
  split
  · next member =>
    refine .ending (p := .background) ?_ ?_ ?_
    · intro ledger tracks
      exact tracks.completeForEpoch (p := .background) member
    · exact perm_cons_erase member
    · intro place ne
      cases place <;> first | rfl | exact absurd rfl ne
  · exact .nothing rfl rfl

theorem endScroll_posts (t : Nat) :
    Posts h (h.perform options (.endScroll t)) (h.entries options (.endScroll t)) := by
  simp only [perform, Host.entries]
  split
  · next work worker =>
    refine .nothing rfl (holds_setTerminal_quiet rfl ?_)
    simp [owes, setStage, worker]
  · exact .nothing rfl rfl

theorem clear_posts (t : Nat) :
    Posts h (h.perform options (.clear t)) (h.entries options (.clear t)) := by
  refine .nothing rfl (holds_setTerminal_quiet ?_ ?_)
  · unfold clearWork
    split <;> rfl
  · unfold clearWork
    split
    · next work worker => simp [owes, worker]
    · rfl

theorem perform_posts (e : Event δ) : Posts h (h.perform options e) (h.entries options e) := by
  cases e with
  | receive r forwarded => exact receive_posts r forwarded
  | handle handled => exact handle_posts handled
  | beginHistoryScroll => exact beginHistoryScroll_posts
  | enqueue => exact enqueue_posts
  | finish => exact finish_posts
  | take t => exact take_posts t
  | start t => exact start_posts t
  | complete t outcome => exact complete_posts t outcome
  | endScroll t => exact endScroll_posts t
  | clear t => exact clear_posts t
  | completeAsync r outcome => exact completeAsync_posts r outcome
  | publish t view historyActive pinned => exact .nothing rfl (holds_setView h t view _)
  | release t view | close t => exact .nothing rfl (holds_setTerminal_quiet rfl rfl)
  | bind source terminal => exact .nothing rfl rfl

end Steps

/-! ### Whole runs -/

/-- The steps that lose no reply: a scroll enters a queue without other scrolls, and the
answer to an accepted frame keeps to the message limit. -/
def Careful (options : SessionOptions δ) (h : Host δ) : Event δ → Prop
  | .receive r forwarded =>
    h.reader = .idle → h.session.refusal options r = none → r.method = "input.forward" →
      options.marshals (response r.epoch r.requestID forwarded)
  | .enqueue =>
    ∀ r t token, h.reader = .begun r t token → r.method = "terminal.scroll" →
      (h.terminals t).historyQueue.length < historyQueueLimit →
      (h.terminals t).historyClosed = false →
      ∀ w ∈ (h.terminals t).historyQueue, w.latest = false
  | .finish =>
    ∀ r outcome, h.reader = .returned r outcome false →
      options.marshals (response r.epoch r.requestID outcome)
  | .complete t outcome =>
    ∀ work, (h.terminals t).worker = some (.calling, work) →
      options.marshals
        (response work.request.epoch work.request.requestID (historyCompletion outcome))
  | .completeAsync r outcome =>
    r ∈ h.background →
      options.marshals (response r.epoch r.requestID (asyncCompletion outcome))
  | _ => True

/-- Every step of a run is careful. -/
def CarefulRun (options : SessionOptions δ) (h : Host δ) : List (Event δ) → Prop
  | [] => True
  | e :: events => Careful options h e ∧ CarefulRun options (h.perform options e) events

section

variable {options : SessionOptions δ} {h : Host δ}

theorem ending_isForfeit (r : ResultFrame) (outcome : Outcome δ) :
    (ending options r outcome).isForfeit = false ↔
      options.marshals (response r.epoch r.requestID outcome) := by
  unfold ending
  split
  · next fits => simp [Ledger.Entry.isForfeit, fits]
  · next large => simp [Ledger.Entry.isForfeit, large]

theorem enqueue_careful :
    Careful options h .enqueue ↔
      ∀ entry ∈ h.entries options .enqueue, entry.isForfeit = false := by
  cases reader : h.reader with
  | idle | handling | queueing | returned =>
    simp [Careful, Host.entries, reader]
  | begun r t token =>
    by_cases room : historyQueueLimit ≤ (h.terminals t).historyQueue.length ∨
        (h.terminals t).historyClosed
    · simp only [Host.entries, reader, room, if_true, not_mem_nil, false_implies,
        implies_true, iff_true]
      rintro r' t' token' same - short opened
      cases same.symm.trans reader
      rcases room with full | closed
      · exact absurd full (not_le.mpr short)
      · rw [opened] at closed
        cases closed
    · have split : (h.terminals t).historyQueue.length < historyQueueLimit ∧
          (h.terminals t).historyClosed = false := by simpa using room
      simp only [Host.entries, reader, room, if_false, mem_append, List.mem_map,
        mem_singleton]
      constructor
      · rintro careful entry (⟨work, member, rfl⟩ | rfl)
        · unfold replaced at member
          split at member
          · next scroll =>
            obtain ⟨queued, latest⟩ := mem_filter.mp member
            rw [careful r t token reader scroll split.1 split.2 work queued] at latest
            cases latest
          · cases member
        · rfl
      · rintro kept r' t' token' same scroll - - work queued
        cases same.symm.trans reader
        by_contra latest
        have member : work ∈ (h.terminals t).replaced r := by
          rw [replaced, if_pos scroll]
          exact mem_filter.mpr ⟨queued, by simpa using latest⟩
        cases kept _ (.inl ⟨work, member, rfl⟩)

theorem receive_careful (r : ResultFrame) (forwarded : Outcome δ) :
    Careful options h (.receive r forwarded) ↔
      ∀ entry ∈ h.entries options (.receive r forwarded), entry.isForfeit = false := by
  cases reader : h.reader with
  | handling | queueing | begun | returned =>
    simp [Careful, Host.entries, reader]
  | idle =>
    cases refused : h.session.refusal options r with
    | some error => simp [Careful, Host.entries, reader, refused]
    | none =>
      by_cases forward : r.method = "input.forward"
      · have raised : (Ledger.Entry.raise r.requestID Place.reader).isForfeit = false := rfl
        simp [Careful, Host.entries, reader, refused, forward, raised, ending_isForfeit]
      · have raised : (Ledger.Entry.raise r.requestID Place.reader).isForfeit = false := rfl
        simp [Careful, Host.entries, reader, refused, forward, raised]

theorem careful_iff (e : Event δ) :
    Careful options h e ↔ ∀ entry ∈ h.entries options e, entry.isForfeit = false := by
  cases e with
  | enqueue => exact enqueue_careful
  | receive r forwarded => exact receive_careful r forwarded
  | finish =>
    cases reader : h.reader with
    | idle | handling | queueing | begun => simp [Careful, Host.entries, reader]
    | returned r outcome pending =>
      cases pending <;> simp [Careful, Host.entries, reader, ending_isForfeit]
  | complete t outcome =>
    simp only [Careful, Host.entries]
    split
    · next work worker => simp [worker, ending_isForfeit]
    · next other => exact iff_of_true (fun work worker => absurd worker (other work)) (by simp)
  | completeAsync r outcome =>
    by_cases member : r ∈ h.background <;>
      simp [Careful, Host.entries, member, ending_isForfeit]
  | handle handled =>
    refine iff_of_true trivial ?_
    cases handled with
    | inline outcome => simp [Host.entries]
    | background =>
      simp only [Host.entries]
      split
      · split <;> simp [Ledger.Entry.isForfeit]
      · simp
  | take t =>
    refine iff_of_true trivial ?_
    simp only [Host.entries]
    split
    · cases (h.terminals t).historyQueue <;> simp [Ledger.Entry.isForfeit]
    · simp
  | _ => simp [Careful, Host.entries]

/-- A run as a history of the ledger. -/
theorem run_posts (events : List (Event δ)) :
    ∃ entries, Posts h (h.run options events) entries ∧
      (CarefulRun options h events ↔ ∀ entry ∈ entries, entry.isForfeit = false) := by
  induction events generalizing h with
  | nil => exact ⟨[], Posts.nothing rfl rfl, by simp [CarefulRun]⟩
  | cons e events ih =>
    obtain ⟨later, posts, careful⟩ := @ih (h.perform options e)
    refine ⟨h.entries options e ++ later, ?_, ?_⟩
    · intro ledger sound tracks
      have step : Posts h (h.perform options e) (h.entries options e) := perform_posts e
      obtain ⟨first, valid⟩ := step ledger sound tracks
      obtain ⟨last, validLater⟩ := posts _ (sound.postAll valid) first
      exact ⟨by rwa [postAll_append], valid_append.mpr ⟨valid, validLater⟩⟩
    · rw [CarefulRun, careful_iff, careful, forall_mem_append]

theorem newHost_tracks (epoch : Nat) (bySource : String × String → Option Nat)
    (hasPersistentHistory : Nat → Bool) :
    Tracks (newHost epoch bySource hasPersistentHistory : Host δ).session
      (newHost epoch bySource hasPersistentHistory : Host δ).holds Ledger.empty := by
  have nothing : (newHost epoch bySource hasPersistentHistory : Host δ).holds = fun _ => [] := by
    funext place
    cases place <;> rfl
  rw [nothing]
  refine ⟨?_, ?_, ?_, rfl, rfl, ?_, ?_, ?_, ?_, ?_⟩ <;>
    simp [Ledger.empty, newHost, newSession]

/-- Reader, queues, workers and goroutines are done. -/
structure Host.Idle (h : Host δ) : Prop where
  reader : h.reader = .idle
  queues : ∀ t, (h.terminals t).historyQueue = []
  workers : ∀ t, (h.terminals t).historyRunning = false ∧ (h.terminals t).worker = none
  background : h.background = []

theorem Host.Idle.holds (idle : h.Idle) (place : Place) : h.holds place = [] := by
  cases place with
  | reader => simp [Host.holds, idle.reader, Reader.owes]
  | queue t => simp [Host.holds, idle.queues t]
  | worker t => simp [Host.holds, Terminal.owes, idle.workers t]
  | background => exact idle.background

/-- Nothing is in flight, and every accepted frame has exactly one response with its epoch and
request id. -/
structure Host.AllAnswered (h : Host δ) : Prop where
  inflight : h.session.inflight = SortedMap.empty
  once : ∀ r ∈ h.session.accepted,
    (h.session.answers.countP fun a => a.epoch = r.epoch ∧ a.requestID = r.requestID) = 1

/-- Among answers of one epoch only the id counts. -/
theorem countP_answers {answers : List (Response δ)} {epoch id : Nat}
    (epochs : ∀ a ∈ answers, a.epoch = epoch) :
    (answers.countP fun a => a.epoch = epoch ∧ a.requestID = id) =
      (answers.map Response.requestID).count id := by
  rw [List.count, countP_map]
  refine countP_congr fun a member => ?_
  simp [epochs a member]

theorem allAnswered_iff {ledger : Ledger Nat Place} (sound : ledger.Sound)
    (tracks : Tracks h.session h.holds ledger) (idle : h.Idle) :
    h.AllAnswered ↔ ledger.Settled := by
  have free : ∀ id, ledger.holder id = none := by
    intro id
    cases holder : ledger.holder id with
    | none => rfl
    | some place =>
      have held := (tracks.held place id).mpr holder
      rw [idle.holds place] at held
      cases held
  have raised : ∀ id, id ∈ ledger.raised ↔
      id ∈ h.session.accepted.map requestID := fun id => by
    rw [← tracks.raised, mem_reverse]
  have paid : ∀ id, id ∈ ledger.paid ↔ id ∈ h.session.answers.map Response.requestID :=
    fun id => by rw [← tracks.paid, mem_reverse]
  have nodup : (h.session.answers.map Response.requestID).Nodup := by
    rw [← tracks.paid]
    exact nodup_reverse.mpr sound.paid_nodup
  have count : ∀ r ∈ h.session.accepted,
      (h.session.answers.countP fun a => a.epoch = r.epoch ∧ a.requestID = r.requestID) =
        (h.session.answers.map Response.requestID).count r.requestID := by
    intro r member
    rw [tracks.epochs r member]
    exact countP_answers tracks.answerEpochs
  constructor
  · intro answered id member
    obtain ⟨r, accepted, rfl⟩ := List.mem_map.mp ((raised id).mp member)
    have one := answered.once r accepted
    rw [count r accepted] at one
    exact .inl ((paid _).mpr (count_pos_iff.mp (one ▸ Nat.one_pos)))
  · intro settled
    have all : ∀ id ∈ ledger.raised, id ∈ ledger.paid := fun id member =>
      (settled id member).resolve_right (by simp [free id])
    refine ⟨ext_lookup fun id => ?_, ?_⟩
    · cases found : h.session.inflight.lookup id with
      | none => rfl
      | some epoch =>
        obtain ⟨-, was, unpaid⟩ := tracks.inflight id epoch found
        exact absurd (all id was) unpaid
    · intro r accepted
      rw [count r accepted]
      refine count_eq_one_of_mem nodup ((paid _).mp (all _ ((raised _).mpr ?_)))
      exact List.mem_map_of_mem accepted

end

/-- When the host has come to rest, every accepted RESULT was answered by exactly one
RESPONSE and nothing is in flight, exactly if no scroll replaced a queued scroll and every answer
kept to the message limit. -/
theorem requests_answered_once (options : SessionOptions δ) (epoch : Nat)
    (bySource : String × String → Option Nat) (hasPersistentHistory : Nat → Bool)
    (events : List (Event δ))
    (idle : ((newHost epoch bySource hasPersistentHistory).run options events).Idle) :
    ((newHost epoch bySource hasPersistentHistory).run options events).AllAnswered ↔
      CarefulRun options (newHost epoch bySource hasPersistentHistory) events := by
  obtain ⟨entries, posts, careful⟩ :=
    @run_posts δ options (newHost epoch bySource hasPersistentHistory) events
  obtain ⟨tracks, valid⟩ :=
    posts Ledger.empty empty_sound (newHost_tracks epoch bySource hasPersistentHistory)
  rw [allAnswered_iff (empty_sound.postAll valid) tracks idle,
    settled_postAll empty_sound valid, careful]
  exact and_iff_right empty_settled

section Example

/-- A host with one terminal with persistent history, whose methods and messages are all
accepted. -/
def oneTerminal : Host Unit := newHost 1 (fun _ => some 0) fun _ => true

def permissive : SessionOptions Unit := ⟨fun _ => true, fun _ _ => "", 64, fun _ => true⟩

def scrollUp (id : Nat) : ResultFrame := ⟨1, id, "terminal.scroll", ⟨"e", "t", "pane", 1, []⟩⟩

/-- The reader takes a scroll and its handler puts it into the queue. -/
def scrolled (id : Nat) : List (Event Unit) :=
  [.receive (scrollUp id) (.failed ""), .handle (.inline (.failed "")), .beginHistoryScroll,
    .enqueue, .finish]

/-- The worker serves the head of the queue. -/
def served : List (Event Unit) :=
  [.start 0, .complete 0 ⟨true, some (), ""⟩, .endScroll 0, .clear 0, .take 0]

/-- Three scrolls while the first is being served. -/
def threeScrolls : List (Event Unit) :=
  scrolled 1 ++ [.take 0] ++ scrolled 2 ++ scrolled 3 ++ served ++ served

theorem requests_answered_once_two :
    (oneTerminal.run permissive (scrolled 1 ++ [.take 0] ++ scrolled 2 ++ served ++
      served)).AllAnswered := by
  refine (requests_answered_once permissive 1 (fun _ => some 0) (fun _ => true) _
    ⟨rfl, ?_, ?_, rfl⟩).mpr ?_
  · intro t
    cases t <;> rfl
  · intro t
    cases t <;> exact ⟨rfl, rfl⟩
  · -- both scrolls enter an empty queue
    have entered : ∀ {h : Host Unit} {r : ResultFrame} {token : Nat},
        h.reader = .begun r 0 token → (h.terminals 0).historyQueue = [] →
        Careful permissive h .enqueue := by
      rintro h r token reader queue r' t token' same - - - work member
      cases same.symm.trans reader
      rw [queue] at member
      cases member
    exact ⟨fun _ _ _ => rfl, trivial, trivial, entered rfl rfl, fun _ _ _ => rfl, trivial,
      fun _ _ _ => rfl, trivial, trivial, entered rfl rfl, fun _ _ _ => rfl,
      trivial, fun _ _ => rfl, trivial, trivial, trivial,
      trivial, fun _ _ => rfl, trivial, trivial, trivial, trivial⟩

/-- The second of three scrolls is never answered. -/
theorem scroll_replaced_unanswered :
    (oneTerminal.run permissive threeScrolls).Idle ∧
      ¬ (oneTerminal.run permissive threeScrolls).AllAnswered ∧
      (oneTerminal.run permissive threeScrolls).session.inflight.lookup 2 = some 1 ∧
      (oneTerminal.run permissive threeScrolls).session.answers.map Response.requestID =
        [1, 3] := by
  refine ⟨⟨rfl, ?_, ?_, rfl⟩, ?_, rfl, rfl⟩
  · intro t
    cases t <;> rfl
  · intro t
    cases t <;> exact ⟨rfl, rfl⟩
  · intro answered
    have empty := answered.inflight
    have found : (oneTerminal.run permissive threeScrolls).session.inflight.lookup 2 = some 1 :=
      rfl
    rw [empty] at found
    cases found

end Example

end Anytty.Tui
