import Anytty.Tui.View

/-!
# Diff and patch

The patches of `diffView` always apply, and their result is `patched`: equal boxes are left as they
are, a box whose fields cannot be set is replaced, and of the other boxes the fields are merged and
the children patched in turn or exchanged between the equal ends.

The result need not be the new tree. `boxesEqual` does not see the visibility of a cursor, nor a
property with an empty text under another key, and a set patch for a box with content lines appends
the lines to themselves (`patches_lose_view`). `Faithful` says where the walk meets none of these,
and the result is the new tree exactly then (`diffView_faithful`).
-/

namespace Anytty.Tui.View

open List Option View.Patch

open Anytty.Data (SortedMap)

/-! ### Applying patches below a child -/

/-- The patch for the subtree at a path. -/
def Patch.under (path : List Nat) (p : Patch) : Patch := { p with path := path ++ p.path }

theorem applyPatches_append (root : Box) (ps qs : List Patch) :
    applyPatches root (ps ++ qs) = (applyPatches root ps).bind fun r => applyPatches r qs := by
  induction ps generalizing root with
  | nil => rfl
  | cons p ps ih =>
    simp only [cons_append, applyPatches]
    cases applyPatch root p with
    | error reason => rfl
    | ok next => exact ih next

variable {a : Attrs}

theorem editAt_child {edit : Box → Except Reason Box} {cs : List Box} {i : Nat} {c : Box}
    (at_i : cs[i]? = some c) (path : List Nat) :
    editAt edit (.mk a cs) (i :: path) =
      (editAt edit c path).map fun c' => .mk a (cs.set i c') := by
  simp only [editAt, at_i]

/-- A patch of a child, but for the removal of the child itself. -/
theorem applyPatch_under {cs : List Box} {i : Nat} {c : Box} (at_i : cs[i]? = some c) {p : Patch}
    (deep : p.op = .remove → p.path ≠ []) :
    applyPatch (.mk a cs) (p.under [i]) =
      (applyPatch c p).map fun c' => .mk a (cs.set i c') := by
  obtain ⟨op, path, box, index, source, target⟩ := p
  cases op with
  | set | replace | insert =>
    cases box with
    | none => rfl
    | some box => exact editAt_child at_i path
  | move => exact editAt_child at_i path
  | unknown => cases box <;> rfl
  | remove =>
    cases path with
    | nil => exact absurd rfl (deep rfl)
    | cons next rest =>
      cases box <;> simp only [applyPatch, under, singleton_append, removeAt, at_i]

theorem applyPatches_under {cs : List Box} {i : Nat} {c : Box} (at_i : cs[i]? = some c)
    {ps : List Patch} (deep : ∀ p ∈ ps, p.op = .remove → p.path ≠ []) :
    applyPatches (.mk a cs) (ps.map (under [i])) =
      (applyPatches c ps).map fun c' => .mk a (cs.set i c') := by
  induction ps generalizing cs c with
  | nil =>
    obtain ⟨inside, same⟩ := List.getElem?_eq_some_iff.mp at_i
    simp only [map_nil, applyPatches, Except.map, ← same, set_getElem_self]
  | cons p ps ih =>
    simp only [map_cons, applyPatches, applyPatch_under at_i (deep p mem_cons_self)]
    cases applyPatch c p with
    | error reason => rfl
    | ok next =>
      obtain ⟨inside, _⟩ := List.getElem?_eq_some_iff.mp at_i
      have at_i' : (cs.set i next)[i]? = some next := by simp [inside]
      change applyPatches (.mk a (cs.set i next)) (ps.map (under [i])) = _
      rw [ih at_i' fun q member => deep q (mem_cons_of_mem _ member)]
      simp

/-! ### Paths -/

theorem under_under (path path' : List Nat) (p : Patch) :
    (p.under path').under path = p.under (path ++ path') := by
  simp [under]

theorem scalarPatch_under (a b : Attrs) (path : List Nat) :
    scalarPatch a b path = (scalarPatch a b []).map (under path) := by
  unfold scalarPatch
  split
  · simp [under]
  · rfl

theorem middlePatches_under (cs ds : List Box) (path : List Nat) :
    middlePatches cs ds path = (middlePatches cs ds []).map (under path) := by
  simp [middlePatches, under, removePatch, insertPatch, map_replicate]

theorem diffChild_under {c d : Box} {path path' : List Nat} {ps qs : List Patch}
    (same : ps = qs.map (under path)) :
    diffChild c d (path ++ path') ps = (diffChild c d path' qs).map (under path) := by
  unfold diffChild
  split
  · rfl
  split
  · exact same
  · rfl

mutual

theorem diffNode_under (base next : Box) (path : List Nat) :
    diffNode base next path = (diffNode base next []).map (under path) := by
  match base, next with
  | .mk a cs, .mk b ds =>
    unfold diffNode
    split
    · rfl
    split
    · simp [replacePatch, under]
    split
    · rw [map_append, ← scalarPatch_under, diffChildren_under cs ds path 0]
    · rw [map_append, ← scalarPatch_under, ← middlePatches_under]

theorem diffChildren_under (cs ds : List Box) (path : List Nat) (i : Nat) :
    diffChildren cs ds path i = (diffChildren cs ds [] i).map (under path) := by
  match cs, ds with
  | [], _ | _ :: _, [] => simp [diffChildren]
  | c :: cs, d :: ds =>
    simp only [diffChildren, map_append, nil_append]
    rw [diffChildren_under cs ds path (i + 1), diffNode_under c d (path ++ [i]),
      diffNode_under c d [i]]
    congr 1
    refine diffChild_under ?_
    simp [List.map_map, Function.comp_def, under_under]

end

theorem deep_diffChild {c d : Box} {path : List Nat} {ps : List Patch}
    (deep : ∀ p ∈ ps, p.op = .remove → p.path ≠ []) :
    ∀ p ∈ diffChild c d path ps, p.op = .remove → p.path ≠ [] := by
  intro p member
  unfold diffChild at member
  split at member
  · cases member
  split at member
  · exact deep p member
  · obtain rfl := mem_singleton.mp member
    rintro ⟨⟩

theorem deep_scalarPatch (a b : Attrs) (path : List Nat) :
    ∀ p ∈ scalarPatch a b path, p.op = .remove → p.path ≠ [] := by
  intro p member
  unfold scalarPatch at member
  split at member
  · obtain rfl := mem_singleton.mp member
    rintro ⟨⟩
  · cases member

theorem deep_middlePatches (cs ds : List Box) (path : List Nat) :
    ∀ p ∈ middlePatches cs ds path, p.op = .remove → p.path ≠ [] := by
  intro p member
  rcases mem_append.mp member with removal | insertion
  · obtain rfl := eq_of_mem_replicate removal
    exact fun _ => append_ne_nil_of_right_ne_nil _ (cons_ne_nil _ _)
  · obtain ⟨child, _, rfl⟩ := List.mem_map.mp insertion
    rintro ⟨⟩

mutual

/-- The diff never removes its own root. -/
theorem deep_diffNode (base next : Box) (path : List Nat) :
    ∀ p ∈ diffNode base next path, p.op = .remove → p.path ≠ [] := by
  match base, next with
  | .mk a cs, .mk b ds =>
    intro p member
    unfold diffNode at member
    split at member
    · cases member
    split at member
    · obtain rfl := mem_singleton.mp member
      rintro ⟨⟩
    split at member
    · rcases mem_append.mp member with set | child
      · exact deep_scalarPatch a b path p set
      · exact deep_diffChildren cs ds path 0 p child
    · rcases mem_append.mp member with set | middle
      · exact deep_scalarPatch a b path p set
      · exact deep_middlePatches cs ds path p middle

theorem deep_diffChildren (cs ds : List Box) (path : List Nat) (i : Nat) :
    ∀ p ∈ diffChildren cs ds path i, p.op = .remove → p.path ≠ [] := by
  match cs, ds with
  | [], _ | _ :: _, [] => simp [diffChildren]
  | c :: cs, d :: ds =>
    intro p member
    unfold diffChildren at member
    rcases mem_append.mp member with first | rest
    · exact deep_diffChild (deep_diffNode c d (path ++ [i])) p first
    · exact deep_diffChildren cs ds path (i + 1) p rest

end

/-! ### The result of the patches -/

/-- The fields after the set patch, if there is one. -/
def patchedAttrs (a b : Attrs) : Attrs :=
  if scalarsDiffer a b then (mergeBox (.mk a []) (.mk (setAttrs a b) [])).attrs else a

/-- The equal ends stay, the middle is the new one. -/
def splice (cs ds : List Box) : List Box :=
  let first := commonPrefix cs ds
  let last := commonSuffix cs ds first
  cs.take first ++ ((ds.take (ds.length - last)).drop first ++ cs.drop (cs.length - last))

/-- The child after `diffChild`, given the result of its patches. -/
def patchedChild (c d inner : Box) : Box :=
  if boxesEqual c d then c else if sameChildShape c d || anchored c d then inner else d

mutual

/-- What the host has after the patches of `diffNode`. -/
def patched : Box → Box → Box
  | .mk a cs, .mk b ds =>
    if boxesEqual (.mk a cs) (.mk b ds) then .mk a cs
    else if !setRepresentable a b then .mk b ds
    else .mk (patchedAttrs a b)
      (if cs.length = ds.length then patchedChildren cs ds else splice cs ds)

def patchedChildren : List Box → List Box → List Box
  | c :: cs, d :: ds => patchedChild c d (patched c d) :: patchedChildren cs ds
  | cs, _ => cs

end

theorem applyPatches_scalarPatch (a b : Attrs) (cs : List Box) :
    applyPatches (.mk a cs) (scalarPatch a b []) = .ok (.mk (patchedAttrs a b) cs) := by
  unfold scalarPatch patchedAttrs
  split <;> rfl

theorem applyPatches_removes (a : Attrs) (before middle after : List Box) :
    applyPatches (.mk a (before ++ (middle ++ after)))
      (List.replicate middle.length (removePatch [before.length])) =
        .ok (.mk a (before ++ after)) := by
  induction middle with
  | nil => rfl
  | cons child middle ih =>
    have found : (before ++ (child :: middle ++ after))[before.length]? = some child := by simp
    simp only [length_cons, replicate_succ, applyPatches, applyPatch, removePatch,
      removeAt, found]
    rw [eraseIdx_append_of_length_le (Nat.le_refl _), Nat.sub_self]
    exact ih

theorem insertIdx_length_append {α : Type} (before after : List α) (x : α) :
    (before ++ after).insertIdx before.length x = before ++ x :: after := by
  induction before with
  | nil => rfl
  | cons y before ih => exact congrArg (y :: ·) ih

theorem applyPatches_inserts (a : Attrs) (first : Nat) (before children after : List Box)
    (k : Nat) (count : before.length = first + k) :
    applyPatches (.mk a (before ++ after))
      ((children.zipIdx k).map fun child => insertPatch [] (first + child.2) child.1) =
        .ok (.mk a (before ++ (children ++ after))) := by
  induction children generalizing before k with
  | nil => rfl
  | cons child children ih =>
    have inside : first + k ≤ (before ++ after).length := by
      rw [← count, length_append]
      exact Nat.le_add_right _ _
    have placed : (before ++ after).insertIdx (first + k) child = (before ++ [child]) ++ after := by
      rw [← count, insertIdx_length_append, List.append_assoc]
      rfl
    simp only [zipIdx_cons, map_cons, applyPatches, applyPatch, insertPatch, insertAt,
      editAt, Box.children, Box.attrs, if_pos inside, placed]
    have next := ih (before ++ [child]) (k + 1) (by simp [count, Nat.add_assoc])
    simpa [insertPatch] using next

theorem commonPrefix_le (cs ds : List Box) : commonPrefix cs ds ≤ min cs.length ds.length := by
  induction cs generalizing ds with
  | nil => exact Nat.zero_le _
  | cons c cs ih =>
    cases ds with
    | nil => exact Nat.zero_le _
    | cons d ds =>
      unfold commonPrefix
      split
      · have := ih ds
        simp only [length_cons]
        omega
      · exact Nat.zero_le _

/-- The common ends do not overlap. -/
theorem ends_le (cs ds : List Box) :
    commonPrefix cs ds + commonSuffix cs ds (commonPrefix cs ds) ≤ min cs.length ds.length := by
  have first := commonPrefix_le cs ds
  have last : commonSuffix cs ds (commonPrefix cs ds) ≤
      min cs.length ds.length - commonPrefix cs ds := Nat.min_le_right _ _
  omega

theorem take_middle_drop {α : Type} {xs : List α} {first last : Nat}
    (fits : first + last ≤ xs.length) :
    xs.take first ++ ((xs.take (xs.length - last)).drop first ++ xs.drop (xs.length - last)) =
      xs := by
  have start : xs.take first = (xs.take (xs.length - last)).take first := by
    rw [take_take, Nat.min_eq_left (Nat.le_sub_of_add_le fits)]
  rw [← List.append_assoc, start, take_append_drop, take_append_drop]

theorem applyPatches_middle (a : Attrs) (cs ds : List Box) :
    applyPatches (.mk a cs) (middlePatches cs ds []) = .ok (.mk a (splice cs ds)) := by
  have ends := ends_le cs ds
  unfold middlePatches splice
  generalize commonPrefix cs ds = first at ends ⊢
  dsimp only
  generalize commonSuffix cs ds first = last at ends ⊢
  have fits : first + last ≤ cs.length := ends.trans (Nat.min_le_left _ _)
  have taken : (cs.take first).length = first := length_take_of_le (by omega)
  have count : ((cs.take (cs.length - last)).drop first).length = cs.length - last - first := by
    rw [length_drop, length_take_of_le (Nat.sub_le _ _)]
  have removed := applyPatches_removes a (cs.take first)
    ((cs.take (cs.length - last)).drop first) (cs.drop (cs.length - last))
  rw [take_middle_drop fits, count, taken] at removed
  rw [applyPatches_append, nil_append, removed]
  exact applyPatches_inserts a first (cs.take first) _ _ 0 taken

mutual

theorem applyPatches_diffNode (base next : Box) :
    applyPatches base (diffNode base next []) = .ok (patched base next) := by
  match base, next with
  | .mk a cs, .mk b ds =>
    unfold diffNode patched
    split
    · rfl
    split
    · rfl
    split
    · next same =>
      rw [applyPatches_append, applyPatches_scalarPatch]
      exact applyPatches_diffChildren (patchedAttrs a b) [] cs ds same
    · rw [applyPatches_append, applyPatches_scalarPatch]
      exact applyPatches_middle (patchedAttrs a b) cs ds

theorem applyPatches_diffChildren (a : Attrs) (before cs ds : List Box)
    (same : cs.length = ds.length) :
    applyPatches (.mk a (before ++ cs)) (diffChildren cs ds [] before.length) =
      .ok (.mk a (before ++ patchedChildren cs ds)) := by
  match cs, ds with
  | [], [] => rfl
  | [], _ :: _ | _ :: _, [] => cases same
  | c :: cs, d :: ds =>
    -- The patches of the first child exchange it; the rest sees one more child before it.
    have child : applyPatches (.mk a (before ++ c :: cs)) (diffChild c d [before.length]
        (diffNode c d [before.length])) =
          .ok (.mk a ((before ++ [patchedChild c d (patched c d)]) ++ cs)) := by
      have found : (before ++ c :: cs)[before.length]? = some c := by simp
      have exchanged : ∀ c', (before ++ c :: cs).set before.length c' = (before ++ [c']) ++ cs := by
        intro c'
        simp
      unfold diffChild patchedChild
      split
      · simp [applyPatches]
      split
      · rw [diffNode_under, applyPatches_under found (deep_diffNode c d []),
          applyPatches_diffNode c d]
        exact congrArg (fun children => Except.ok (Box.mk a children)) (exchanged _)
      · simp only [applyPatches, applyPatch, replacePatch, replaceAt, editAt_child found, editAt,
          Except.map, exchanged]
    have rest := applyPatches_diffChildren a (before ++ [patchedChild c d (patched c d)]) cs ds
      (Nat.succ.inj same)
    rw [length_append, length_singleton] at rest
    have split : before ++ patchedChildren (c :: cs) (d :: ds) =
        (before ++ [patchedChild c d (patched c d)]) ++ patchedChildren cs ds := by
      simp [patchedChildren]
    rw [split, ← rest, diffChildren, nil_append, applyPatches_append, child]
    rfl

end

/-! ### The fields of one box -/

/-- The visibility of the cursor, if there is a cursor. -/
def Attrs.cursorVisible (a : Attrs) : Option Bool := a.cursor.map fun c => c.visible.getD true

def Attrs.props (a : Attrs) : Option (SortedMap String String) := a.content.map Content.props

/-- The boxes agree in what `equalAttrs` does not see. -/
def SameUnseen (a b : Attrs) : Prop := a.cursorVisible = b.cursorVisible ∧ a.props = b.props

/-- A set patch carries the change: there are no old content lines, to which the new ones would be
appended, and the cursor has the visibility that the old one leaves it. -/
def Carried (a b : Attrs) : Prop :=
  (∀ c ∈ a.content, c.lines = []) ∧
    ∀ d ∈ b.cursor, d.visible.getD true = a.cursorVisible.getD true

theorem normal_eq_iff (a b : Attrs) :
    a.normal = b.normal ↔ a.id = b.id ∧ a.size = b.size ∧ a.pos = b.pos ∧ a.flow = b.flow ∧
      visibleEffective a = visibleEffective b ∧ a.normal.cursor = b.normal.cursor ∧
      a.content = b.content ∧ a.input = b.input ∧ a.focused = b.focused ∧ a.style = b.style := by
  simp [Attrs.normal]

theorem eq_of_equalSize {a b : Option Size} (equal : equalSize a b = true) : a = b := by
  cases a <;> cases b <;> simp_all [equalSize, Size.ext_iff]

theorem eq_of_equalPos {a b : Option Pos} (equal : equalPos a b = true) : a = b := by
  cases a <;> cases b <;> simp_all [equalPos, Pos.ext_iff]

theorem cursor_unseen {b : Attrs} (equal : equalCursor a.cursor b.cursor = true) :
    a.normal.cursor = b.normal.cursor ↔ a.cursorVisible = b.cursorVisible := by
  simp only [Attrs.normal, Attrs.cursorVisible]
  cases ca : a.cursor <;> cases cb : b.cursor <;>
    simp_all [equalCursor]

theorem content_unseen {b : Attrs} (equal : equalContent a.content b.content = true) :
    a.content = b.content ↔ a.props = b.props := by
  simp only [Attrs.props]
  cases ca : a.content <;> cases cb : b.content <;>
    simp_all [equalContent, Content.ext_iff]

/-- Boxes that compare equal mean the same if they agree in what is not compared. -/
theorem normal_unseen {b : Attrs} (equal : equalAttrs a b = true) :
    a.normal = b.normal ↔ SameUnseen a b := by
  simp only [equalAttrs, Bool.and_eq_true, decide_eq_true_eq] at equal
  obtain ⟨⟨⟨⟨⟨⟨⟨⟨⟨id, flow⟩, style⟩, focused⟩, visible⟩, input⟩, size⟩, pos⟩, cursor⟩, content⟩ :=
    equal
  rw [normal_eq_iff, cursor_unseen cursor, content_unseen content]
  simp [id, flow, style, focused, visible, input, eq_of_equalSize size, eq_of_equalPos pos,
    SameUnseen]

theorem mergeText_eq {old new : String} (kept : ¬ (old ≠ "" ∧ new = "")) :
    mergeText old new = new := by
  unfold mergeText
  split
  · next none =>
    rw [none]
    exact Classical.not_not.mp fun some => kept ⟨some, none⟩
  · rfl

theorem mergeInt_eq {old new : Int} (kept : ¬ (old ≠ 0 ∧ new = 0)) : mergeInt old new = new := by
  unfold mergeInt
  split
  · next none =>
    rw [none]
    exact Classical.not_not.mp fun some => kept ⟨some, none⟩
  · rfl

theorem mergeInt_zero (new : Int) : mergeInt 0 new = new := mergeInt_eq fun kept => kept.1 rfl

theorem mergeText_empty (new : String) : mergeText "" new = new :=
  mergeText_eq fun kept => kept.1 rfl

theorem not_and_decide (p q : Prop) [Decidable p] [Decidable q] :
    (!(decide p && decide q)) = true ↔ ¬ (p ∧ q) := by
  rw [← Bool.decide_and, Bool.not_eq_true', decide_eq_false_iff_not]

theorem mergeSize_eq {a b : Option Size} (present : a.isSome = false ∨ b.isNone = false)
    (kept : sizeRepresentable a b = true) : mergeMessage ⟨0, 0, 0⟩ Size.merge a b = b := by
  cases b with
  | none => simpa [mergeMessage] using present
  | some b =>
    cases a with
    | none => simp [mergeMessage, Size.merge, mergeInt_zero]
    | some a =>
      simp only [sizeRepresentable, Bool.and_eq_true, not_and_decide] at kept
      obtain ⟨⟨width, height⟩, flex⟩ := kept
      simp [mergeMessage, Size.merge, mergeInt_eq width, mergeInt_eq height, mergeInt_eq flex]

theorem mergePos_eq {a b : Option Pos} (present : a.isSome = false ∨ b.isNone = false)
    (kept : posRepresentable a b = true) : mergeMessage ⟨0, 0⟩ Pos.merge a b = b := by
  cases b with
  | none => simpa [mergeMessage] using present
  | some b =>
    cases a with
    | none => simp [mergeMessage, Pos.merge, mergeInt_zero]
    | some a =>
      simp only [posRepresentable, Bool.and_eq_true, not_and_decide] at kept
      obtain ⟨x, y⟩ := kept
      simp [mergeMessage, Pos.merge, mergeInt_eq x, mergeInt_eq y]

theorem mergeProps_eq {a b : SortedMap String String}
    (kept : ∀ entry ∈ a.entries, (b.lookup entry.1).isSome) : mergeProps a b = b := by
  refine SortedMap.ext_lookup fun key => ?_
  rw [mergeProps, SortedMap.lookup_foldl_insert, SortedMap.build_self]
  cases found : b.lookup key with
  | some value => rfl
  | none =>
    -- A key that the new map lacks was not in the old one.
    cases old : a.lookup key with
    | none => rfl
    | some value =>
      have present := kept (key, value) (SortedMap.lookup_eq_some.mp old)
      simp [found] at present

/-- Content is merged into the new one unless there are old lines. -/
theorem mergeContent_eq_iff {a b : Option Content} (present : a.isSome = false ∨ b.isNone = false)
    (kept : contentRepresentable a b = true) :
    mergeMessage ⟨"", [], "", SortedMap.empty⟩ Content.merge a b = b ↔
      ∀ c ∈ a, c.lines = [] := by
  cases b with
  | none =>
    cases a with
    | none => simp [mergeMessage]
    | some a => simp at present
  | some b =>
    cases a with
    | none =>
      have props : mergeProps SortedMap.empty b.props = b.props :=
        mergeProps_eq fun _ member => nomatch member
      simp [mergeMessage, Content.merge, mergeText_empty, props]
    | some a =>
      simp only [contentRepresentable, Bool.and_eq_true, not_and_decide,
        List.all_eq_true] at kept
      obtain ⟨⟨⟨⟨text, self⟩, lines⟩, _⟩, props⟩ := kept
      have only : (∀ c ∈ some a, c.lines = []) ↔ a.lines = [] := by simp
      rw [only]
      simp only [mergeMessage, Content.merge, getD_some, mergeText_eq text,
        mergeText_eq self, mergeProps_eq props, Option.some.injEq, Content.ext_iff, true_and,
        and_true]
      constructor
      · intro same
        by_contra some
        have equal : a.lines = b.lines := Classical.not_not.mp fun ne => lines ⟨some, ne⟩
        exact some (by simpa using same)
      · intro none
        rw [none, nil_append]

/-- A cursor is merged into the new one up to its visibility. -/
theorem mergeCursor_normal_iff {b : Attrs}
    (present : a.cursor.isSome = false ∨ b.cursor.isNone = false)
    (kept : cursorRepresentable a.cursor b.cursor = true) :
    (mergeMessage ⟨0, 0, "", none⟩ Cursor.merge a.cursor (setAttrs a b).cursor).map
        (fun c => { c with visible := some (c.visible.getD true) }) = b.normal.cursor ↔
      ∀ d ∈ b.cursor, d.visible.getD true = a.cursorVisible.getD true := by
  simp only [setAttrs, Attrs.normal, Attrs.cursorVisible]
  cases cb : b.cursor with
  | none =>
    cases ca : a.cursor with
    | none => simp [mergeMessage]
    | some c =>
      simp [ca, cb] at present
  | some d =>
    have only : ∀ visible : Bool,
        (∀ e ∈ some d, e.visible.getD true = visible) ↔ visible = d.visible.getD true := by
      intro visible
      simpa using eq_comm
    rw [only]
    cases ca : a.cursor with
    | none =>
      simp [mergeMessage, Cursor.merge, mergeInt_zero, mergeText_empty]
    | some c =>
      rw [ca, cb] at kept
      simp only [cursorRepresentable, Bool.and_eq_true, not_and_decide] at kept
      obtain ⟨⟨row, col⟩, shape⟩ := kept
      simp [mergeMessage, Cursor.merge, mergeInt_eq row, mergeInt_eq col, mergeText_eq shape]

/-- The set patch makes the new fields exactly if it carries the change. -/
theorem merged_normal_iff {b : Attrs} (kept : setRepresentable a b = true) :
    (mergeBox (.mk a []) (.mk (setAttrs a b) [])).attrs.normal = b.normal ↔ Carried a b := by
  simp only [setRepresentable, Bool.and_eq_true, Bool.not_eq_true', Bool.and_eq_false_iff,
    decide_eq_false_iff_not, ← not_and_or] at kept
  obtain ⟨⟨⟨⟨⟨⟨⟨⟨⟨⟨⟨⟨id, flow⟩, style⟩, focused⟩, input⟩, size⟩, pos⟩, cursor⟩, content⟩,
    keepSize⟩, keepPos⟩, keepCursor⟩, keepContent⟩ := kept
  have visible : visibleEffective (mergeBox (.mk a []) (.mk (setAttrs a b) [])).attrs =
      visibleEffective b := by
    change (if (setAttrs a b).visible.isSome then (setAttrs a b).visible else a.visible).getD true =
      visibleEffective b
    by_cases same : visibleEffective a = visibleEffective b
    · have none : (setAttrs a b).visible = none := by simp [setAttrs, same]
      rw [none]
      exact same
    · have some : (setAttrs a b).visible = some (visibleEffective b) := by simp [setAttrs, same]
      rw [some]
      rfl
  have inputs : (mergeBox (.mk a []) (.mk (setAttrs a b) [])).attrs.input = b.input := by
    by_cases none : b.input = []
    · have old : a.input = [] := Classical.not_not.mp fun some => input ⟨some, none ▸ some⟩
      simp [mergeBox, setAttrs, Box.attrs, none, old]
    · simp [mergeBox, setAttrs, Box.attrs, none]
  have focus : (a.focused || b.focused) = b.focused := by
    cases fa : a.focused <;> cases fb : b.focused <;> simp_all
  rw [normal_eq_iff, visible, inputs]
  refine Iff.trans ?_ ((mergeContent_eq_iff content keepContent).and
    (mergeCursor_normal_iff cursor keepCursor))
  simp only [mergeBox, Attrs.merge, Box.attrs, setAttrs, mergeText_eq id, mergeText_eq flow,
    mergeText_eq style, mergeSize_eq size keepSize, mergePos_eq pos keepPos, focus, true_and,
    and_true, Attrs.normal]
  exact and_comm

/-! ### The whole tree -/

mutual

/-- The trees agree, box by box, in what `boxesEqual` does not see. -/
def UnseenEqual : Box → Box → Prop
  | .mk a cs, .mk b ds => SameUnseen a b ∧ UnseenChildren cs ds

def UnseenChildren : List Box → List Box → Prop
  | c :: cs, d :: ds => UnseenEqual c d ∧ UnseenChildren cs ds
  | _, _ => True

end

/-- The equal ends agree in what is not compared. -/
def UnseenEnds (cs ds : List Box) : Prop :=
  let first := commonPrefix cs ds
  let last := commonSuffix cs ds first
  UnseenChildren (cs.take first) (ds.take first) ∧
    UnseenChildren (cs.drop (cs.length - last)) (ds.drop (ds.length - last))

/-- The condition for a child, given the one of the inner diff. -/
def FaithfulChild (c d : Box) (inner : Prop) : Prop :=
  if boxesEqual c d then UnseenEqual c d
  else if sameChildShape c d || anchored c d then inner
  else True

mutual

/-- Where the walk takes two boxes or their fields for equal, they agree also in what it does not
compare; where it sets fields, the set patch carries them. -/
def Faithful : Box → Box → Prop
  | .mk a cs, .mk b ds =>
    if boxesEqual (.mk a cs) (.mk b ds) then UnseenEqual (.mk a cs) (.mk b ds)
    else if !setRepresentable a b then True
    else (if scalarsDiffer a b then Carried a b else SameUnseen a b) ∧
      if cs.length = ds.length then FaithfulChildren cs ds else UnseenEnds cs ds

def FaithfulChildren : List Box → List Box → Prop
  | c :: cs, d :: ds => FaithfulChild c d (Faithful c d) ∧ FaithfulChildren cs ds
  | _, _ => True

end

theorem normalChildren_eq_map (cs : List Box) : normalChildren cs = cs.map Box.normal := by
  induction cs with
  | nil => rfl
  | cons c cs ih => rw [normalChildren, ih, map_cons]

mutual

theorem protocolEqual_unseen {b b' : Box} (equal : boxesEqual b b' = true) :
    ProtocolEqual b b' ↔ UnseenEqual b b' := by
  match b, b' with
  | .mk a cs, .mk a' ds =>
    simp only [boxesEqual, Bool.and_eq_true] at equal
    simp [ProtocolEqual, Box.normal, UnseenEqual, normal_unseen equal.1,
      normalChildren_unseen equal.2]

theorem normalChildren_unseen {cs ds : List Box} (equal : childrenEqual cs ds = true) :
    normalChildren cs = normalChildren ds ↔ UnseenChildren cs ds := by
  match cs, ds with
  | [], [] => simp [UnseenChildren]
  | [], _ :: _ | _ :: _, [] => simp [childrenEqual] at equal
  | c :: cs, d :: ds =>
    simp only [childrenEqual, Bool.and_eq_true] at equal
    have child : c.normal = d.normal ↔ UnseenEqual c d := protocolEqual_unseen equal.1
    simp [normalChildren, UnseenChildren, child, normalChildren_unseen equal.2]

end

/-! ### The ends -/

theorem childrenEqual_iff {cs ds : List Box} :
    childrenEqual cs ds = true ↔ List.Forall₂ (fun c d => boxesEqual c d = true) cs ds := by
  induction cs generalizing ds with
  | nil => cases ds <;> simp [childrenEqual]
  | cons c cs ih => cases ds <;> simp [childrenEqual, ih]

theorem equal_take {cs ds : List Box} {n : Nat} (inside : n ≤ commonPrefix cs ds) :
    List.Forall₂ (fun c d => boxesEqual c d = true) (cs.take n) (ds.take n) := by
  induction cs generalizing ds n with
  | nil =>
    obtain rfl : n = 0 := Nat.le_zero.mp inside
    exact .nil
  | cons c cs ih =>
    cases ds with
    | nil =>
      obtain rfl : n = 0 := Nat.le_zero.mp inside
      exact .nil
    | cons d ds =>
      cases n with
      | zero => exact .nil
      | succ n =>
        unfold commonPrefix at inside
        split at inside
        · next equal => exact .cons equal (ih (Nat.le_of_succ_le_succ inside))
        · cases inside

theorem equal_drop {cs ds : List Box} {n : Nat}
    (inside : n ≤ commonPrefix cs.reverse ds.reverse) :
    List.Forall₂ (fun c d => boxesEqual c d = true) (cs.drop (cs.length - n))
      (ds.drop (ds.length - n)) := by
  have ends := equal_take inside
  rw [take_reverse, take_reverse] at ends
  exact forall₂_reverse_iff.mp ends

/-- The exchanged children are the new ones if the ends are. -/
theorem splice_unseen (cs ds : List Box) :
    normalChildren (splice cs ds) = normalChildren ds ↔ UnseenEnds cs ds := by
  have fits := ends_le cs ds
  have first := equal_take (Nat.le_refl (commonPrefix cs ds))
  have last : List.Forall₂ (fun c d => boxesEqual c d = true) _ _ :=
    equal_drop (Nat.min_le_left (commonPrefix cs.reverse ds.reverse)
      (min cs.length ds.length - commonPrefix cs ds))
  change List.Forall₂ _ (cs.drop (cs.length - commonSuffix cs ds (commonPrefix cs ds)))
    (ds.drop (ds.length - commonSuffix cs ds (commonPrefix cs ds))) at last
  unfold splice UnseenEnds
  dsimp only
  generalize commonSuffix cs ds (commonPrefix cs ds) = n at fits last ⊢
  generalize commonPrefix cs ds = m at fits first ⊢
  have whole := take_middle_drop (fits.trans (Nat.min_le_right _ _))
  rw [← normalChildren_unseen (childrenEqual_iff.mpr first),
    ← normalChildren_unseen (childrenEqual_iff.mpr last)]
  conv_lhs => rhs; rw [← whole]
  simp only [normalChildren_eq_map, map_append]
  constructor
  · intro same
    obtain ⟨start, rest⟩ := append_inj same (by simpa using first.length_eq)
    exact ⟨start, append_cancel_left rest⟩
  · rintro ⟨start, rest⟩
    rw [start, rest]

mutual

/-- The result of the patches is the new tree exactly if the walk is faithful. -/
theorem patched_faithful (base next : Box) :
    ProtocolEqual (patched base next) next ↔ Faithful base next := by
  match base, next with
  | .mk a cs, .mk b ds =>
    unfold patched Faithful
    split
    · next equal => exact protocolEqual_unseen equal
    split
    · simp [ProtocolEqual]
    next kept =>
    simp only [ProtocolEqual, Box.normal, Box.mk.injEq]
    refine Iff.and ?_ ?_
    · unfold patchedAttrs
      cases differ : scalarsDiffer a b with
      | true => exact merged_normal_iff (by simpa using kept)
      | false => exact normal_unseen (by simpa [scalarsDiffer] using differ)
    · split
      · next same => exact patchedChildren_faithful cs ds same
      · exact splice_unseen cs ds

theorem patchedChildren_faithful (cs ds : List Box) (same : cs.length = ds.length) :
    normalChildren (patchedChildren cs ds) = normalChildren ds ↔ FaithfulChildren cs ds := by
  match cs, ds with
  | [], [] => simp [patchedChildren, FaithfulChildren]
  | [], _ :: _ | _ :: _, [] => cases same
  | c :: cs, d :: ds =>
    have child : (patchedChild c d (patched c d)).normal = d.normal ↔
        FaithfulChild c d (Faithful c d) := by
      unfold patchedChild FaithfulChild
      split
      · next equal => exact protocolEqual_unseen equal
      split
      · exact patched_faithful c d
      · simp
    simp [patchedChildren, normalChildren, FaithfulChildren, child,
      patchedChildren_faithful cs ds (Nat.succ.inj same)]

end

/-- The patches of a diff apply, and their result is the new tree exactly if the walk is
faithful. -/
theorem diffView_faithful {base next : Box} {patches : List Patch}
    (diff : diffView base next = some patches) :
    ∃ result, applyPatches base patches = .ok result ∧
      (ProtocolEqual result next ↔ Faithful base next) := by
  have same : patches = diffNode base next [] := by
    unfold diffView at diff
    split at diff
    · cases diff
    dsimp only at diff
    split at diff
    · cases diff
    · exact (Option.some.inj diff).symm
  subst same
  exact ⟨patched base next, applyPatches_diffNode base next, patched_faithful base next⟩

section Example

def plainAttrs : Attrs := ⟨"", none, none, "", none, none, none, [], false, ""⟩

/-- A box that gets an id and a child. -/
def plainBase : Box := .mk plainAttrs [.mk plainAttrs []]

def plainNext : Box := .mk { plainAttrs with id := "x" } [.mk plainAttrs [], .mk plainAttrs []]

theorem diffView_faithful_plain :
    ∃ patches result, diffView plainBase plainNext = some patches ∧
      applyPatches plainBase patches = .ok result ∧ ProtocolEqual result plainNext := by
  have diff : diffView plainBase plainNext = some _ := rfl
  have faithful : Faithful plainBase plainNext := by
    unfold plainBase plainNext Faithful
    exact ⟨⟨by rintro c ⟨⟩, by rintro d ⟨⟩⟩, ⟨⟨⟨rfl, rfl⟩, trivial⟩, trivial⟩, trivial⟩
  obtain ⟨result, applied, exactly⟩ := diffView_faithful diff
  exact ⟨_, result, diff, applied, exactly.mpr faithful⟩

/-- The diff has patches, and what they make is not the new tree. -/
def LosesView (base next : Box) : Prop :=
  ∃ patches result, diffView base next = some patches ∧ applyPatches base patches = .ok result ∧
    ¬ ProtocolEqual result next

def linesAttrs : Attrs := { plainAttrs with content := some ⟨"", ["a"], "", SortedMap.empty⟩ }

def cursorAttrs (visible : Option Bool) : Attrs :=
  { plainAttrs with cursor := some ⟨0, 0, "", visible⟩ }

def propAttrs (key : String) : Attrs :=
  { plainAttrs with content := some ⟨"", [], "", SortedMap.build [(key, "")]⟩ }

/-- A box with a line, a cursor that is hidden, and an empty property under another key: in each
case an id changes too, and the line comes twice, the cursor stays and the old key stays. -/
theorem patches_lose_view :
    LosesView (.mk linesAttrs []) (.mk { linesAttrs with id := "x" } []) ∧
    LosesView (.mk (cursorAttrs none) []) (.mk { cursorAttrs (some false) with id := "x" } []) ∧
    LosesView (.mk plainAttrs [.mk (propAttrs "k") []])
      (.mk { plainAttrs with id := "x" } [.mk (propAttrs "l") []]) := by
  refine ⟨⟨_, _, rfl, rfl, fun same => ?_⟩, ⟨_, _, rfl, rfl, fun same => ?_⟩,
    ⟨_, _, rfl, rfl, fun same => ?_⟩⟩
  · have lines := congrArg (fun box => box.attrs.content.map Content.lines) same
    revert lines
    decide
  · have visible := congrArg (fun box => box.attrs.cursor) same
    revert visible
    decide
  · have props := congrArg (fun box => box.children.map fun c => c.attrs.content) same
    revert props
    decide

end Example

end Anytty.Tui.View
