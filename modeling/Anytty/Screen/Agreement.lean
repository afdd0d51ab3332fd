import Anytty.Screen.Merge

/-!
# Where the two mergers agree

Both mergers write the rows of the copies and of the replacements over the same base.  The loops of
the TypeScript merger fail on a copy or a replacement out of range; those of the Dart merger also
fail when a row is written twice.  `mergeLiveScreen_iff` compares them: the Dart merger accepts
what the TypeScript merger accepts, if the response is not stale and is tidy.
-/

namespace Anytty.Screen

open List Option

variable {Row Cursor Modes Item : Type} {rows : Int}

/-! ### Loops of writes -/

/-- An item of the Dart merger, with the rows that it writes or none if it is invalid. -/
def writeItem (writes : Item → Option (List (Nat × Row))) (invalid twice : LiveScreenRejected)
    (state : Progress Row rows × List Nat) (item : Item) :
    Except LiveScreenRejected (Progress Row rows × List Nat) :=
  match writes item with
  | none => .error invalid
  | some ws => ws.foldlM (writeOnce twice) state

theorem foldlM_writes (writes : Item → Option (List (Nat × Row))) (items : List Item)
    (progress : Progress Row rows) :
    items.foldlM (fun progress item => (writes item).map (·.foldl Progress.write progress))
      progress = (items.mapM writes).map fun ws => ws.flatten.foldl Progress.write progress := by
  induction items generalizing progress with
  | nil => rfl
  | cons item items ih =>
    rw [foldlM_cons, mapM_cons]
    cases writes item with
    | none => rfl
    | some ws =>
      refine (ih _).trans ?_
      cases items.mapM writes with
      | none => rfl
      | some rest => exact congrArg some (foldl_append ..).symm

theorem toOption_bind {ε α β : Type} (x : Except ε α) (f : α → Except ε β) :
    (x >>= f).toOption = x.toOption.bind fun a => (f a).toOption := by
  cases x <;> rfl

/-- Writes to distinct new positions pass the set of the Dart merger. -/
theorem foldlM_writeOnce (twice : LiveScreenRejected) (writes : List (Nat × Row))
    (progress : Progress Row rows) (seen : List Nat) :
    (writes.foldlM (writeOnce twice) (progress, seen)).toOption =
      if (writes.map Prod.fst).Nodup ∧ ∀ write ∈ writes, write.1 ∉ seen then
        some (writes.foldl Progress.write progress, (writes.map Prod.fst).reverse ++ seen)
      else none := by
  induction writes generalizing progress seen with
  | nil => rfl
  | cons write writes ih =>
    rw [foldlM_cons, writeOnce]
    by_cases known : write.1 ∈ seen
    · rw [if_pos known, if_neg fun fits => fits.2 write mem_cons_self known]
      rfl
    rw [if_neg known]
    refine (ih _ _).trans ?_
    have iff : ((writes.map Prod.fst).Nodup ∧ ∀ w ∈ writes, w.1 ∉ write.1 :: seen) ↔
        ((write :: writes).map Prod.fst).Nodup ∧ ∀ w ∈ write :: writes, w.1 ∉ seen := by
      grind
    simp only [iff, map_cons, reverse_cons, List.append_assoc, foldl_cons,
      singleton_append]

theorem foldlM_writeItem (writes : Item → Option (List (Nat × Row)))
    (invalid twice : LiveScreenRejected) (items : List Item) (progress : Progress Row rows)
    (seen : List Nat) :
    (items.foldlM (writeItem writes invalid twice) (progress, seen)).toOption =
      (items.mapM writes).bind fun ws =>
        (ws.flatten.foldlM (writeOnce twice) (progress, seen)).toOption := by
  induction items generalizing progress seen with
  | nil => rfl
  | cons item items ih =>
    rw [foldlM_cons, toOption_bind, mapM_cons, writeItem]
    cases writes item with
    | none => rfl
    | some ws =>
      simp only [ih]
      cases items.mapM writes with
      | none => cases (ws.foldlM (writeOnce twice) (progress, seen)).toOption <;> rfl
      | some rest =>
        show _ = Except.toOption (List.foldlM _ _ (ws ++ rest.flatten))
        rw [foldlM_append, toOption_bind]
        rfl

theorem mapM_positions {writes : Item → Option (List (Nat × Row))} {positions : Item → List Nat}
    (at_positions : ∀ item ws, writes item = some ws → ws.map Prod.fst = positions item)
    {items : List Item} {wss : List (List (Nat × Row))} (all : items.mapM writes = some wss) :
    wss.flatten.map Prod.fst = items.flatMap positions := by
  induction items generalizing wss with
  | nil =>
    cases all
    rfl
  | cons item items ih =>
    rw [mapM_cons] at all
    obtain ⟨ws, here, rest⟩ := bind_eq_some_iff.1 all
    obtain ⟨more, there, same⟩ := bind_eq_some_iff.1 rest
    cases same
    rw [flatten_cons, map_append, at_positions item ws here, ih there, flatMap_cons]

/-! ### What a response writes -/

variable [Inhabited Row]

/-- The rows of a copy, or none if it is out of range. -/
def ScreenRowCopy.writes (rows : Int) (base : List Row) (copy : ScreenRowCopy) :
    Option (List (Nat × Row)) :=
  if copy.outOfRange rows then none
  else some ((List.range copy.count.toNat).map fun k =>
    (copy.destinationRow.toNat + k, base.getD (copy.sourceRow.toNat + k) default))

/-- The row of a replacement, or none if it has no row or is out of range. -/
def ScreenRowReplace.writes (rows : Int) (replacement : ScreenRowReplace Row) :
    Option (List (Nat × Row)) :=
  match replacement.row with
  | none => none
  | some row =>
    if replacement.rowIndex < 0 || replacement.rowIndex ≥ rows then none
    else some [(replacement.rowIndex.toNat, row)]

/-- The slice the TypeScript merger takes has the rows of the copy. -/
theorem mergeCopy_eq (base : ScreenRows Row rows) :
    mergeCopy base.list = fun (progress : Progress Row rows) copy =>
      (copy.writes rows base.list).map (·.foldl Progress.write progress) := by
  funext progress copy
  unfold mergeCopy ScreenRowCopy.writes
  split
  · rfl
  next inside =>
  have length := base.length_eq
  simp only [ScreenRowCopy.outOfRange, Bool.or_eq_true, decide_eq_true_eq, not_or] at inside
  refine congrArg (fun ws : List (Nat × Row) => some (ws.foldl Progress.write progress)) ?_
  apply ext_getElem
  · simp [copyWrites]
    omega
  · intro k h₁ h₂
    have small : k < copy.count.toNat := by simpa using h₂
    simp [copyWrites, List.getElem?_eq_getElem
      (show copy.sourceRow.toNat + k < base.list.length by omega)]

theorem copyRowsOnce_eq (base : List Row) : @copyRowsOnce Row rows _ false base = writeItem
    (ScreenRowCopy.writes rows base) ⟨"invalid row copy", true⟩
      ⟨"overlapping row copies", true⟩ := by
  funext state copy
  unfold copyRowsOnce writeItem ScreenRowCopy.writes
  rw [Bool.false_or]
  split
  · rfl
  · exact (foldlM_map ..).symm

omit [Inhabited Row] in
theorem mergeReplacement_eq : @mergeReplacement Row rows = fun progress replacement =>
    (replacement.writes rows).map (·.foldl Progress.write progress) := by
  funext progress ⟨index, row⟩
  cases row with
  | none => rfl
  | some row =>
    simp only [mergeReplacement, ScreenRowReplace.writes]
    split <;> rfl

omit [Inhabited Row] in
theorem replaceRowOnce_eq : @replaceRowOnce Row rows = writeItem
    (ScreenRowReplace.writes rows) ⟨"invalid row replacement", true⟩
      ⟨"invalid row replacement", true⟩ := by
  funext state ⟨index, row⟩
  cases row with
  | none => rfl
  | some row =>
    simp only [replaceRowOnce, writeItem, ScreenRowReplace.writes]
    split
    · rfl
    · exact (bind_pure _).symm

/-- What the copies and the replacements of a response write over a base. -/
def NativeScreenResult.writes (incoming : NativeScreenResult Row Cursor Modes)
    (base : ScreenRows Row rows) : Option (List (Nat × Row) × List (Nat × Row)) := do
  let copied ← incoming.rowCopies.mapM (ScreenRowCopy.writes rows base.list)
  let replaced ← incoming.rowReplacements.mapM (ScreenRowReplace.writes rows)
  return (copied.flatten, replaced.flatten)

/-- The rows after all the writes. -/
def ScreenRows.written (base : ScreenRows Row rows) (copied replaced : List (Nat × Row)) :
    Progress Row rows := (copied ++ replaced).foldl Progress.write ⟨base, []⟩

theorem mergeLoops_eq {α : Type} (incoming : NativeScreenResult Row Cursor Modes)
    (base : ScreenRows Row rows) (f : Progress Row rows → α) :
    (do
      let base ← some base
      let copied ← incoming.rowCopies.foldlM (mergeCopy base.list) ⟨base, []⟩
      let merged ← incoming.rowReplacements.foldlM mergeReplacement copied
      return f merged) = (incoming.writes base).map fun w => f (base.written w.1 w.2) := by
  rw [bind_eq_bind, bind_some]
  simp only [mergeCopy_eq, mergeReplacement_eq, foldlM_writes, NativeScreenResult.writes]
  cases incoming.rowCopies.mapM (ScreenRowCopy.writes rows base.list) with
  | none => rfl
  | some copied =>
    cases incoming.rowReplacements.mapM (ScreenRowReplace.writes rows) with
    | none => rfl
    | some replaced => exact congrArg (some ∘ f) (foldl_append ..).symm

/-- No row is copied or replaced twice, and a full replacement has every row and no copy. -/
structure NativeScreenResult.Tidy (incoming : NativeScreenResult Row Cursor Modes) (rows : Int) :
    Prop where
  copied : (incoming.rowCopies.flatMap fun copy =>
    (List.range copy.count.toNat).map (copy.destinationRow.toNat + ·)).Nodup
  replaced : (incoming.rowReplacements.map fun replacement => replacement.rowIndex.toNat).Nodup
  full : incoming.fullReplace = true →
    incoming.rowCopies = [] ∧ (incoming.rowReplacements.length : Int) = rows

section

variable {incoming : NativeScreenResult Row Cursor Modes} {base : ScreenRows Row rows}
  {w : List (Nat × Row) × List (Nat × Row)}

theorem NativeScreenResult.writes_positions (known : incoming.writes base = some w) :
    w.1.map Prod.fst = (incoming.rowCopies.flatMap fun copy =>
      (List.range copy.count.toNat).map (copy.destinationRow.toNat + ·)) ∧
    w.2.map Prod.fst = incoming.rowReplacements.map fun r => r.rowIndex.toNat := by
  obtain ⟨copied, copies, rest⟩ := bind_eq_some_iff.1 known
  obtain ⟨replaced, replacements, same⟩ := bind_eq_some_iff.1 rest
  cases same
  refine ⟨mapM_positions ?_ copies,
    (mapM_positions ?_ replacements).trans map_eq_flatMap.symm⟩
  · intro copy ws known
    unfold ScreenRowCopy.writes at known
    split at known
    · cases known
    cases known
    rw [List.map_map]
    rfl
  · intro replacement ws known
    unfold ScreenRowReplace.writes at known
    split at known
    · cases known
    split at known
    · cases known
    · cases known
      rfl

/-- The loops of the Dart merger pass exactly the tidy responses of the TypeScript merger. -/
theorem mergeOnto_ok_iff {terminal : TerminalRef} {generation : Nat} {cols : Int}
    {merged : LiveScreenMergeResult Row Cursor Modes} :
    mergeOnto base incoming terminal generation cols = .ok merged ↔
      incoming.Tidy rows ∧ ∃ w, incoming.writes base = some w ∧ merged = {
        screen := mergedScreen incoming terminal generation cols (base.written w.1 w.2).nextRows
        damage := ⟨incoming.fullReplace, (base.written w.1 w.2).changedRows.mergeSort⟩ } := by
  have ok_iff : ∀ {x : Except LiveScreenRejected (LiveScreenMergeResult Row Cursor Modes)},
      x = .ok merged ↔ x.toOption = some merged := by
    intro x
    cases x <;> simp [Except.toOption]
  -- A full replacement passes the loop over the copies only without copies.
  have copies : (incoming.rowCopies.foldlM (copyRowsOnce incoming.fullReplace base.list)
      (⟨base, []⟩, [])).toOption =
        if incoming.fullReplace = true → incoming.rowCopies = [] then
          (incoming.rowCopies.foldlM (copyRowsOnce false base.list) (⟨base, []⟩, [])).toOption
        else none := by
    cases full : incoming.fullReplace with
    | false => rw [if_pos nofun]
    | true =>
      cases known : incoming.rowCopies with
      | nil => rw [if_pos fun _ => rfl]; rfl
      | cons copy rest => rw [if_neg fun none => nomatch none rfl]; rfl
  rw [ok_iff, mergeOnto, toOption_bind, copies, copyRowsOnce_eq]
  simp only [toOption_bind, replaceRowOnce_eq, foldlM_writeItem, foldlM_writeOnce]
  cases copied : incoming.rowCopies.mapM (ScreenRowCopy.writes rows base.list) with
  | none => simp [NativeScreenResult.writes, copied]
  | some c =>
    cases replaced : incoming.rowReplacements.mapM (ScreenRowReplace.writes rows) with
    | none => simp [NativeScreenResult.writes, copied, replaced]
    | some r =>
      have known : incoming.writes base = some (c.flatten, r.flatten) := by
        simp [NativeScreenResult.writes, copied, replaced]
      obtain ⟨destinations, indices⟩ := NativeScreenResult.writes_positions known
      have length : (r.flatten.map Prod.fst).length = incoming.rowReplacements.length := by
        rw [indices, length_map]
      have tidy : incoming.Tidy rows ↔ (incoming.fullReplace = true → incoming.rowCopies = []) ∧
          (c.flatten.map Prod.fst).Nodup ∧ (r.flatten.map Prod.fst).Nodup ∧
          ¬ (incoming.fullReplace = true ∧
            ((r.flatten.map Prod.fst).reverse.length : Int) ≠ rows) := by
        rw [length_reverse, length, not_and_not_right]
        exact ⟨fun ⟨copied, replaced, full⟩ => ⟨fun flag => (full flag).1, destinations ▸ copied,
          indices ▸ replaced, fun flag => (full flag).2⟩, fun ⟨free, copied, replaced, whole⟩ =>
          ⟨destinations ▸ copied, indices ▸ replaced, fun flag => ⟨free flag, whole flag⟩⟩⟩
      simp only [tidy, known, bind_some, Option.some.injEq, exists_eq_left', ScreenRows.written,
        foldl_append, not_mem_nil, not_false_eq_true, implies_true, and_true,
        append_nil]
      simp only [bind_eq_some_iff, ite_none_right_eq_some, Option.some.injEq,
        Prod.exists, Prod.mk.injEq, ← ok_iff]
      constructor
      · rintro ⟨_, _, ⟨free, once, rfl, rfl⟩, _, _, ⟨once', rfl, rfl⟩, ok⟩
        split at ok
        · cases ok
        next whole =>
        cases ok
        exact ⟨⟨free, once, once', whole⟩, rfl⟩
      · rintro ⟨⟨free, once, once', whole⟩, rfl⟩
        exact ⟨_, _, ⟨free, once, rfl, rfl⟩, _, _, ⟨once', rfl, rfl⟩, if_neg whole⟩

/-! ### The mergers -/

variable {current : Option (CanonicalLiveScreen Row Cursor Modes)} {generation : Nat}
  {expected : TerminalRef}

/-- The Dart merger accepts what the TypeScript merger accepts, if the response is not older than
the cached screen and is tidy; they then make the same screen. -/
theorem mergeLiveScreen_iff {screen : CanonicalLiveScreen Row Cursor Modes} :
    (∃ merged, mergeLiveScreen current incoming generation expected = .ok merged ∧
      merged.screen = screen) ↔
    staleRevision current incoming generation = false ∧
      incoming.Tidy ((incoming.size.map (·.rows)).getD 0) ∧
      ∃ merged, mergeLiveScreenResult current incoming generation expected = some merged ∧
        merged.screen = screen := by
  unfold mergeLiveScreen mergeLiveScreenResult
  dsimp only
  split
  · simp
  split
  · simp
  split
  · next stale => simp [stale]
  next fresh =>
  split
  · next missing => simp [missing]
  next base known =>
  rw [known, mergeLoops_eq]
  simp only [fresh, mergeOnto_ok_iff, map_eq_some_iff, true_and]
  constructor
  · rintro ⟨_, ⟨tidy, w, writes, rfl⟩, rfl⟩
    exact ⟨tidy, _, ⟨w, writes, rfl⟩, rfl⟩
  · rintro ⟨tidy, _, ⟨w, writes, rfl⟩, rfl⟩
    exact ⟨_, ⟨tidy, w, writes, rfl⟩, rfl⟩

end

end Anytty.Screen
