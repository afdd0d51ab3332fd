import Anytty.Patch.Writes
import Anytty.Screen.Agreement

/-!
# A delta merged into its base is the current screen

The delta is read as a patch of the base rows in the sense of `Anytty.Patch`: every copy run is a
block of single row moves, every replacement one write.  `DeltaOf` says what the server's diff
guarantees about these moves, and both mergers are shown to apply exactly this patch, so that the
general rule `applyWrites_eq_target` gives the round trip.
-/

namespace Anytty.Screen

open Anytty.Patch List Terminal

variable {Row Cursor Modes : Type} {base target : List Row} {copies : List NativeScreenRowCopy}
  {copy : NativeScreenRowCopy} {source : Nat} {rowHashes : List UInt64} {replaced : List Nat}

/-! ### The moves of a list of copies -/

/-- The destination and the source of every row a run copies. -/
def NativeScreenRowCopy.moves (copy : NativeScreenRowCopy) : List (Nat × Nat) :=
  (List.range copy.count).map fun k => (copy.destinationRow + k, copy.sourceRow + k)

def moves (copies : List NativeScreenRowCopy) : List (Nat × Nat) :=
  copies.flatMap NativeScreenRowCopy.moves

theorem moves_concat (copies : List NativeScreenRowCopy) (copy : NativeScreenRowCopy) :
    moves (copies ++ [copy]) = moves copies ++ copy.moves := by
  simp [moves]

theorem NativeScreenRowCopy.moves_grow (copy : NativeScreenRowCopy) :
    ({ copy with count := copy.count + 1 } : NativeScreenRowCopy).moves =
      copy.moves ++ [(copy.destinationRow + copy.count, copy.sourceRow + copy.count)] := by
  simp [moves, range_succ]

/-- Whether a row joins the last run or starts its own, it adds exactly its own move. -/
theorem moves_appendCopy (copies : List NativeScreenRowCopy) (source destination : Nat) :
    moves (appendCopy copies source destination) = moves copies ++ [(destination, source)] := by
  have single : (⟨source, destination, 1⟩ : NativeScreenRowCopy).moves =
      [(destination, source)] := rfl
  unfold appendCopy
  split
  · next last here =>
    split
    · next meets =>
      have split_last := dropLast_append_getLast? last here
      rw [moves_concat, NativeScreenRowCopy.moves_grow, meets.1, meets.2, ← List.append_assoc,
        ← moves_concat, split_last]
    · rw [moves_concat, single]
  · rw [moves_concat, single]

theorem appendCopy_count_pos (source destination : Nat) (pos : ∀ copy ∈ copies, 0 < copy.count) :
    ∀ copy ∈ appendCopy copies source destination, 0 < copy.count := by
  have one : 0 < (⟨source, destination, 1⟩ : NativeScreenRowCopy).count := Nat.one_pos
  have added := forall_mem_append.mpr ⟨pos, forall_mem_singleton.mpr one⟩
  unfold appendCopy
  split
  · split
    · exact forall_mem_append.mpr ⟨fun copy mem => pos copy (dropLast_subset _ mem),
        forall_mem_singleton.mpr (Nat.succ_pos _)⟩
    · exact added
  · exact added

/-! ### The grouping loop -/

/-- The move of a row whose source is another row. -/
def movedRow (row : Option Nat × Nat) : Option (Nat × Nat) :=
  match row.1 with
  | none => none
  | some source => if source = row.2 then none else some (row.2, source)

/-- The index of a row without a source. -/
def unmatchedRow (row : Option Nat × Nat) : Option Nat :=
  match row.1 with
  | none => some row.2
  | some _ => none

section

variable (rows : List (Option Nat × Nat))
include rows

theorem group_spec (acc : List NativeScreenRowCopy × List Nat) :
    moves (rows.foldl groupRow acc).1 = moves acc.1 ++ rows.filterMap movedRow ∧
    (rows.foldl groupRow acc).2 = acc.2 ++ rows.filterMap unmatchedRow ∧
    ((∀ copy ∈ acc.1, 0 < copy.count) →
      ∀ copy ∈ (rows.foldl groupRow acc).1, 0 < copy.count) := by
  induction rows generalizing acc with
  | nil => simp
  | cons row rows ih =>
    obtain ⟨moved, replaced, pos⟩ := ih (groupRow acc row)
    rw [foldl_cons, moved, replaced]
    obtain ⟨source, destination⟩ := row
    cases source with
    | none => exact ⟨rfl, by simp [groupRow, unmatchedRow], pos⟩
    | some source =>
      by_cases same : source = destination
      · simp only [groupRow, if_pos same] at pos ⊢
        exact ⟨by simp [movedRow, same], rfl, pos⟩
      · simp only [groupRow, if_neg same] at pos ⊢
        exact ⟨by simp [movedRow, same, moves_appendCopy], rfl,
          fun old => pos (appendCopy_count_pos source destination old)⟩

/-- Every row moves at most once, and the moves are in the order of their destinations. -/
theorem movedRow_destinations :
    ((rows.filterMap movedRow).map Prod.fst).Sublist (rows.map Prod.snd) := by
  induction rows with
  | nil => exact List.Sublist.slnil
  | cons row rows ih =>
    obtain ⟨source, destination⟩ := row
    cases source with
    | none => exact ih.cons _
    | some source =>
      by_cases same : source = destination
      · simpa [movedRow, same] using ih.cons _
      · simpa [movedRow, same] using ih

end

/-! ### The fingerprint table -/

/-- The table only names rows that have the fingerprint. -/
theorem sourcesByHash_sound {hash : UInt64} (found : sourcesByHash rowHashes hash = some source) :
    rowHashes[source]? = some hash := by
  -- The loop's invariant: what the table holds so far was read from `rowHashes`.
  have loop : ∀ (rows : List (UInt64 × Nat)) (table : UInt64 → Option Nat),
      (∀ row ∈ rows, rowHashes[row.2]? = some row.1) →
      (∀ h s, table h = some s → rowHashes[s]? = some h) →
      ∀ h s, rows.foldl (fun sources row =>
        if (sources row.1).isSome then sources
        else Function.update sources row.1 (some row.2)) table h = some s →
        rowHashes[s]? = some h := by
    intro rows
    induction rows with
    | nil => intro table _ inv; exact inv
    | cons row rows ih =>
      intro table read inv
      apply ih _ (fun r mem => read r (mem_cons_of_mem _ mem))
      intro h s here
      dsimp only at here
      split at here
      · exact inv h s here
      by_cases this : h = row.1
      · subst this
        rw [Function.update_self] at here
        rw [← Option.some.inj here]
        exact read row mem_cons_self
      · rw [Function.update_of_ne this] at here
        exact inv h s here
  refine loop rowHashes.zipIdx _ ?_ (fun h s here => ?_) hash source found
  · intro row mem
    exact mem_zipIdx_iff_getElem?.mp mem
  · cases here

theorem rowSource_sound {hash : UInt64} {destination : Nat}
    (found : rowSource rowHashes destination hash = some source) :
    rowHashes[source]? = some hash := by
  unfold rowSource at found
  split at found
  · next same => rwa [← Option.some.inj found]
  · exact sourcesByHash_sound found

theorem mem_rowSources {current : List UInt64} {row : Option Nat × Nat} :
    row ∈ rowSources rowHashes current ↔
      ∃ hash, current[row.2]? = some hash ∧ row.1 = rowSource rowHashes row.2 hash := by
  constructor
  · intro mem
    obtain ⟨⟨hash, index⟩, visited, rfl⟩ := mem_map.mp mem
    have read := mem_zipIdx_iff_getElem?.mp visited
    exact ⟨hash, read, rfl⟩
  · rintro ⟨hash, here, source⟩
    refine mem_map.mpr ⟨(hash, row.2), mem_zipIdx_iff_getElem?.mpr here, ?_⟩
    exact Prod.ext source.symm rfl

theorem rowSources_destinations (rowHashes current : List UInt64) :
    (rowSources rowHashes current).map Prod.snd = List.range' 0 current.length := by
  rw [rowSources, map_map]
  exact zipIdx_map_snd 0 current

/-! ### What the diff guarantees -/

/-- The copies and the replaced rows describe `target` over `base`. -/
structure DeltaOf (base target : List Row) (copies : List NativeScreenRowCopy)
    (replaced : List Nat) : Prop where
  /-- A copied row of the target is the row of the base it is copied from. -/
  copied : ∀ move ∈ moves copies, ∃ row, base[move.2]? = some row ∧ target[move.1]? = some row
  /-- No row of the target is copied twice. -/
  once : ((moves copies).map Prod.fst).Nodup
  /-- A row that is neither copied nor replaced is the row of the base at the same place. -/
  covered : ∀ i < target.length,
    base[i]? = target[i]? ∨ i ∈ (moves copies).map Prod.fst ∨ i ∈ replaced
  count_pos : ∀ copy ∈ copies, 0 < copy.count

/-- Where the fingerprint separates the rows, equal fingerprints are equal rows. -/
theorem getElem?_eq_of_hash {hash : Row → UInt64}
    (inj : Set.InjOn hash {row | row ∈ base ∨ row ∈ target}) {row : Row} (here : row ∈ target)
    (same : (base.map hash)[source]? = some (hash row)) :
    base[source]? = some row := by
  rw [List.getElem?_map, Option.map_eq_some_iff] at same
  obtain ⟨other, found, equal⟩ := same
  rw [found, inj (.inl (mem_of_getElem? found)) (.inr here) equal]

/-- The diff of two screens with the same number of rows. -/
theorem nativeScreenDeltaRows_deltaOf {hash : Row → UInt64}
    (inj : Set.InjOn hash {row | row ∈ base ∨ row ∈ target}) (rows : List (Option Nat × Nat))
    (is : rows = rowSources (base.map hash) (target.map hash)) :
    DeltaOf base target (rows.foldl groupRow ([], [])).1 (rows.foldl groupRow ([], [])).2 := by
  -- What a row's source means for the rows of the two screens.
  have sound : ∀ source destination, (some source, destination) ∈ rows →
      ∃ row, base[source]? = some row ∧ target[destination]? = some row := by
    intro source destination mem
    obtain ⟨h, here, found⟩ := mem_rowSources.mp (is ▸ mem)
    rw [List.getElem?_map, Option.map_eq_some_iff] at here
    obtain ⟨row, at_target, rfl⟩ := here
    have at_base := rowSource_sound found.symm
    exact ⟨row, getElem?_eq_of_hash inj (mem_of_getElem? at_target) at_base, at_target⟩
  obtain ⟨moved, unmatched, pos⟩ := group_spec rows ([], [])
  refine ⟨?_, ?_, ?_, pos (forall_mem_nil _)⟩
  · rw [moved]
    intro move mem
    obtain ⟨⟨source, destination⟩, visited, moves⟩ := mem_filterMap.mp mem
    cases source with
    | none => cases moves
    | some source =>
      simp only [movedRow] at moves
      split at moves
      · cases moves
      · cases moves
        exact sound source destination visited
  · rw [moved]
    apply (movedRow_destinations rows).nodup
    rw [is, rowSources_destinations]
    exact nodup_range'
  · rw [moved, unmatched]
    intro i inside
    obtain ⟨row, here⟩ : ∃ row, target[i]? = some row := ⟨_, List.getElem?_eq_getElem inside⟩
    have mem : (rowSource (base.map hash) i (hash row), i) ∈ rows := by
      rw [is]
      exact mem_rowSources.mpr ⟨hash row, by rw [List.getElem?_map, here]; rfl, rfl⟩
    cases found : rowSource (base.map hash) i (hash row) with
    | none =>
      right; right
      exact mem_filterMap.mpr ⟨_, mem, by rw [found]; rfl⟩
    | some source =>
      rw [found] at mem
      by_cases same : source = i
      · left
        obtain ⟨row, at_base, at_target⟩ := sound source i mem
        rw [← same, at_base, same, at_target]
      · right; left
        refine mem_map.mpr ⟨(i, source), mem_filterMap.mpr ⟨_, mem, ?_⟩, rfl⟩
        simp [movedRow, same]

namespace DeltaOf

variable {base target : List Row} {copies : List NativeScreenRowCopy} {replaced : List Nat}

/-- The last row of a run is in both screens, so the run is. -/
theorem inRange (delta : DeltaOf base target copies replaced) (mem : copy ∈ copies) :
    copy.sourceRow + copy.count ≤ base.length ∧
      copy.destinationRow + copy.count ≤ target.length := by
  have pos := delta.count_pos copy mem
  have last : (copy.destinationRow + (copy.count - 1), copy.sourceRow + (copy.count - 1)) ∈
      moves copies := by
    refine mem_flatMap.mpr ⟨copy, mem, mem_map.mpr ⟨copy.count - 1, ?_, rfl⟩⟩
    exact mem_range.mpr (by omega)
  obtain ⟨row, at_base, at_target⟩ := delta.copied _ last
  have source := (List.getElem?_eq_some_iff.mp at_base).1
  have destination := (List.getElem?_eq_some_iff.mp at_target).1
  constructor <;> omega

end DeltaOf

/-! ### The patch of a response -/

/-- The write of one move: the row of the base at its source. -/
def moveWrite [Inhabited Row] (base : List Row) (move : Nat × Nat) : Nat × Row :=
  (move.1, base.getD move.2 default)

def NativeScreenRow.write (row : NativeScreenRow Row) : Nat × Row := (row.index, row.row)

/-- What the copies and the replacement rows of a response write over the base. -/
def patch [Inhabited Row] (base : List Row) (copies : List NativeScreenRowCopy)
    (rows : List (NativeScreenRow Row)) : List (Nat × Row) :=
  (moves copies).map (moveWrite base) ++ rows.map NativeScreenRow.write

theorem mem_replacedRows {rows : List Row} {row : NativeScreenRow Row} :
    row ∈ replacedRows rows replaced ↔ rows[row.index]? = some row.row ∧ row.index ∈ replaced := by
  constructor
  · intro mem
    obtain ⟨⟨value, index⟩, kept, rfl⟩ := mem_map.mp mem
    obtain ⟨visited, wanted⟩ := mem_filter.mp kept
    exact ⟨mem_zipIdx_iff_getElem?.mp visited, of_decide_eq_true wanted⟩
  · rintro ⟨here, wanted⟩
    refine mem_map.mpr ⟨(row.row, row.index), mem_filter.mpr ⟨?_, ?_⟩, rfl⟩
    · exact mem_zipIdx_iff_getElem?.mpr here
    · exact decide_eq_true wanted

/-- The replacement rows come in the order of their indices, each once. -/
theorem replacedRows_indices (rows : List Row) (replaced : List Nat) :
    ((replacedRows rows replaced).map NativeScreenRow.index).Nodup := by
  have indices : (replacedRows rows replaced).map NativeScreenRow.index =
      (rows.zipIdx.filter fun row => row.2 ∈ replaced).map Prod.snd := by
    rw [replacedRows, map_map]
    rfl
  rw [indices]
  refine ((filter_sublist).map Prod.snd).nodup ?_
  rw [zipIdx_map_snd]
  exact nodup_range'

theorem replacedRows_range_length (rows : List Row) :
    (replacedRows rows (List.range rows.length)).length = rows.length := by
  have all : rows.zipIdx.filter (fun row => row.2 ∈ List.range rows.length) = rows.zipIdx := by
    apply filter_eq_self.mpr
    intro row mem
    have inside := (List.getElem?_eq_some_iff.mp (mem_zipIdx_iff_getElem?.mp mem)).1
    exact decide_eq_true (mem_range.mpr inside)
  rw [replacedRows, all, length_map, length_zipIdx]

theorem DeltaOf.applyWrites_patch [Inhabited Row] (delta : DeltaOf base target copies replaced)
    (length : base.length = target.length) :
    applyWrites base (patch base copies (replacedRows target replaced)) = target := by
  apply applyWrites_eq_target length
  · intro write mem
    rcases mem_append.mp mem with mem | mem
    · obtain ⟨move, moved, rfl⟩ := mem_map.mp mem
      obtain ⟨row, at_base, at_target⟩ := delta.copied move moved
      rw [moveWrite, List.getD_eq_getElem?_getD, at_base, at_target]
      rfl
    · obtain ⟨row, visited, rfl⟩ := mem_map.mp mem
      exact (mem_replacedRows.mp visited).1
  · intro i inside
    rcases delta.covered i inside with same | copied | wanted
    · exact .inl same
    · obtain ⟨move, moved, rfl⟩ := mem_map.mp copied
      exact .inr ⟨moveWrite base move,
        mem_append_left _ (mem_map_of_mem moved), rfl⟩
    · refine .inr ⟨(i, target[i]), mem_append_right _ ?_, rfl⟩
      refine mem_map.mpr ⟨⟨i, target[i]⟩, mem_replacedRows.mpr ⟨?_, wanted⟩, rfl⟩
      exact List.getElem?_eq_getElem inside

/-! ### Both mergers apply the patch -/

theorem Progress.writes_nextRows {rows : Int} (progress : Progress Row rows)
    (writes : List (Nat × Row)) :
    (writes.foldl write progress).nextRows.list =
      applyWrites progress.nextRows.list writes := by
  induction writes generalizing progress with
  | nil => rfl
  | cons write writes ih => exact ih (progress.write write)

variable {rows : Nat}

theorem outOfRange_toProto (source : copy.sourceRow + copy.count ≤ rows)
    (destination : copy.destinationRow + copy.count ≤ rows) :
    copy.toProto.outOfRange rows = false := by
  simp only [ScreenRowCopy.outOfRange, NativeScreenRowCopy.toProto, Bool.or_eq_false_iff]
  refine ⟨⟨⟨⟨decide_eq_false ?_, decide_eq_false ?_⟩, decide_eq_false ?_⟩, decide_eq_false ?_⟩,
    decide_eq_false ?_⟩ <;> omega

theorem writes_toProto [Inhabited Row]
    (source : copy.sourceRow + copy.count ≤ rows)
    (destination : copy.destinationRow + copy.count ≤ rows) :
    copy.toProto.writes rows base = some (copy.moves.map (moveWrite base)) := by
  rw [ScreenRowCopy.writes, if_neg (by
    rw [outOfRange_toProto source destination]; exact Bool.false_ne_true)]
  simp only [NativeScreenRowCopy.moves, map_map]
  rfl

theorem NativeScreenRow.writes_toProto {row : NativeScreenRow Row} (inside : row.index < rows) :
    row.toProto.writes rows = some [row.write] := by
  have fits : ¬ ((row.index : Int) < 0 || (row.index : Int) ≥ rows) = true := by
    simpa using inside
  exact if_neg fits

theorem mapM_eq_some {α β : Type} {f : α → Option β} {g : α → β} {items : List α}
    (each : ∀ item ∈ items, f item = some (g item)) : items.mapM f = some (items.map g) := by
  induction items with
  | nil => rfl
  | cons item items ih =>
    obtain ⟨here, rest⟩ := forall_mem_cons.1 each
    rw [mapM_cons, here, ih rest]
    rfl

section

variable (snapshot : NativeScreenSnapshot Row Cursor Modes)
include snapshot

@[simp] theorem nativeScreenToProto_terminal (endpointID : String) :
    (nativeScreenToProto endpointID snapshot).terminal =
      some ⟨endpointID, snapshot.terminalID⟩ := rfl

@[simp] theorem nativeScreenToProto_size (endpointID : String) :
    (nativeScreenToProto endpointID snapshot).size =
      some ⟨snapshot.size.cols, snapshot.size.rows⟩ := rfl

@[simp] theorem nativeScreenToProto_rowCopies (endpointID : String) :
    (nativeScreenToProto endpointID snapshot).rowCopies =
      snapshot.rowCopies.map NativeScreenRowCopy.toProto := rfl

@[simp] theorem nativeScreenToProto_rowReplacements (endpointID : String) :
    (nativeScreenToProto endpointID snapshot).rowReplacements =
      snapshot.rows.map NativeScreenRow.toProto := rfl

@[simp] theorem nativeScreenToProto_fullReplace (endpointID : String) :
    (nativeScreenToProto endpointID snapshot).fullReplace = snapshot.fullReplace := rfl

end

/-- The rows and the damage after the whole patch of a snapshot. -/
def applied [Inhabited Row] {rows : Int} (base : ScreenRows Row rows)
    (snapshot : NativeScreenSnapshot Row Cursor Modes) : Progress Row rows :=
  (patch base.list snapshot.rowCopies snapshot.rows).foldl Progress.write ⟨base, []⟩

/-- A snapshot that describes `target` over `base`, as rows of the size it announces. -/
structure Describes [Inhabited Row] (snapshot : NativeScreenSnapshot Row Cursor Modes)
    (base : ScreenRows Row snapshot.size.rows) (target : List Row) (replaced : List Nat) :
    Prop where
  delta : DeltaOf base.list target snapshot.rowCopies replaced
  rows : snapshot.rows = replacedRows target replaced
  length : target.length = snapshot.size.rows

theorem ScreenRows.length_list (base : ScreenRows Row rows) : base.list.length = rows :=
  Int.ofNat.inj base.length_eq

namespace Describes

variable [Inhabited Row] {snapshot : NativeScreenSnapshot Row Cursor Modes} {target : List Row}
  {base : ScreenRows Row snapshot.size.rows} {replaced : List Nat}

section

variable (describes : Describes snapshot base target replaced)
include describes

theorem copies_inside :
    ∀ copy ∈ snapshot.rowCopies, copy.sourceRow + copy.count ≤ snapshot.size.rows ∧
      copy.destinationRow + copy.count ≤ snapshot.size.rows := by
  intro copy mem
  have range := describes.delta.inRange mem
  rwa [base.length_list, describes.length] at range

theorem rows_inside : ∀ row ∈ snapshot.rows, row.index < snapshot.size.rows := by
  intro row mem
  rw [describes.rows] at mem
  rw [← describes.length]
  exact (List.getElem?_eq_some_iff.mp (mem_replacedRows.mp mem).1).1

theorem applied_target : (applied base snapshot).nextRows.list = target := by
  refine (Progress.writes_nextRows _ _).trans ?_
  rw [describes.rows]
  exact describes.delta.applyWrites_patch (base.length_list.trans describes.length.symm)

end

variable {current : Option (CanonicalLiveScreen Row Cursor Modes)} {generation : Nat}
  {endpointID : String}

section

variable (describes : Describes snapshot base target replaced)
include describes

/-- The copies and the replacements of the response write the patch. -/
theorem writes_eq :
    (nativeScreenToProto endpointID snapshot).writes base =
      some ((moves snapshot.rowCopies).map (moveWrite base.list),
        snapshot.rows.map NativeScreenRow.write) := by
  have copied : (snapshot.rowCopies.map NativeScreenRowCopy.toProto).mapM
      (ScreenRowCopy.writes snapshot.size.rows base.list) =
        some (snapshot.rowCopies.map fun copy => copy.moves.map (moveWrite base.list)) := by
    rw [mapM_map]
    refine mapM_eq_some fun copy mem => ?_
    obtain ⟨source, destination⟩ := describes.copies_inside copy mem
    exact writes_toProto source destination
  have replaced : (snapshot.rows.map NativeScreenRow.toProto).mapM
      (ScreenRowReplace.writes snapshot.size.rows) =
        some (snapshot.rows.map fun row => [row.write]) := by
    rw [mapM_map]
    exact mapM_eq_some fun row mem => NativeScreenRow.writes_toProto (describes.rows_inside row mem)
  rw [NativeScreenResult.writes, nativeScreenToProto_rowCopies, nativeScreenToProto_rowReplacements,
    copied, replaced, moves, map_flatMap]
  exact congrArg some (Prod.ext rfl map_eq_flatMap.symm)

/-- The TypeScript merger accepts a response that describes the target over the rows it starts
from, and produces the patched rows. -/
theorem mergeLiveScreenResult_eq
    (starts : ∀ nonneg, baseRows current (nativeScreenToProto endpointID snapshot) generation
      snapshot.size.cols snapshot.size.rows nonneg = some base) :
    ∃ merged, mergeLiveScreenResult current (nativeScreenToProto endpointID snapshot) generation
      ⟨endpointID, snapshot.terminalID⟩ = some merged ∧
        merged.screen = mergedScreen (nativeScreenToProto endpointID snapshot)
          ⟨endpointID, snapshot.terminalID⟩ generation snapshot.size.cols
          (applied base snapshot).nextRows := by
  unfold mergeLiveScreenResult
  rw [if_neg (by simp)]
  exact ⟨_, Option.bind_eq_some_iff.mpr ⟨base, starts _, (mergeLoops_eq _ base _).trans
    (congrArg (Option.map _) describes.writes_eq)⟩, rfl⟩

/-- A response of the server is tidy, if a full replacement comes without copies and with every
row. -/
theorem tidy (complete : snapshot.fullReplace = true →
      snapshot.rowCopies = [] ∧ snapshot.rows.length = snapshot.size.rows) :
    (nativeScreenToProto endpointID snapshot).Tidy snapshot.size.rows := by
  obtain ⟨destinations, indices⟩ := NativeScreenResult.writes_positions
    (describes.writes_eq : (nativeScreenToProto endpointID snapshot).writes base = _)
  refine ⟨?_, ?_, fun full => ?_⟩
  · rw [← destinations, map_map]
    exact describes.delta.once
  · rw [← indices, map_map, describes.rows]
    exact replacedRows_indices target replaced
  · obtain ⟨free, whole⟩ := complete full
    rw [nativeScreenToProto_rowCopies, nativeScreenToProto_rowReplacements, free, length_map,
      whole]
    exact ⟨rfl, rfl⟩

end

end Describes

/-! ### The round trip -/

/-- The rows a terminal shows. -/
def Terminal.screenRows (terminal : Terminal Row Cursor Modes) : List Row :=
  match terminal.live with
  | none => []
  | some live => live.rows

def Terminal.screenSize (terminal : Terminal Row Cursor Modes) : NativeScreenSize :=
  match terminal.live with
  | none => ⟨0, 0⟩
  | some live => live.size

/-- A cached screen is the frame a terminal shows. -/
structure CanonicalLiveScreen.Holds (screen : CanonicalLiveScreen Row Cursor Modes)
    (terminal : Terminal Row Cursor Modes) : Prop where
  revision : screen.revision = terminal.liveRevision
  cols : screen.cols = terminal.screenSize.cols
  rows : screen.rows = terminal.screenSize.rows
  screenRows : screen.screenRows.list = terminal.screenRows

theorem Terminal.screenRows_length (terminal : Terminal Row Cursor Modes) :
    terminal.screenRows.length = terminal.screenSize.rows := by
  unfold screenRows screenSize
  split
  · rfl
  · next live _ => exact live.rows_length

@[simp] theorem Terminal.baseline_rowHashes (hash : Row → UInt64)
    (terminal : Terminal Row Cursor Modes) :
    (terminal.baseline hash).rowHashes = terminal.screenRows.map hash := by
  unfold baseline screenRows
  cases terminal.live <;> rfl

@[simp] theorem Terminal.baseline_size (hash : Row → UInt64)
    (terminal : Terminal Row Cursor Modes) :
    (terminal.baseline hash).size = terminal.screenSize := by
  unfold baseline screenSize
  cases terminal.live <;> rfl

theorem Terminal.Evolves.liveRevision_le {terminal terminal' : Terminal Row Cursor Modes}
    (later : terminal.Evolves terminal') : terminal.liveRevision ≤ terminal'.liveRevision := by
  induction later with
  | refl => exact le_rfl
  | tail _ step ih =>
    refine ih.trans ?_
    cases step with
    | output | regenerate => exact Nat.le_succ _

section RoundTrip

variable {hash : Row → UInt64} {terminal terminal' : Terminal Row Cursor Modes}

/-- What the rows of a snapshot of `terminal'` since a frame of `terminal` carry: either every row,
or a delta over the rows of that frame, which then has the same size. -/
inductive Carries (terminal terminal' : Terminal Row Cursor Modes)
    (snapshot : NativeScreenSnapshot Row Cursor Modes) : Prop where
  | full (flag : snapshot.fullReplace = true) (copies : snapshot.rowCopies = [])
      (rows : snapshot.rows =
        replacedRows terminal'.screenRows (List.range terminal'.screenRows.length))
  | delta (replaced : List Nat) (flag : snapshot.fullReplace = false)
      (size : terminal.screenSize = terminal'.screenSize)
      (rows : snapshot.rows = replacedRows terminal'.screenRows replaced)
      (delta : DeltaOf terminal.screenRows terminal'.screenRows snapshot.rowCopies replaced)

structure SnapshotOf (terminal terminal' : Terminal Row Cursor Modes) (observed : LiveRevision)
    (snapshot : NativeScreenSnapshot Row Cursor Modes) : Prop where
  size : snapshot.size = terminal'.screenSize
  revision : snapshot.revision = terminal'.liveRevision
  baseRevision : snapshot.baseRevision = observed
  carries : Carries terminal terminal' snapshot

theorem snapshotRows_cases (observed : LiveRevision)
    (inj : Set.InjOn hash {row | row ∈ terminal.screenRows ∨ row ∈ terminal'.screenRows}) :
    let rows := snapshotRows observed (some (terminal.baseline hash)) (terminal'.baseline hash)
    rows = ([], List.range terminal'.screenRows.length, true) ∨
      rows.2.2 = false ∧ terminal.screenSize = terminal'.screenSize ∧
        DeltaOf terminal.screenRows terminal'.screenRows rows.1 rows.2.1 := by
  intro rows
  by_cases must : mustReplace observed (some (terminal.baseline hash)) (terminal'.baseline hash)
  · left
    simp [rows, snapshotRows, must, terminal'.screenRows_length]
  have size : terminal.screenSize = terminal'.screenSize := by
    simp only [mustReplace, baseline_size] at must
    grind
  have length : terminal.screenRows.length = terminal'.screenRows.length := by
    rw [terminal.screenRows_length, terminal'.screenRows_length, size]
  right
  have delta := nativeScreenDeltaRows_deltaOf inj _ rfl
  simpa [rows, snapshotRows, must, nativeScreenDeltaRows, length, size] using delta

theorem snapshotOf [Inhabited Cursor] [Inhabited Modes] (terminalID : String)
    (observed : LiveRevision) (now : Int)
    (inj : Set.InjOn hash {row | row ∈ terminal.screenRows ∨ row ∈ terminal'.screenRows}) :
    SnapshotOf terminal terminal' observed (terminal'.nativeScreenSnapshotSinceBaseline hash
      terminalID observed (some (terminal.baseline hash)) now).1 := by
  have shown_cases := snapshotRows_cases observed inj
  cases here : terminal'.live with
  | none =>
    simp only [nativeScreenSnapshotSinceBaseline, here]
    exact ⟨by simp [screenSize, here], rfl, rfl,
      .full rfl rfl (by simp [screenRows, here, replacedRows])⟩
  | some live =>
    have rows : live.rows = terminal'.screenRows := by simp [screenRows, here]
    simp only [nativeScreenSnapshotSinceBaseline, here]
    refine ⟨by simp [screenSize, here], rfl, rfl, ?_⟩
    rcases shown_cases with whole | ⟨flag, size, delta⟩
    · rw [whole]
      exact .full rfl rfl (by rw [rows])
    · exact .delta _ flag size (by rw [rows]) delta

/-- Every row is replaced, so any base gives the target. -/
theorem deltaOf_range (base target : List Row) :
    DeltaOf base target [] (List.range target.length) where
  copied := by intro move mem; cases mem
  once := nodup_nil
  covered := fun _ inside => .inr (.inr (mem_range.mpr inside))
  count_pos := by intro copy mem; cases mem

/-- The rows the mergers start from, for a response to a client whose cache is the frame of
`terminal`. -/
theorem SnapshotOf.describes [Inhabited Row] {snapshot : NativeScreenSnapshot Row Cursor Modes}
    {cached : CanonicalLiveScreen Row Cursor Modes}
    (of : SnapshotOf terminal terminal' cached.revision snapshot) (holds : cached.Holds terminal)
    (endpointID : String) :
    ∃ (base : ScreenRows Row snapshot.size.rows) (replaced : List Nat),
      Describes snapshot base terminal'.screenRows replaced ∧
      (∀ nonneg, baseRows (some cached) (nativeScreenToProto endpointID snapshot)
        cached.generation snapshot.size.cols snapshot.size.rows nonneg = some base) ∧
      (snapshot.fullReplace = true →
        snapshot.rowCopies = [] ∧ snapshot.rows.length = snapshot.size.rows) := by
  have length : terminal'.screenRows.length = snapshot.size.rows := by
    rw [terminal'.screenRows_length, of.size]
  cases of.carries with
  | full flag copies rows =>
    refine ⟨⟨List.replicate snapshot.size.rows default, by rw [length_replicate]⟩, _,
      ⟨copies ▸ deltaOf_range _ _, rows, length⟩, ?_, ?_⟩
    · intro nonneg
      exact if_pos flag
    · intro _
      rw [rows, replacedRows_range_length]
      exact ⟨copies, length⟩
  | delta replaced flag size rows delta =>
    have fits : cached.rows = snapshot.size.rows := by rw [holds.rows, size, of.size]
    refine ⟨⟨cached.screenRows.list, fits ▸ cached.screenRows.length_eq⟩, replaced,
      ⟨holds.screenRows ▸ delta, rows, length⟩, ?_, ?_⟩
    · intro nonneg
      rw [baseRows, if_neg (by simp [flag])]
      exact dif_pos ⟨rfl, of.baseRevision, by rw [holds.cols, size, of.size], fits⟩
    · intro full
      rw [flag] at full
      cases full

/-- The screen either merger builds from the patched rows is the frame of `terminal'`. -/
theorem SnapshotOf.holds_merged [Inhabited Row] {snapshot : NativeScreenSnapshot Row Cursor Modes}
    {observed : LiveRevision} (of : SnapshotOf terminal terminal' observed snapshot)
    {base : ScreenRows Row snapshot.size.rows}
    (describes : Describes snapshot base terminal'.screenRows replaced)
    (endpointID : String) (ref : TerminalRef) (generation : Nat) :
    (mergedScreen (nativeScreenToProto endpointID snapshot) ref generation snapshot.size.cols
      (applied base snapshot).nextRows).Holds terminal' where
  revision := of.revision
  cols := by rw [← of.size]; rfl
  rows := by rw [← of.size]; rfl
  screenRows := describes.applied_target

/-- Let a client's cached screen be the frame a terminal showed, and let the terminal have evolved
in any way since.  The response to the cached revision, computed against the baseline of that
frame, is accepted by both mergers; the screen they produce is the frame the terminal shows now;
and every row a copy run of the response covers is a row of the cached frame. -/
theorem live_screen_round_trip [Inhabited Row] [Inhabited Cursor] [Inhabited Modes]
    (hash : Row → UInt64)
    (terminal terminal' : Terminal Row Cursor Modes) (later : terminal.Evolves terminal')
    (inj : Set.InjOn hash {row | row ∈ terminal.screenRows ∨ row ∈ terminal'.screenRows})
    (cached : CanonicalLiveScreen Row Cursor Modes) (holds : cached.Holds terminal)
    (endpointID terminalID : String) (now : Int) :
    let snapshot := (terminal'.nativeScreenSnapshotSinceBaseline hash terminalID cached.revision
      (some (terminal.baseline hash)) now).1
    let response := nativeScreenToProto endpointID snapshot
    (∃ merged, mergeLiveScreenResult (some cached) response cached.generation
      ⟨endpointID, terminalID⟩ = some merged ∧ merged.screen.Holds terminal') ∧
    (∃ merged, mergeLiveScreen (some cached) response cached.generation
      ⟨endpointID, terminalID⟩ = .ok merged ∧ merged.screen.Holds terminal') ∧
    ∀ copy ∈ snapshot.rowCopies, ∀ k < copy.count, ∃ row,
      terminal.screenRows[copy.sourceRow + k]? = some row ∧
      terminal'.screenRows[copy.destinationRow + k]? = some row := by
  intro snapshot response
  have of : SnapshotOf terminal terminal' cached.revision snapshot :=
    snapshotOf terminalID cached.revision now inj
  have named : snapshot.terminalID = terminalID := by
    show (terminal'.nativeScreenSnapshotSinceBaseline hash terminalID cached.revision
      (some (terminal.baseline hash)) now).1.terminalID = terminalID
    unfold nativeScreenSnapshotSinceBaseline
    cases terminal'.live <;> rfl
  obtain ⟨base, replaced, describes, starts, complete⟩ := of.describes holds endpointID
  have fresh : staleRevision (some cached) response cached.generation = false := by
    have order : cached.revision ≤ snapshot.revision := by
      rw [holds.revision, of.revision]
      exact later.liveRevision_le
    have ordered : ¬ response.liveRevision < cached.revision := Nat.not_lt.mpr order
    simp [staleRevision, ordered]
  have shows := of.holds_merged describes endpointID ⟨endpointID, terminalID⟩ cached.generation
  have merges := describes.mergeLiveScreenResult_eq starts
  rw [named] at merges
  obtain ⟨ts, accepted, same⟩ := merges
  obtain ⟨dart, accepted', same'⟩ :=
    mergeLiveScreen_iff.2 ⟨fresh, describes.tidy complete, ts, accepted, same⟩
  refine ⟨⟨ts, accepted, same ▸ shows⟩, ⟨dart, accepted', same' ▸ shows⟩, ?_⟩
  intro copy mem k inside
  cases of.carries with
  | full _ copies =>
    rw [copies] at mem
    cases mem
  | delta _ _ _ _ delta =>
    refine delta.copied (copy.destinationRow + k, copy.sourceRow + k) ?_
    exact mem_flatMap.mpr ⟨copy, mem, mem_map.mpr ⟨k, mem_range.mpr inside, rfl⟩⟩

/-- A screen of four rows, numbered by their content. -/
def numberedSurface (first second third fourth : Nat) : Surface Nat Unit Unit where
  size := ⟨80, 4⟩
  rows := [first, second, third, fourth]
  cursor := ()
  modes := ()
  altScreen := false
  rows_length := rfl

/-- The screen scrolls up by one row and shows a new last row. -/
theorem scrolled_screen_round_trip :
    ∃ (before after : Terminal Nat Unit Unit) (cached : CanonicalLiveScreen Nat Unit Unit),
      before.Evolves after ∧ cached.Holds before ∧
      before.screenRows = [1, 2, 3, 4] ∧ after.screenRows = [2, 3, 4, 5] ∧
      ∃ merged, mergeLiveScreenResult (some cached)
        (nativeScreenToProto "endpoint" (after.nativeScreenSnapshotSinceBaseline UInt64.ofNat
          "terminal" cached.revision (some (before.baseline UInt64.ofNat)) 0).1)
        cached.generation ⟨"endpoint", "terminal"⟩ = some merged ∧ merged.screen.Holds after := by
  let before : Terminal Nat Unit Unit := ⟨0, some (numberedSurface 1 2 3 4), 7, 0⟩
  let after : Terminal Nat Unit Unit := ⟨0, some (numberedSurface 2 3 4 5), 8, 0⟩
  let cached : CanonicalLiveScreen Nat Unit Unit :=
    ⟨⟨"endpoint", "terminal"⟩, 0, 7, 80, 4, ⟨[1, 2, 3, 4], rfl⟩, false, none, none, 0⟩
  have later : before.Evolves after :=
    Relation.ReflTransGen.single (.output before (numberedSurface 1 2 3 4) _ rfl rfl)
  have holds : cached.Holds before := ⟨rfl, rfl, rfl, rfl⟩
  have inj : Set.InjOn UInt64.ofNat {row | row ∈ before.screenRows ∨ row ∈ after.screenRows} := by
    have small : ∀ row ∈ [1, 2, 3, 4] ++ [2, 3, 4, 5], row < 6 := by decide
    intro row mem other mem' same
    have bound := small row (mem_append.mpr mem)
    have bound' := small other (mem_append.mpr mem')
    have equal := congrArg UInt64.toNat same
    have wide : 6 ≤ UInt64.size := by decide
    rw [UInt64.toNat_ofNat_of_lt' (bound.trans_le wide),
      UInt64.toNat_ofNat_of_lt' (bound'.trans_le wide)] at equal
    exact equal
  exact ⟨before, after, cached, later, holds, rfl, rfl,
    (live_screen_round_trip UInt64.ofNat before after later inj cached holds
      "endpoint" "terminal" 0).1⟩

end RoundTrip

end Anytty.Screen
