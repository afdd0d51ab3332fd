import Anytty.Tui.Panes

/-!
# What a call on one pane does to the others

`PaneInvariant` lists what a fact about the terminal has to survive so that every history
call on a pane keeps it: the steps on the shared snapshot, and the changes of the pane's own
viewport. Two facts are carried through in this way.

What another pane shows stays the same (`Untouched`). What it copies does not in general:
`HistoryCopy` asks the shared snapshot and not the pane whether there is a history to copy
from, and finds the column base of a row in maps that the last window left behind. A pane that
is frozen on a snapshot of the terminal's width, with both ends of its selection on the tail
page or at their plain column, keeps its copy (`Frozen`).
-/

namespace Anytty.Tui.Panes

open Anytty.Data List Triple

/-! ### Facts that calls keep -/

/-- `I` survives the steps of the calls on `view`. Column bases that satisfy `Good` may be
recorded. -/
structure PaneInvariant (I : World → Prop) (Good : Nat × Int → Prop) (view : String) :
    Prop where
  outside : ∀ w alive windows, I w → I { w with alive := alive, windows := windows }
  good : ∀ w s, I w → w.terminal.historySnapshot = some s →
    ∀ e ∈ rowBases s.page s.cols, Good e
  record : ∀ bases, (∀ e ∈ bases, Good e) →
    Maintains I (updateSnapshot fun s => { s with windowBases := bases })
  start : ∀ offset, Maintains I (startWindow offset)
  rewind : Maintains I (updateSnapshot Snapshot.rewind)
  older : Maintains I older
  locked : ∀ env, Maintains I (historyLocked env)
  change : ∀ f : ViewState → ViewState, ∀ w, I w →
    I { w with terminal := w.terminal.setView view f }
  generation : ∀ w n, I w →
    I { w with terminal := { w.terminal with historyScrollGeneration := n } }
  detach : ∀ w, I w → I { w with terminal := w.terminal.detach view }

section Calls

variable {I : World → Prop} {Good : Nat × Int → Prop} {view : String}

theorem modifyTerminal_maintains {f : Terminal → Terminal}
    (h : ∀ w, I w → I { w with terminal := f w.terminal }) : Maintains I (modifyTerminal f) :=
  .modify h

theorem throwIf_maintains (err : Option String) : Maintains I (throwIf err) := by
  cases err with
  | none => exact .pure ()
  | some err => exact .throw err

theorem theSnapshot_maintains : Maintains I theSnapshot := by
  refine .read fun w => ?_
  split
  · exact .pure _
  · exact .throw _

theorem backendWindow_maintains (P : Terminal → Prop) :
    Maintains (fun w : World => P w.terminal) backendWindow := by
  refine .read fun w => .bind ?_ fun _ => ?_
  · exact .modify fun _ holds => holds
  split
  · exact .pure _
  · exact .throw _
  · exact .throw _

theorem theSnapshot_spec :
    Triple I theSnapshot (fun s w => I w ∧ w.terminal.historySnapshot = some s) I := by
  refine read fun w => ?_
  split
  · next s found => exact pure fun t same => ⟨same.1 ▸ same.2, same.1 ▸ found⟩
  · exact throw fun t same => same.1 ▸ same.2

namespace PaneInvariant

variable (inv : PaneInvariant I Good view)

include inv

theorem ctxErr : Maintains I ctxErr :=
  .read fun _ => .ite (fun _ => .throw _) fun _ =>
    .modify fun w holds => inv.outside w _ _ holds

theorem atOldest : Maintains I atOldest :=
  theSnapshot_maintains.bind fun _ => .ite (fun _ => .pure _) fun _ =>
    inv.older.bind fun _ => theSnapshot_maintains.bind fun _ => .pure _

theorem finishWindow {bases : List (Nat × Int)} (good : ∀ e ∈ bases, Good e)
    (out : List HistoryRow) (offset : Int) : Maintains I (finishWindow out bases offset) :=
  (inv.record bases good).bind fun _ => .pure _

/-- The loop only records bases of the pages it walks. -/
theorem windowLoop (fuel : Nat) (offset height : Int) (out : List HistoryRow)
    {bases : List (Nat × Int)} (good : ∀ e ∈ bases, Good e) :
    Maintains I (windowLoop fuel offset height out bases) := by
  induction fuel generalizing offset out bases with
  | zero => exact .throw _
  | succ fuel ih =>
    refine inv.ctxErr.bind fun _ => ?_
    refine bind theSnapshot_spec fun s => ?_
    -- the bases of this round are those of the current page
    refine fun w holds => ?_
    have more : ∀ e ∈ bases ++ s.basesOf (s.picked offset height), Good e := by
      exact forall_mem_append.mpr ⟨good, fun e member =>
        inv.good w s holds.1 holds.2 e (mem_filter.mp member).1⟩
    refine ite (fun _ => inv.finishWindow more _ _) (fun _ => ?_) w holds.1
    refine inv.atOldest.bind fun stop => ite (fun _ => ?_) fun _ => ih _ _ more
    refine theSnapshot_maintains.bind fun s' => .ite (fun _ => ?_) fun _ => ?_
    · exact (inv.start _).bind fun _ => ih _ _ (by simp)
    · exact inv.finishWindow more _ _

theorem snapshotWindow (offset height : Int) : Maintains I (snapshotWindow offset height) :=
  .ite (fun _ => .throw _) fun _ =>
    (inv.start _).bind fun _ => .read fun _ => inv.windowLoop _ _ _ _ (by simp)

theorem locateLoop (range : HistoryRange) (height : Int) (fuel : Nat) :
    Maintains I (locateLoop range height fuel) := by
  induction fuel with
  | zero => exact .throw _
  | succ fuel ih =>
    refine inv.ctxErr.bind fun _ => theSnapshot_maintains.bind fun s => ?_
    split
    · exact (inv.snapshotWindow _ _).bind fun _ =>
        .ite (fun _ => .pure _) fun _ => .throw _
    · exact .ite (fun _ => .throw _) fun _ => inv.older.bind fun _ => ih

theorem locate (range : HistoryRange) (height : Int) : Maintains I (locate range height) :=
  inv.rewind.bind fun _ => .read fun _ => inv.locateLoop range height _

theorem publish (epoch : Nat) (page : List HistoryRow) (offset : Int) :
    Maintains I (publish epoch view page offset) :=
  .read fun _ => .ite (fun _ => .pure _) fun _ =>
    (modifyTerminal_maintains (inv.change _)).bind fun _ => .pure _

theorem validateScroll (env : Env) : Maintains I (validateScroll env) := by
  refine inv.ctxErr.bind fun _ => .read fun w => ?_
  split
  · exact .pure _
  · exact .ite (fun _ => .throw _) fun _ => inv.ctxErr

theorem publishForScroll (env : Env) (epoch : Nat) (page : List HistoryRow) (offset : Int) :
    Maintains I (publishForScroll env epoch view page offset) :=
  inv.ctxErr.bind fun _ => .read fun _ =>
    .ite (fun _ => .throw _) fun _ =>
      (inv.publish epoch page offset).bind fun _ =>
        .ite (fun _ => .pure _) fun _ => .throw _

theorem detachForScroll (env : Env) : Maintains I (detachForScroll env view) :=
  inv.ctxErr.bind fun _ => .read fun _ =>
    .ite (fun _ => .throw _) fun _ => modifyTerminal_maintains inv.detach

theorem scroll (delta rows : Int) : Maintains I (modifyTerminal (·.scroll view delta rows)) := by
  refine modifyTerminal_maintains fun w holds => ?_
  unfold Terminal.scroll
  dsimp only
  split
  · exact holds
  · exact inv.change _ w holds

omit inv in
theorem liveWindow (rows : Int) : Maintains I (liveWindow view rows) :=
  .read fun _ => .pure _

theorem historyWindow (env : Env) (offset rows : Int) :
    Maintains I (historyWindow env view offset rows) :=
  .read fun _ => (inv.locked env).bind fun _ => .read fun _ =>
    (inv.snapshotWindow _ _).bind fun _ =>
      .ite (fun _ => (inv.publish _ _ _).bind fun _ => .pure _)
        fun _ => .pure _

theorem historyScroll (env : Env) (delta rows : Int) :
    Maintains I (historyScroll env view delta rows) := by
  refine (inv.validateScroll env).bind fun _ => .read fun w => ?_
  refine .ite (fun _ => ?_) fun _ => .ite (fun _ => ?_) fun _ => ?_
  · exact .ite
      (fun _ => (inv.scroll delta rows).bind fun _ => .read fun _ => .pure _)
      fun _ => liveWindow rows
  · exact (inv.detachForScroll env).bind fun _ => liveWindow rows
  · refine (inv.locked env).bind fun _ => .read fun _ => ?_
    refine (inv.snapshotWindow _ _).bind fun page => (inv.validateScroll env).bind fun _ => ?_
    exact .ite (fun _ => (inv.detachForScroll env).bind fun _ => liveWindow rows)
      fun _ => (inv.publishForScroll env _ _ _).bind fun _ => .pure _

theorem search (env : Env) : Maintains I (search env view) := by
  refine (throwIf_maintains env.patternErr).bind fun _ => .read fun _ => ?_
  refine (inv.locked env).bind fun _ => .read fun _ => ?_
  refine .ite (fun _ => .throw _) fun _ => ?_
  split
  · exact .throw _
  refine .ite (fun _ => .pure _) fun _ => ?_
  exact (inv.locate _ _).bind fun _ => (inv.publish _ _ _).bind fun _ =>
    .ite (fun _ => .pure _) fun _ => .throw _

theorem historyRelease (env : Env) : Maintains I (historyRelease env view) := by
  refine (modifyTerminal_maintains fun w holds => ?_).bind fun _ => ?_
  · exact inv.generation _ _ (inv.change _ w holds)
  · exact .read fun _ => (modifyTerminal_maintains inv.detach).bind fun _ =>
      .read fun _ =>
        .ite (fun _ => throwIf_maintains _) fun _ => .pure _

theorem body (env : Env) (call : PaneCall) : Maintains I (call.body env view) := by
  cases call with
  | historyScroll delta rows =>
    exact (inv.historyScroll env delta rows).bind fun _ => .pure _
  | historyWindow offset rows =>
    exact (inv.historyWindow env offset rows).bind fun _ => .pure _
  | search => exact (inv.search env).bind fun _ => .pure _
  | historyRelease => exact inv.historyRelease env
  | scroll delta rows => exact inv.scroll delta rows
  | scrollEnd =>
    change Maintains I (modifyTerminal (·.scrollEnd view))
    exact modifyTerminal_maintains fun w holds => inv.change _ w holds

end PaneInvariant

end Calls

/-- What a fact about the terminal after every call on `view`. -/
theorem invokeAll_maintains {J : Terminal → Prop} {Good : Nat × Int → Prop} {view : String}
    (inv : PaneInvariant (fun w => J w.terminal) Good view) (calls : List Invocation)
    {t : Terminal} (holds : J t) : J (t.invokeAll view calls) := by
  induction calls generalizing t with
  | nil => exact holds
  | cons call calls ih =>
    refine ih ?_
    have after := (inv.body call.env call.call).stateOf
      (s := ⟨t, call.alive, call.windows⟩) holds
    exact after

/-! ### What the other pane shows -/

/-- The pane `other` is as in `t₀`, and so is the parser. -/
structure Untouched (t₀ : Terminal) (other : String) (t : Terminal) : Prop where
  view : t.view other = t₀.view other
  parser : t.parser = t₀.parser

theorem view_setView_ne (t : Terminal) {view other : String} (ne : other ≠ view)
    (f : ViewState → ViewState) : (t.setView view f).view other = t.view other := by
  unfold Terminal.view Terminal.setView
  rw [SortedMap.lookup_insert, if_neg ne]

section Untouched

variable {t₀ : Terminal} {view other : String} {t : Terminal}

/-- A change that leaves the viewports and the parser alone. -/
theorem Untouched.modify {f : Terminal → Terminal} (views : ∀ t, (f t).views = t.views)
    (parser : ∀ t, (f t).parser = t.parser) :
    Maintains (fun w : World => Untouched t₀ other w.terminal) (modifyTerminal f) := by
  refine modifyTerminal_maintains fun w untouched => ⟨?_, ?_⟩
  · rw [← untouched.view]
    change ((f w.terminal).views.lookup other).getD newView = _
    rw [views]
    rfl
  · rw [← untouched.parser]
    exact parser w.terminal

theorem Untouched.setView (ne : other ≠ view) (untouched : Untouched t₀ other t)
    (f : ViewState → ViewState) : Untouched t₀ other (t.setView view f) :=
  ⟨(view_setView_ne t ne f).trans untouched.view, untouched.parser⟩

theorem Untouched.updateSnapshot (f : Snapshot → Snapshot) :
    Maintains (fun w : World => Untouched t₀ other w.terminal) (updateSnapshot f) :=
  modify (fun _ => rfl) fun _ => rfl

theorem Untouched.project (rows : List RowData) :
    Maintains (fun w : World => Untouched t₀ other w.terminal) (project rows) := by
  refine .read fun _ => .bind ?_ fun _ => .pure _
  exact modify (fun _ => rfl) fun _ => rfl

theorem Untouched.older : Maintains (fun w : World => Untouched t₀ other w.terminal) older := by
  refine theSnapshot_maintains.bind fun s => .ite (fun _ => .pure _) fun _ => ?_
  split
  · exact .throw _
  refine (backendWindow_maintains _).bind fun result => (project _).bind fun rows => ?_
  exact .ite
    (fun _ => .ite (fun _ => .throw _) fun _ => .updateSnapshot _)
    fun _ => .updateSnapshot _

theorem Untouched.dropStale (env : Env) :
    Maintains (fun w : World => Untouched t₀ other w.terminal) (dropStale env) := by
  refine .read fun w => .ite (fun _ => ?_) fun _ => .pure _
  refine .bind ?_ fun _ => modify (fun _ => rfl) fun _ => rfl
  refine theSnapshot_maintains.bind fun s => .ite (fun _ => .pure _) fun _ => ?_
  refine .bind ?_ fun _ => throwIf_maintains _
  exact modify (fun _ => rfl) fun _ => rfl

theorem Untouched.ensureSnapshot (env : Env) :
    Maintains (fun w : World => Untouched t₀ other w.terminal) (ensureSnapshot env) := by
  refine .read fun w => .ite (fun _ => .pure _) fun _ => ?_
  refine (throwIf_maintains _).bind fun _ => .bind ?_ fun _ =>
    modify (fun _ => rfl) fun _ => rfl
  refine .ite (fun _ => .throw _) fun _ => ?_
  refine (backendWindow_maintains _).bind fun result =>
    .ite (fun _ => .throw _) fun _ => ?_
  exact (project _).bind fun _ => .pure _

theorem untouched_invariant (ne : other ≠ view) :
    PaneInvariant (fun w => Untouched t₀ other w.terminal) (fun _ => True) view where
  outside := fun _ _ _ holds => holds
  good := fun _ _ _ _ _ _ => trivial
  record := fun _ _ => .updateSnapshot _
  start := fun _ => .updateSnapshot _
  rewind := .updateSnapshot _
  older := Untouched.older
  locked := fun env => by
    refine .bind ?_ fun _ =>
      (Untouched.dropStale env).bind fun _ => Untouched.ensureSnapshot env
    exact .read fun _ => .ite (fun _ => .throw _) fun _ =>
      .modify fun _ holds => holds
  change := fun f w untouched => untouched.setView ne f
  generation := fun _ _ untouched => ⟨untouched.view, untouched.parser⟩
  detach := fun w untouched => by
    have detached := untouched.setView ne fun v =>
      { v with
        historyActive := false, historyRows := [], historyOffset := 0, pinned := false
        viewEnd := 0 }
    unfold Terminal.detach
    dsimp only
    split
    · exact detached
    · exact ⟨detached.view, detached.parser⟩

/-! What a pane shows is read off its viewport and the parser. -/

section

variable (untouched : Untouched t₀ other t)
include untouched

theorem Untouched.windowEnd : t.windowEnd other = t₀.windowEnd other := by
  unfold Terminal.windowEnd
  rw [untouched.view, untouched.parser]

theorem Untouched.visibleLines : t.visibleLines other = t₀.visibleLines other := by
  unfold Terminal.visibleLines
  rw [untouched.view, untouched.parser, untouched.windowEnd]

theorem Untouched.offset : t.offset other = t₀.offset other := by
  unfold Terminal.offset
  rw [untouched.view, untouched.parser]

theorem Untouched.isHistoryActive : t.isHistoryActive other = t₀.isHistoryActive other := by
  unfold Terminal.isHistoryActive
  rw [untouched.view]

theorem Untouched.copyWindow (normalize : String → String) (spec : CopySpec) :
    t.copyWindow normalize other spec = t₀.copyWindow normalize other spec := by
  unfold Terminal.copyWindow
  rw [untouched.view, untouched.parser, untouched.windowEnd]

theorem Untouched.copyText : t.copyText other = t₀.copyText other := by
  unfold Terminal.copyText
  rw [untouched.visibleLines]

end

end Untouched

/-! ### What the other pane copies -/

/-- All places where a snapshot may find the base of a row. -/
def Snapshot.entries (s : Snapshot) : List (Nat × Int) :=
  s.windowBases ++ rowBases s.page s.cols ++ rowBases s.latest s.cols

/-- The rows at the two ends of a selection. -/
def CopySpec.ends (spec : CopySpec) (rows : List HistoryRow) : List HistoryRow :=
  rows[(spec.ordered rows.length).1.1.toNat]?.toList ++
    rows[(spec.ordered rows.length).2.1.toNat]?.toList

/-- The snapshot will not lose the base of a row: what it has recorded agrees, and the row is
on the tail page or at its plain column. -/
structure Anchored (s : Snapshot) (row : HistoryRow) : Prop where
  agree : ∀ e ∈ s.entries, e.1 = row.ref → e.2 = s.columnBase row
  kept : row.ref ∈ s.latest.map HistoryRow.ref ∨ s.columnBase row = row.rowInLine * s.cols

/-- The pane is frozen on a snapshot of the terminal's width and epoch, with both ends of the
selection anchored. -/
structure Frozen (t : Terminal) (view : String) (spec : CopySpec) (s : Snapshot) : Prop where
  snapshot : t.historySnapshot = some s
  cols : s.cols = t.parser.cols
  epoch : t.historySnapshotEpoch = t.historyEpoch
  active : (t.view view).historyActive = true
  existing : ∀ row ∈ spec.ends (t.view view).historyRows, row.ref < t.allocated
  anchored : ∀ row ∈ spec.ends (t.view view).historyRows, Anchored s row

theorem rowBasesFrom_refs (cols : Int) (previous : Option HistoryRow) (base : Int)
    (rows : List HistoryRow) :
    (rowBasesFrom cols previous base rows).map Prod.fst = rows.map HistoryRow.ref := by
  induction rows generalizing previous base with
  | nil => rfl
  | cons row rows ih => simp [rowBasesFrom, ih]

theorem rowBases_refs (rows : List HistoryRow) (cols : Int) :
    (rowBases rows cols).map Prod.fst = rows.map HistoryRow.ref :=
  rowBasesFrom_refs cols none 0 rows

theorem le_ref_of_mem_numbered {n : Nat} {rows : List RowData} {row : HistoryRow}
    (member : row ∈ numbered n rows) : n ≤ row.ref := by
  induction rows generalizing n with
  | nil => cases member
  | cons data rows ih =>
    rcases mem_cons.mp member with rfl | member
    · exact Nat.le_refl n
    · exact Nat.le_of_succ_le (ih member)

/-- A recorded base belongs to the pane's selection only if it is the one it copies with. -/
def GoodBase (s₀ : Snapshot) (ends : List HistoryRow) (e : Nat × Int) : Prop :=
  ∀ row ∈ ends, e.1 = row.ref → e.2 = s₀.columnBase row

/-- The shared snapshot is still `s₀`, and knows the selection's bases as before. -/
structure Held (t₀ : Terminal) (s₀ : Snapshot) (ends : List HistoryRow) (other : String)
    (t : Terminal) : Prop where
  untouched : Untouched t₀ other t
  epoch : t.historyEpoch = t₀.historyEpoch
  snapshotEpoch : t.historySnapshotEpoch = t₀.historySnapshotEpoch
  released : t.released = t₀.released
  allocated : t₀.allocated ≤ t.allocated
  snapshot : ∃ s, t.historySnapshot = some s ∧ s.token = s₀.token ∧
    s.generation = s₀.generation ∧ s.cols = s₀.cols ∧ s.latest = s₀.latest ∧
    ∀ e ∈ s.windowBases ++ rowBases s.page s.cols, GoodBase s₀ ends e

section Held

variable {t₀ : Terminal} {s₀ : Snapshot} {spec : CopySpec} {view other : String} {t : Terminal}
  {ends : List HistoryRow}

/-- The selection's rows. -/
def selection (t : Terminal) (view : String) (spec : CopySpec) : List HistoryRow :=
  spec.ends (t.view view).historyRows

theorem Frozen.held (frozen : Frozen t₀ other spec s₀) :
    Held t₀ s₀ (selection t₀ other spec) other t₀ where
  untouched := ⟨rfl, rfl⟩
  epoch := rfl
  snapshotEpoch := rfl
  released := rfl
  allocated := Nat.le_refl _
  snapshot := ⟨s₀, frozen.snapshot, rfl, rfl, rfl, rfl, fun e member row among same =>
    (frozen.anchored row among).agree e (mem_append_left _ member) same⟩

/-- A change of the snapshot that keeps its token and its tail page. -/
theorem Held.updateSnapshot {f : Snapshot → Snapshot} {w : World}
    (held : Held t₀ s₀ ends other w.terminal) (keeps : ∀ s, (f s).token = s.token ∧
      (f s).generation = s.generation ∧ (f s).cols = s.cols ∧ (f s).latest = s.latest) (good : ∀ s, s.cols = s₀.cols → s.latest = s₀.latest →
      (∀ e ∈ s.windowBases ++ rowBases s.page s.cols, GoodBase s₀ ends e) →
      ∀ e ∈ (f s).windowBases ++ rowBases (f s).page s.cols, GoodBase s₀ ends e) :
    Held t₀ s₀ ends other
      { w.terminal with historySnapshot := w.terminal.historySnapshot.map f } := by
  obtain ⟨s, found, sameToken, sameGeneration, sameCols, sameLatest, bases⟩ := held.snapshot
  obtain ⟨token, generation, cols, latest⟩ := keeps s
  refine ⟨⟨held.untouched.view, held.untouched.parser⟩, held.epoch, held.snapshotEpoch,
    held.released, held.allocated, f s, ?_, token.trans sameToken,
    generation.trans sameGeneration, cols.trans sameCols, latest.trans sameLatest, ?_⟩
  · rw [found]
    rfl
  · rw [cols]
    exact good s sameCols sameLatest bases

theorem Held.rewound (latest : ∀ e ∈ rowBases s₀.latest s₀.cols,
      GoodBase s₀ ends e) {s : Snapshot} (cols : s.cols = s₀.cols) (tail : s.latest = s₀.latest)
    (good : ∀ e ∈ s.windowBases ++ rowBases s.page s.cols, GoodBase s₀ ends e) :
    ∀ e ∈ s.rewind.windowBases ++ rowBases s.rewind.page s.cols, GoodBase s₀ ends e := by
  intro e member
  rcases mem_append.mp member with member | member
  · exact good e (mem_append_left _ member)
  change e ∈ rowBases s.latest s.cols at member
  rw [tail, cols] at member
  exact latest e member

/-- New rows are none of the selection. -/
theorem project_fresh (rows : List RowData) :
    Triple (fun w : World => Held t₀ s₀ ends other w.terminal) (project rows)
      (fun fresh w => Held t₀ s₀ ends other w.terminal ∧ ∀ r ∈ fresh, t₀.allocated ≤ r.ref)
      (fun w => Held t₀ s₀ ends other w.terminal) := by
  intro w held
  refine ⟨{ held with untouched := ⟨held.untouched.view, held.untouched.parser⟩, allocated := ?_ }, ?_⟩
  · exact Nat.le_trans held.allocated (Nat.le_add_right _ _)
  · intro r member
    exact Nat.le_trans held.allocated (le_ref_of_mem_numbered member)

theorem Held.older (existing : ∀ row ∈ ends, row.ref < t₀.allocated) :
    Maintains (fun w : World => Held t₀ s₀ ends other w.terminal) older := by
  refine theSnapshot_maintains.bind fun s => .ite (fun _ => .pure _) fun _ => ?_
  split
  · exact .throw _
  refine (backendWindow_maintains _).bind fun result => ?_
  refine bind (project_fresh result.rows) fun rows => ?_
  refine ite (fun _ => ite (fun _ => ?_) fun _ => ?_) fun _ => ?_
  · exact throw fun _ both => both.1
  · intro w both
    exact both.1.updateSnapshot (fun _ => ⟨rfl, rfl, rfl, rfl⟩)
      fun _ _ _ good => good
  · intro w both
    refine both.1.updateSnapshot (fun _ => ⟨rfl, rfl, rfl, rfl⟩) ?_
    intro s _ _ good e member
    rcases mem_append.mp member with member | member
    · exact good e (mem_append_left _ member)
    -- the new page has new rows only
    intro row among same
    have ref : e.1 ∈ (rows.takeWhile _).map HistoryRow.ref :=
      rowBases_refs _ s.cols ▸ mem_map_of_mem member
    obtain ⟨r, taken, isRef⟩ := mem_map.mp ref
    have new := both.2 r ((takeWhile_sublist _).mem taken)
    have old := existing row among
    rw [isRef, same] at new
    exact absurd old (Nat.not_lt.mpr new)

/-- While the pane is frozen the snapshot is in use. -/
theorem anyViewActive_of_active (active : (t.view other).historyActive = true) :
    t.anyViewActive = true := by
  unfold Terminal.view at active
  cases found : t.views.lookup other with
  | none =>
    rw [found] at active
    cases active
  | some v =>
    rw [found] at active
    refine any_eq_true.mpr ⟨(other, v), SortedMap.lookup_eq_some.mp found, ?_⟩
    change (v.historyActive || v.pinned) = true
    rw [show v.historyActive = true from active]
    rfl

theorem Held.setView (ne : other ≠ view) (held : Held t₀ s₀ ends other t)
    (f : ViewState → ViewState) :
    Held t₀ s₀ ends other (t.setView view f) :=
  { held with untouched := held.untouched.setView ne f }

theorem Held.locked (frozen : Frozen t₀ other spec s₀) (env : Env) :
    Maintains (fun w : World => Held t₀ s₀ ends other w.terminal) (historyLocked env) := by
  refine .bind ?_ fun _ => .bind ?_ fun _ => ?_
  · exact .read fun _ => .ite (fun _ => .throw _) fun _ =>
      .modify fun _ holds => holds
  · -- the snapshot has the terminal's width and epoch
    refine read fun w => ite (fun stale => ?_) fun _ => pure fun _ same => ?_
    · rintro _ ⟨-, held⟩
      obtain ⟨s, found, -, -, cols, -⟩ := held.snapshot
      have fresh : w.terminal.snapshotStale = false := by
        have width : s.cols = w.terminal.parser.cols := by
          rw [cols, held.untouched.parser, frozen.cols]
        have current : w.terminal.historySnapshotEpoch = w.terminal.historyEpoch := by
          rw [held.snapshotEpoch, held.epoch, frozen.epoch]
        simp [Terminal.snapshotStale, found, width, current]
      rw [fresh] at stale
      cases stale
    · exact same.1 ▸ same.2
  · refine read fun w => ite (fun _ => pure fun _ same => ?_) fun missing => ?_
    · exact same.1 ▸ same.2
    · rintro _ ⟨-, held⟩
      obtain ⟨s, found, -⟩ := held.snapshot
      rw [found] at missing
      exact absurd rfl missing

/-- No call on a pane takes the snapshot from one that is frozen on it. -/
theorem held_invariant (ne : other ≠ view) (frozen : Frozen t₀ other spec s₀) :
    PaneInvariant (fun w => Held t₀ s₀ (selection t₀ other spec) other w.terminal)
      (GoodBase s₀ (selection t₀ other spec)) view := by
  have latest : ∀ e ∈ rowBases s₀.latest s₀.cols, GoodBase s₀ (selection t₀ other spec) e :=
    fun e member row among same =>
      (frozen.anchored row among).agree e (mem_append_right _ member) same
  refine ⟨fun _ _ _ held => held, ?_, ?_, ?_, ?_, Held.older frozen.existing, Held.locked frozen,
    fun f w held => held.setView ne f, ?_, ?_⟩
  · intro w s held found e member
    obtain ⟨s', found', -, -, cols, -, bases⟩ := held.snapshot
    cases found.symm.trans found'
    exact bases e (mem_append_right _ member)
  · intro bases good w held
    refine held.updateSnapshot (fun _ => ⟨rfl, rfl, rfl, rfl⟩) ?_
    intro s _ _ was e member
    rcases mem_append.mp member with member | member
    · exact good e member
    · exact was e (mem_append_right _ member)
  · intro offset w held
    refine held.updateSnapshot ?_ ?_
    · intro s
      split <;> exact ⟨rfl, rfl, rfl, rfl⟩
    · intro s cols tail good
      split
      · exact Held.rewound latest cols tail good
      · exact good
  · intro w held
    exact held.updateSnapshot (fun _ => ⟨rfl, rfl, rfl, rfl⟩)
      fun s cols tail good => Held.rewound latest cols tail good
  · intro w n held
    exact { held with untouched := ⟨held.untouched.view, held.untouched.parser⟩ }
  · intro w held
    have detached := held.setView ne fun v =>
      { v with
        historyActive := false, historyRows := [], historyOffset := 0, pinned := false
        viewEnd := 0 }
    have active := frozen.active
    rw [← detached.untouched.view] at active
    unfold Terminal.detach
    rw [if_pos (anyViewActive_of_active active)]
    exact detached

theorem mem_of_lookup {entries : List (Nat × Int)} {ref : Nat} {base : Int}
    (found : entries.lookup ref = some base) : (ref, base) ∈ entries := by
  obtain ⟨before, after, split, -⟩ := lookup_eq_some_iff.mp found
  rw [split]
  simp

/-- A snapshot that holds the bases finds them. -/
theorem Held.columnBase {s : Snapshot} {row : HistoryRow} (among : row ∈ ends)
    (anchored : Anchored s₀ row) (cols : s.cols = s₀.cols) (tail : s.latest = s₀.latest)
    (good : ∀ e ∈ s.windowBases ++ rowBases s.page s.cols, GoodBase s₀ ends e) :
    s.columnBase row = s₀.columnBase row := by
  have recorded : ∀ {v : Int}, (row.ref, v) ∈ s.windowBases ++ rowBases s.page s.cols →
      v = s₀.columnBase row := fun member => good _ member row among rfl
  unfold Snapshot.columnBase at recorded ⊢
  cases window : s.windowBases.lookup row.ref with
  | some v => exact recorded (mem_append_left _ (mem_of_lookup window))
  | none =>
    cases page : (rowBases s.page s.cols).lookup row.ref with
    | some v => exact recorded (mem_append_right _ (mem_of_lookup page))
    | none =>
      cases last : (rowBases s.latest s.cols).lookup row.ref with
      | some v =>
        have member := mem_of_lookup last
        rw [tail, cols] at member
        exact anchored.agree _ (mem_append_right _ member) rfl
      | none =>
        -- found nowhere: the plain column
        rcases anchored.kept with onTail | plain
        · rw [← tail, ← rowBases_refs s.latest s.cols] at onTail
          obtain ⟨e, member, ref⟩ := mem_map.mp onTail
          have absent := lookup_eq_none_iff.mp last e member
          simp [ref] at absent
        · rw [cols]
          exact plain.symm

/-- The copy of a frozen pane depends on what is held only. -/
theorem Held.historyCopy {provider : Provider} (frozen : Frozen t₀ other spec s₀)
    (held : Held t₀ s₀ (selection t₀ other spec) other t) :
    t.historyCopy provider other (some spec) = t₀.historyCopy provider other (some spec) := by
  obtain ⟨s, found, token, generation, cols, tail, bases⟩ := held.snapshot
  have window := held.untouched.copyWindow provider.normalize spec
  unfold Terminal.historyCopy
  simp only [found, frozen.snapshot, window, held.untouched.view]
  split
  · rfl
  split
  · next first last isFirst isLast =>
    have first_mem : first ∈ selection t₀ other spec :=
      mem_append_left _ (Option.mem_toList.mpr isFirst)
    have last_mem : last ∈ selection t₀ other spec :=
      mem_append_right _ (Option.mem_toList.mpr isLast)
    have base := columnBase first_mem (frozen.anchored first first_mem) cols tail bases
    have base' := columnBase last_mem (frozen.anchored last last_mem) cols tail bases
    simp only [Snapshot.copy, Snapshot.range, base, base', token, generation, cols,
      held.released]
  · rfl

end Held

/-- Without a snapshot the other calls do not open one. -/
theorem invoke_local {t : Terminal} {view : String} {i : Invocation}
    (none : t.historySnapshot = none) (here : i.call.opensHistory = false) :
    (t.invoke view i).historySnapshot = Option.none := by
  have keeps : Maintains (fun w : World => w.terminal.historySnapshot = Option.none)
      (i.call.body i.env view) := by
    have detach : Maintains (fun w : World => w.terminal.historySnapshot = Option.none)
        (modifyTerminal (·.detach view)) := by
      refine modifyTerminal_maintains fun w holds => ?_
      unfold Terminal.detach
      dsimp only
      split
      · exact holds
      · rfl
    cases call : i.call with
    | historyScroll delta rows | historyWindow offset rows | search =>
      rw [call] at here
      cases here
    | historyRelease =>
      refine .bind ?_ fun _ => .read fun _ => detach.bind fun _ =>
        .read fun _ => .ite (fun _ => throwIf_maintains _)
          fun _ => .pure _
      exact modifyTerminal_maintains fun w holds => holds
    | scroll delta rows =>
      change Maintains _ (modifyTerminal (·.scroll view delta rows))
      refine modifyTerminal_maintains fun w holds => ?_
      unfold Terminal.scroll
      dsimp only
      split <;> exact holds
    | scrollEnd =>
      change Maintains _ (modifyTerminal (·.scrollEnd view))
      exact modifyTerminal_maintains fun w holds => holds
  exact keeps.stateOf (s := ⟨t, i.alive, i.windows⟩) none

theorem invokeAll_local {t : Terminal} {view : String} {calls : List Invocation}
    (none : t.historySnapshot = none) (here : ∀ i ∈ calls, i.call.opensHistory = false) :
    (t.invokeAll view calls).historySnapshot = Option.none := by
  induction calls generalizing t with
  | nil => exact none
  | cons i calls ih =>
    exact ih (invoke_local none (here i mem_cons_self))
      fun j member => here j (mem_cons_of_mem _ member)

/-- The calls on a pane do not touch the copy of another: that is a block or the whole pane,
or the pane is frozen, or there is no history to copy from and the calls open none. -/
def CopyKept (t : Terminal) (other : String) (calls : List Invocation) :
    Option CopySpec → Prop
  | none => True
  | some spec =>
    spec.mode = "block" ∨ (∃ s, Frozen t other spec s) ∨
      (t.historySnapshot = none ∧ ∀ i ∈ calls, i.call.opensHistory = false)

/-- Calls on a pane leave what another pane shows unchanged; what it copies they leave
unchanged if its copy is kept. -/
theorem panes_independent (provider : Provider) (t : Terminal) {view other : String}
    (ne : other ≠ view) (calls : List Invocation) :
    (t.invokeAll view calls).visibleLines other = t.visibleLines other ∧
    (t.invokeAll view calls).offset other = t.offset other ∧
    (t.invokeAll view calls).isHistoryActive other = t.isHistoryActive other ∧
    ∀ spec : Option CopySpec, CopyKept t other calls spec →
      (t.invokeAll view calls).historyCopy provider other spec =
        t.historyCopy provider other spec := by
  have untouched : Untouched t other (t.invokeAll view calls) :=
    invokeAll_maintains (untouched_invariant ne) calls ⟨rfl, rfl⟩
  refine ⟨untouched.visibleLines, untouched.offset, untouched.isHistoryActive, ?_⟩
  intro spec kept
  cases spec with
  | none => exact congrArg Except.ok untouched.copyText
  | some selected =>
    have window := untouched.copyWindow provider.normalize selected
    rcases kept with block | ⟨s, frozen⟩ | ⟨none, here⟩
    · unfold Terminal.historyCopy
      simp only [block, if_true, window]
      split <;> split <;> rfl
    · exact Held.historyCopy frozen
        (invokeAll_maintains (held_invariant ne frozen) calls frozen.held)
    · simp only [Terminal.historyCopy, none, invokeAll_local none here, window]

section Example

def sampleRow (ref line : Nat) (text : String) : HistoryRow :=
  ⟨⟨line, 0, 0, [⟨text, 2⟩]⟩, ref⟩

/-- A terminal with the line "hi" on its screen and no history open. -/
def liveTerminal : Terminal where
  parser := ⟨[], [[⟨"h", 1, false⟩, ⟨"i", 1, false⟩]], 2, 1⟩
  views := SortedMap.empty
  historySnapshot := none
  historySnapshotEpoch := 0
  historyEpoch := 0
  historyScrollGeneration := 0
  released := []
  allocated := 0

/-- The same terminal when pane "b" reads its history. -/
def frozenTerminal : Terminal :=
  { liveTerminal with
    views := SortedMap.build [("b", { newView with
      historyActive := true, historyRows := [sampleRow 0 1 "ab"], historyOffset := 1 })]
    historySnapshot := some ⟨"token", 1, 2, [sampleRow 0 1 "ab", sampleRow 1 2 "hi"],
      [sampleRow 0 1 "ab", sampleRow 1 2 "hi"], 0, true, [(0, 0)]⟩
    allocated := 2 }

/-- One line up, with two lines in the history. -/
def scrollUpOnce : Invocation where
  call := .historyScroll 1 1
  env := ⟨none, none, none, none, .error ""⟩
  alive := 10
  windows := [.ok ⟨"token", 1, [⟨1, 0, 0, [⟨"ab", 2⟩]⟩, ⟨2, 0, 0, [⟨"hi", 2⟩]⟩], false⟩]

def sampleProvider : Provider := ⟨fun _ _ _ _ => .ok "ab", id⟩

def firstLine : CopySpec := ⟨"char", 0, 0, 0, 1⟩

theorem panes_independent_frozen :
    "b" ≠ "a" ∧ CopyKept frozenTerminal "b" [scrollUpOnce] (some firstLine) ∧
      (frozenTerminal.invokeAll "a" [scrollUpOnce]).historyCopy sampleProvider "b"
        (some firstLine) = .ok "ab" := by
  have kept : CopyKept frozenTerminal "b" [scrollUpOnce] (some firstLine) := by
    refine .inr (.inl ⟨_, rfl, rfl, rfl, rfl, by decide, ?_⟩)
    intro row member
    have ends : firstLine.ends (frozenTerminal.view "b").historyRows =
        [sampleRow 0 1 "ab", sampleRow 0 1 "ab"] := rfl
    have same : row = sampleRow 0 1 "ab" := by simpa [ends] using member
    subst same
    exact ⟨by decide, .inl (by decide)⟩
  refine ⟨by decide, kept, ?_⟩
  rw [(panes_independent sampleProvider frozenTerminal (by decide) [scrollUpOnce]).2.2.2
    (some firstLine) kept]
  rfl

/-- A live pane cannot copy while another one reads the history. -/
theorem copy_lost_to_sibling :
    liveTerminal.historyCopy sampleProvider "b" (some firstLine) = .ok "hi" ∧
      (liveTerminal.invokeAll "a" [scrollUpOnce]).historyCopy sampleProvider "b"
        (some firstLine) = .error "terminal history: no visible rows" := by
  exact ⟨rfl, rfl⟩

end Example

end Anytty.Tui.Panes
