import Anytty.Kernel.Layout

/-!
# Cached layout

What can be read off a frame is collected in `Out`: the entries of its index in their order, the
lines, the candidates of a hit, the overlays and the cursor. Outputs are appended as a tree is
walked, and `outOf` is the output of a node in a rectangle. Both solvers append it to their builder
(`solve_out`), the cached one as long as each stored frame has the output of the node at its
address. That is kept along every sequence of layouts, because a node that was seen is not
changed (`layoutCached_eq_layout`).
-/

namespace Anytty.Kernel

/-! ### What a frame shows -/

mutual

/-- The frame with its index laid out flat. -/
def Frame.normal : Frame → Frame
  | .mk index lines overlays cursor hits =>
    .mk ⟨(entriesOf index.items).map fun e => .entry e.1 e.2, index.count⟩ lines
      (normalFrames overlays) cursor hits

def normalFrames : List Frame → List Frame
  | [] => []
  | f :: fs => f.normal :: normalFrames fs

end

structure Out where
  entries : List (String × Rect)
  count : Nat
  lines : List Line
  hits : List Hit
  overlays : List Frame
  cursor : Option CursorCell

def Out.empty : Out := ⟨[], 0, [], [], [], none⟩

/-- The later cursor is the one that is shown. -/
def Out.append (x y : Out) : Out where
  entries := x.entries ++ y.entries
  count := x.count + y.count
  lines := x.lines ++ y.lines
  hits := x.hits ++ y.hits
  overlays := x.overlays ++ y.overlays
  cursor := y.cursor.or x.cursor

theorem Out.append_assoc (x y z : Out) : (x.append y).append z = x.append (y.append z) := by
  simp [append, Nat.add_assoc, Option.or_assoc]

theorem Out.append_empty (x : Out) : x.append empty = x := by
  simp [append, empty]

theorem Out.empty_append (x : Out) : empty.append x = x := by
  simp [append, empty]

/-- The flat frame with the output. -/
def Out.frame (x : Out) : Frame :=
  .mk ⟨x.entries.map fun e => .entry e.1 e.2, x.count⟩ x.lines x.overlays x.cursor x.hits

/-- What the parent of an overlay gets of it. -/
def Out.lifted (x : Out) : Out := ⟨x.entries, x.count, [], [], [x.frame], x.cursor⟩

def Frame.out (f : Frame) : Out :=
  ⟨entriesOf f.index.items, f.index.count, f.lines, f.hits, normalFrames f.overlays, f.cursor⟩

def Builder.out (b : Builder) : Out :=
  ⟨entriesOf b.index.items, b.index.count, b.lines, b.hits, normalFrames b.overlays, b.cursor⟩

theorem emptyBuilder_out : emptyBuilder.out = Out.empty := rfl

theorem frame_out (b : Builder) : b.frame.out = b.out := rfl

theorem out_frame (f : Frame) : f.out.frame = f.normal := by
  cases f
  rfl

theorem entriesOf_append (xs ys : List RectItem) :
    entriesOf (xs ++ ys) = entriesOf xs ++ entriesOf ys := by
  induction xs with
  | nil => simp [entriesOf]
  | cons x xs ih => simp [entriesOf, ih]

theorem normalFrames_append (xs ys : List Frame) :
    normalFrames (xs ++ ys) = normalFrames xs ++ normalFrames ys := by
  induction xs with
  | nil => simp [normalFrames]
  | cons x xs ih => simp [normalFrames, ih]

theorem ite_isSome_eq_or {α : Type} (x y : Option α) : (if x.isSome then x else y) = x.or y := by
  cases x <;> rfl

theorem addFrame_out (b : Builder) (f : Frame) : (b.addFrame f).out = b.out.append f.out := by
  simp [Builder.addFrame, Builder.out, Frame.out, Out.append, entriesOf_append, entriesOf,
    RectItem.entries, normalFrames_append, ite_isSome_eq_or]

theorem addOverlay_out (b : Builder) (f : Frame) :
    (b.addOverlay f).out = b.out.append f.out.lifted := by
  simp [Builder.addOverlay, Builder.out, Frame.out, Out.append, Out.lifted, entriesOf_append,
    entriesOf, RectItem.entries, normalFrames_append, normalFrames, ite_isSome_eq_or,
    ← out_frame]

/-! ### The output of a node -/

/-- The entry, the lines and the cursor of the node itself. -/
def ownOut (a : Attrs) (rect : Rect) : Out where
  entries := if a.id = "" then [] else [(a.id, rect)]
  count := if a.id = "" then 0 else 1
  lines := ownLines a rect
  hits := if a.id = "" then [] else if rect.empty then [] else [⟨a.id, rect⟩]
  overlays := []
  cursor := ownCursor a rect

theorem own_out (b : Builder) (a : Attrs) (rect : Rect) :
    ((b.record a rect).renderOwn a rect).out = b.out.append (ownOut a rect) := by
  unfold Builder.record
  by_cases none : a.id = ""
  · simp [none, Builder.renderOwn, Builder.out, Out.append, ownOut, ite_isSome_eq_or]
  cases empty : rect.empty <;>
    simp [none, empty, Builder.renderOwn, Builder.out, Out.append, ownOut, ite_isSome_eq_or,
      entriesOf_append, entriesOf, RectItem.entries]

mutual

/-- What the walk over a node in a rectangle adds to the frame. -/
def outOf : Node → Rect → Out
  | .mk _ a children, rect =>
    (ownOut a (normalizeRect rect)).append (outChildren children (normalizeRect rect)
      (assignFlow a (normalizeRect rect) children))

def outChildren : List Node → Rect → List Rect → Out
  | [], _, _ => Out.empty
  | child :: children, rect, plans =>
    if !child.attrs.isVisible then outChildren children rect plans
    else match child.attrs.pos with
      | some pos =>
        (outOf child (normalizeRect (posRect child.attrs pos rect))).lifted.append
          (outChildren children rect plans)
      | none => (outOf child (plans.headD default)).append (outChildren children rect plans.tail)

end

theorem normalizeRect_idem (rect : Rect) :
    normalizeRect (normalizeRect rect) = normalizeRect rect := by
  simp [normalizeRect]

theorem outOf_normalizeRect (n : Node) (rect : Rect) :
    outOf n (normalizeRect rect) = outOf n rect := by
  cases n
  simp [outOf, normalizeRect_idem]

/-! ### Stored frames -/

mutual

/-- The nodes of the tree are those at their addresses. -/
def Agrees (content : Nat → Node) : Node → Prop
  | .mk ref a children => content ref = .mk ref a children ∧ AgreesAll content children

def AgreesAll (content : Nat → Node) : List Node → Prop
  | [] => True
  | child :: children => Agrees content child ∧ AgreesAll content children

end

/-- Each stored frame shows what the node at its address shows in its rectangle. -/
def Valid (content : Nat → Node) (cache : Cache) : Prop :=
  ∀ ref s, cache ref = some s → s.frame.out = outOf (content ref) s.rect

/-- With the cache, the stored frames are valid and the nodes to be solved are the known ones. -/
def Sound (cached : Bool) (content : Nat → Node) (cache : Cache) : Prop :=
  cached = true → Valid content cache

variable {cached : Bool} {content : Nat → Node} {cache : Cache} {n : Node}

section

variable (sound : Sound cached content cache) (known : cached = true → content n.ref = n)

include sound known

theorem Valid.reusable_out {rect : Rect} {f : Frame}
    (found : reusable cached cache n.ref rect = some f) : f.out = outOf n rect := by
  cases cached with
  | false => simp [reusable] at found
  | true =>
    simp only [reusable, if_true, Option.bind_eq_some_iff] at found
    obtain ⟨s, stored, same⟩ := found
    split at same
    · next eq =>
      cases same
      rw [sound rfl n.ref s stored, known rfl, eq]
    · cases same

theorem Sound.setCached {rect : Rect} {f : Frame} (shows : f.out = outOf n rect) :
    Sound cached content (setCached cached cache n.ref ⟨rect, f⟩) := by
  rintro rfl ref s stored
  simp only [Kernel.setCached, if_true, Function.update_apply] at stored
  split at stored
  · next eq =>
    cases stored
    rw [eq, known rfl, shows]
  · exact sound rfl ref s stored

end

theorem Agrees.known (agrees : Agrees content n) : content n.ref = n := by
  cases n
  exact agrees.1

/-! ### The solvers append the output -/

mutual

theorem solve_out (n : Node) (rect : Rect) (b : Builder)
    (cache : Cache) (known : cached = true → Agrees content n)
    (sound : Sound cached content cache) :
    (solve cached n rect b cache).1.out = b.out.append (outOf n rect) ∧
      Sound cached content (solve cached n rect b cache).2 := by
  cases n with
  | mk ref a children =>
    have after := solveChildren_out children (normalizeRect rect)
      (assignFlow a (normalizeRect rect) children)
      ((b.record a (normalizeRect rect)).renderOwn a (normalizeRect rect)) cache
      (fun on => (known on).2) sound
    rw [own_out, Out.append_assoc] at after
    simpa only [solve, outOf] using after

theorem solveChildren_out (children : List Node)
    (rect : Rect) (plans : List Rect) (b : Builder) (cache : Cache)
    (known : cached = true → AgreesAll content children) (sound : Sound cached content cache) :
    (solveChildren cached children rect plans b cache).1.out =
        b.out.append (outChildren children rect plans) ∧
      Sound cached content (solveChildren cached children rect plans b cache).2 := by
  cases children with
  | nil => exact ⟨by simp [solveChildren, outChildren, Out.append_empty], by simpa [solveChildren]⟩
  | cons child children =>
    have rest := fun plans b cache sound =>
      solveChildren_out children rect plans b cache (fun on => (known on).2) sound
    have known' := fun on => (known on).1
    have named := fun on => (known' on).known
    rw [solveChildren, outChildren]
    split
    · exact rest plans b cache sound
    cases child.attrs.pos with
    | some pos =>
      -- a child with a position becomes an overlay
      dsimp only
      split
      · next f found =>
        have after := rest plans (b.addOverlay f) cache sound
        rwa [addOverlay_out, Valid.reusable_out sound named found, Out.append_assoc] at after
      · obtain ⟨shows, kept⟩ := solve_out child (normalizeRect (posRect child.attrs pos rect))
          emptyBuilder cache known' sound
        rw [emptyBuilder_out, Out.empty_append, ← frame_out] at shows
        have after := rest plans
          (b.addOverlay (solve cached child
            (normalizeRect (posRect child.attrs pos rect)) emptyBuilder cache).1.frame) _
          (kept.setCached named shows)
        rwa [addOverlay_out, shows, Out.append_assoc] at after
    | none =>
      dsimp only
      split
      · -- the plain solver collects the flow in one builder
        obtain ⟨shows, kept⟩ := solve_out child (plans.headD default) b cache known' sound
        have after := rest plans.tail (solve cached child (plans.headD default) b cache).1 _ kept
        rwa [shows, Out.append_assoc] at after
      · rw [← outOf_normalizeRect child]
        split
        · next f found =>
          have after := rest plans.tail (b.addFrame f) cache sound
          rwa [addFrame_out, Valid.reusable_out sound named found, Out.append_assoc] at after
        · obtain ⟨shows, kept⟩ := solve_out child (normalizeRect (plans.headD default))
            emptyBuilder cache known' sound
          rw [emptyBuilder_out, Out.empty_append, ← frame_out] at shows
          have after := rest plans.tail
            (b.addFrame (solve cached child (normalizeRect (plans.headD default))
              emptyBuilder cache).1.frame) _
            (kept.setCached named shows)
          rwa [addFrame_out, shows, Out.append_assoc] at after

end

/-! ### Sequences of layouts -/

theorem layout_out (root : Node) (width height : Int)
    (shown : (width ≤ 0 || height ≤ 0 || !root.attrs.isVisible) = false) :
    (layout root width height).out = outOf root ⟨0, 0, width, height⟩ := by
  have solved := (@solve_out false (fun _ => root) root ⟨0, 0, width, height⟩ emptyBuilder
    (fun _ => none) (fun on => nomatch on) (fun on => nomatch on)).1
  rw [emptyBuilder_out, Out.empty_append, ← frame_out] at solved
  simpa [layout, shown] using solved

/-- Over valid stored frames the cached layout shows what the plain one shows, and what is stored
then is valid again. -/
theorem layoutCached_out (valid : Valid content cache)
    {root : Node} (agrees : Agrees content root) (width height : Int) :
    (layoutCached cache root width height).1.out = (layout root width height).out ∧
      Valid content (layoutCached cache root width height).2 := by
  have sound : Sound true content cache := fun _ => valid
  cases shown : width ≤ 0 || height ≤ 0 || !root.attrs.isVisible with
  | true => exact ⟨by simp [layoutCached, layout, shown], by simpa [layoutCached, shown]⟩
  | false =>
    rw [layout_out root width height shown]
    simp only [layoutCached, shown]
    split
    · next hidden => cases hidden
    split
    · next f found =>
      exact ⟨Valid.reusable_out sound (fun _ => agrees.known) found, valid⟩
    · obtain ⟨shows, kept⟩ := solve_out root ⟨0, 0, width, height⟩ emptyBuilder cache
        (fun _ => agrees) sound
      rw [emptyBuilder_out, Out.empty_append] at shows
      exact ⟨shows, kept.setCached (fun _ => agrees.known) shows rfl⟩

/-- A tree and the size of the viewport it is laid out for. -/
structure Call where
  root : Node
  width : Int
  height : Int

/-- The layouts one after the other, from nodes that were not laid out yet. -/
def cacheAfter (calls : List Call) : Cache :=
  calls.foldl (fun cache c => (layoutCached cache c.root c.width c.height).2) fun _ => none

theorem cacheAfter_valid {calls : List Call}
    (agrees : ∀ c ∈ calls, Agrees content c.root) : Valid content (cacheAfter calls) := by
  suffices run : ∀ (calls : List Call) cache, Valid content cache →
      (∀ c ∈ calls, Agrees content c.root) →
      Valid content
        (calls.foldl (fun cache c => (layoutCached cache c.root c.width c.height).2) cache) from
    run calls _ (fun _ _ stored => nomatch stored) agrees
  intro calls
  induction calls with
  | nil => exact fun _ valid _ => valid
  | cons c calls ih =>
    intro cache valid agrees
    exact ih _ (layoutCached_out valid (agrees c List.mem_cons_self) c.width c.height).2
      fun d mem => agrees d (List.mem_cons_of_mem c mem)

/-! ### What is read off a frame -/

/-- The two frames answer every question alike, and their overlays do so in pairs. -/
inductive Frame.Same : Frame → Frame → Prop
  | intro (f g : Frame) (lines : f.lines = g.lines) (cursor : f.cursor = g.cursor)
      (overlays : List.Forall₂ Frame.Same f.overlays g.overlays)
      (rect : ∀ id, f.rect id = g.rect id) (count : f.rectCount = g.rectCount)
      (rects : f.rects = g.rects) (hit : ∀ x y, f.hit x y = g.hit x y) : Frame.Same f g

/-- The last entry with the id. -/
def lastRect (id : String) (entries : List (String × Rect)) (found : Option Rect) : Option Rect :=
  entries.foldl (fun found e => if e.1 = id then some e.2 else found) found

theorem lastRect_or (id : String) (entries : List (String × Rect)) (last found : Option Rect) :
    (lastRect id entries last).or found = lastRect id entries (last.or found) := by
  induction entries generalizing last with
  | nil => rfl
  | cons e entries ih =>
    rw [lastRect, List.foldl_cons, lastRect, List.foldl_cons]
    refine (ih _).trans ?_
    split <;> rfl

mutual

theorem RectItem.rect_eq (id : String) (item : RectItem) (found : Option Rect) :
    (item.rect id).or found = lastRect id item.entries found := by
  cases item with
  | entry key rect =>
    by_cases named : key = id <;> simp [RectItem.rect, RectItem.entries, lastRect, named]
  | ref items count =>
    rw [RectItem.rect, RectItem.entries, rectOf_eq, lastRect_or, Option.none_or]

theorem rectOf_eq (id : String) (items : List RectItem) (found : Option Rect) :
    rectOf id items found = lastRect id (entriesOf items) found := by
  cases items with
  | nil => simp [rectOf, entriesOf, lastRect]
  | cons item items =>
    rw [rectOf, entriesOf, rectOf_eq id items, RectItem.rect_eq id item]
    simp [lastRect]

end

mutual

theorem allHits_normal (f : Frame) : f.normal.allHits = f.allHits := by
  cases f with
  | mk index lines overlays cursor hits =>
    rw [Frame.normal, Frame.allHits, Frame.allHits, overlayHits_normalFrames overlays]

theorem overlayHits_normalFrames (fs : List Frame) :
    overlayHits (normalFrames fs) = overlayHits fs := by
  cases fs with
  | nil => rw [normalFrames]
  | cons f fs =>
    rw [normalFrames, overlayHits, overlayHits, allHits_normal f, overlayHits_normalFrames fs]

end

theorem allHits_eq (f : Frame) : f.allHits = f.out.hits ++ overlayHits f.out.overlays := by
  cases f with
  | mk index lines overlays cursor hits =>
    exact congrArg _ (overlayHits_normalFrames overlays).symm

theorem normal_inj {f g : Frame} (same : f.normal = g.normal) : f.out = g.out := by
  have entry_inj : Function.Injective fun e : String × Rect => RectItem.entry e.1 e.2 := by
    rintro ⟨id, rect⟩ ⟨id', rect'⟩ eq
    cases eq
    rfl
  cases f
  cases g
  simp only [Frame.normal, Frame.mk.injEq, RectIndex.mk.injEq] at same
  obtain ⟨⟨entries, count⟩, lines, overlays, cursor, hits⟩ := same
  simp only [Frame.out, Frame.index, Frame.lines, Frame.overlays, Frame.cursor, Frame.hits,
    entry_inj.list_map entries, count, lines, overlays, cursor, hits]

mutual

theorem same_of_out (f g : Frame) (same : f.out = g.out) : f.Same g := by
  have entries : f.rects = g.rects := congrArg Out.entries same
  have hits : f.allHits = g.allHits := by rw [allHits_eq, allHits_eq, same]
  refine .intro f g (congrArg Out.lines same) (congrArg Out.cursor same) ?_ (fun id => ?_)
    (congrArg Out.count same) entries fun x y => ?_
  · cases f with
    | mk index lines overlays cursor hits =>
      exact same_of_normalFrames overlays g.overlays (congrArg Out.overlays same)
  · rw [Frame.rect, Frame.rect, rectOf_eq, rectOf_eq]
    exact congrArg (lastRect id · none) entries
  · rw [Frame.hit, Frame.hit, hits]

theorem same_of_normalFrames (fs gs : List Frame) (same : normalFrames fs = normalFrames gs) :
    List.Forall₂ Frame.Same fs gs := by
  cases fs with
  | nil =>
    cases gs with
    | nil => exact .nil
    | cons g gs => simp [normalFrames] at same
  | cons f fs =>
    cases gs with
    | nil => simp [normalFrames] at same
    | cons g gs =>
      simp only [normalFrames, List.cons.injEq] at same
      exact .cons (same_of_out f g (normal_inj same.1)) (same_of_normalFrames fs gs same.2)

end

/-- After any layouts of trees whose nodes are not changed, the cached layout of such a tree shows
in every respect what the plain layout of the tree shows at that size. -/
theorem layoutCached_same {earlier : List Call}
    (agrees : ∀ c ∈ earlier, Agrees content c.root) (root : Node)
    (unchanged : Agrees content root) (width height : Int) :
    (layoutCached (cacheAfter earlier) root width height).1.Same (layout root width height) :=
  same_of_out _ _ (layoutCached_out (cacheAfter_valid agrees) unchanged width height).1

def plainAttrs (id : String) (pos : Option Pos) (text : String) : Attrs where
  id := id
  size := ⟨0, 0, 0⟩
  pos := pos
  flow := ""
  visible := none
  style := ""
  content := some ⟨text, [], "", Data.SortedMap.empty⟩
  cursor := some ⟨0, 0, "", none⟩
  input := []
  focused := false

/-- A line, a menu over it, and two roots that both have the line. -/
def sharedNodes : Nat → Node
  | 0 => .mk 0 (plainAttrs "line" none "text") []
  | 1 => .mk 1 (plainAttrs "menu" (some ⟨1, 0⟩) "m") []
  | 2 => .mk 2 (plainAttrs "first" none "") [.mk 0 (plainAttrs "line" none "text") []]
  | ref => .mk ref (plainAttrs "second" none "")
      [.mk 0 (plainAttrs "line" none "text") [], .mk 1 (plainAttrs "menu" (some ⟨1, 0⟩) "m") []]

/-- The second root takes over the frame of the line. -/
theorem layoutCached_same_shared :
    (cacheAfter [⟨sharedNodes 2, 8, 4⟩] 0).isSome = true ∧
      (layoutCached (cacheAfter [⟨sharedNodes 2, 8, 4⟩]) (sharedNodes 3) 8 4).1.Same
        (layout (sharedNodes 3) 8 4) := by
  have agrees : ∀ c ∈ [Call.mk (sharedNodes 2) 8 4], Agrees sharedNodes c.root := by
    simp [sharedNodes, Agrees, AgreesAll]
  refine ⟨by decide +kernel, layoutCached_same agrees (sharedNodes 3) ?_ 8 4⟩
  simp [sharedNodes, Agrees, AgreesAll]

end Anytty.Kernel
