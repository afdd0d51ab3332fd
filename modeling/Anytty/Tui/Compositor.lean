import Anytty.Kernel.LayoutCache
import Anytty.Render.Framebuffer

/-!
# The compositor

`ComposeInto` draws the solved program frame, the components, a notice and the core overlay into
one framebuffer: the lines of the regular flow, the components of the flow, the `pos` subtrees in
the order of declaration, each with its own lines, its own components and its nested overlays, then
the notice and the core overlay.

A placement does not say which box it belongs to. The compositor gives it to the last overlay whose
bounds contain its rectangle, and within that overlay to the last nested one. So the layers are
drawn in the documented order exactly if for each component that is the subtree its box is in
(`composeInto_order`); a component of the flow that lies under a menu is drawn over the menu
(`component_over_menu`).
-/

namespace Anytty.Tui.Compositor

open List Kernel

open Kernel (Rect Node)
open Render (Graphemes Mark newFrame topmost)

structure Placement where
  rect : Rect
  lines : List Render.Line
  focused : Bool
  cursorX : Int
  cursorY : Int
  cursorVisible : Bool
  cursorShape : String
  deriving DecidableEq

/-! ### Drawing -/

def rectWithin (outer inner : Rect) : Bool :=
  !inner.empty && !outer.empty && outer.x ≤ inner.x && outer.y ≤ inner.y &&
    inner.x + inner.width ≤ outer.x + outer.width &&
    inner.y + inner.height ≤ outer.y + outer.height

/-- The smallest rectangle around both. -/
def unionRect (bounds rect : Rect) : Rect :=
  let x := min bounds.x rect.x
  let y := min bounds.y rect.y
  ⟨x, y, max (bounds.x + bounds.width) (rect.x + rect.width) - x,
    max (bounds.y + bounds.height) (rect.y + rect.height) - y⟩

/-- The union of the rectangles of an overlay that are not empty. -/
def overlayBounds (k : Frame) : Rect :=
  match (k.rects.map Prod.snd).filter (!·.empty) with
  | [] => ⟨0, 0, 0, 0⟩
  | rect :: rects => rects.foldl unionRect rect

/-- The last overlay whose bounds contain the rectangle. -/
def lastOverlay (rect : Rect) : List Frame → Option Nat
  | [] => none
  | k :: ks =>
    match lastOverlay rect ks with
    | some i => some (i + 1)
    | none => if rectWithin (overlayBounds k) rect then some 0 else none

def placementInOverlays (overlays : List Frame) (rect : Rect) : Bool :=
  overlays.any fun k => rectWithin (overlayBounds k) rect

/-- The placements of each overlay, and those of none. -/
def assignOverlayPlacements (overlays : List Frame) (placements : List Placement) :
    List (List Placement) × List Placement :=
  ((List.range overlays.length).map fun i =>
      placements.filter fun p => lastOverlay p.rect overlays = some i,
    placements.filter fun p => lastOverlay p.rect overlays = none)

section Drawing

variable (graphemes : Graphemes)

def ofKernel (line : Line) : Render.Line := ⟨line.x, line.y, line.text, line.style⟩

def blitKernel (f : Render.Frame) (lines : List Line) : Render.Frame :=
  f.blit graphemes (lines.map ofKernel)

/-- The rows of a rectangle as spaces. -/
def fillLines (rect : Rect) : List Render.Line :=
  if rect.empty then []
  else (List.range rect.height.toNat).map fun dy =>
    ⟨rect.x, rect.y + dy, String.ofList (List.replicate rect.width.toNat ' '), "default"⟩

def fillRect (f : Render.Frame) (rect : Rect) : Render.Frame := f.blit graphemes (fillLines rect)

/-- The component is clipped by a frame of its own. -/
def scratch (p : Placement) : Render.Frame :=
  (newFrame p.rect.width p.rect.height).blit graphemes p.lines

def blitPlacement (f : Render.Frame) (p : Placement) : Render.Frame :=
  if p.rect.empty then f else f.blitFrame (scratch graphemes p) p.rect.x p.rect.y

mutual

def blitOverlayFrame : Render.Frame → Frame → List Placement → Render.Frame
  | f, .mk index lines overlays cursor hits, placements =>
    let assigned := assignOverlayPlacements overlays placements
    blitOverlayFrames
      (assigned.2.foldl (blitPlacement graphemes)
        (blitKernel graphemes
          (fillRect graphemes f (overlayBounds (.mk index lines overlays cursor hits))) lines))
      overlays assigned.1

def blitOverlayFrames :
    Render.Frame → List Frame → List (List Placement) → Render.Frame
  | f, [], _ => f
  | f, k :: ks, groups =>
    blitOverlayFrames (blitOverlayFrame f k (groups.headD [])) ks groups.tail

end

mutual

def blitKernelFrame : Render.Frame → Frame → Render.Frame
  | f, .mk _ lines overlays _ _ => blitKernelFrames (blitKernel graphemes f lines) overlays

def blitKernelFrames : Render.Frame → List Frame → Render.Frame
  | f, [] => f
  | f, k :: ks => blitKernelFrames (blitKernelFrame f k) ks

end

/-- The core overlay owns the cursor, then the program, then the focused component. -/
def resolveCursor (program : Frame) (placements : List Placement)
    (core : Option Frame) : Option (Int × Int × String) :=
  match core with
  | some k => k.cursor.map fun c => (c.rect.x, c.rect.y, c.shape)
  | none =>
    match program.cursor with
    | some c => some (c.rect.x, c.rect.y, c.shape)
    | none => (placements.find? fun p => p.focused && p.cursorVisible).map fun p =>
        (p.rect.x + p.cursorX, p.rect.y + p.cursorY, p.cursorShape)

def composeInto (cols rows : Int) (program : Frame) (placements : List Placement)
    (notice core : Option Frame) : Render.Frame :=
  let inside := fun p : Placement => placementInOverlays program.overlays p.rect
  let flow := (placements.filter fun p => !inside p).foldl (blitPlacement graphemes)
    (blitKernel graphemes (newFrame cols rows) program.lines)
  let covered := blitOverlayFrames graphemes flow program.overlays
    (assignOverlayPlacements program.overlays (placements.filter inside)).1
  let noticed := notice.elim covered (blitKernelFrame graphemes covered)
  let frame := core.elim noticed (blitKernelFrame graphemes noticed)
  match resolveCursor program placements core with
  | some (x, y, shape) => (frame.setCursor x y).setCursorShape shape
  | none => frame

end Drawing

/-! ### Layers -/

/-- What is drawn at once. -/
inductive Layer
  | lines (lines : List Line)
  | fill (rect : Rect)
  | component (p : Placement)
  deriving DecidableEq

/-- A placement and the subtree its box is in, as the way to it through the overlays. -/
abbrev Owned := Placement × List Nat

def Owned.inside : Owned → Option Owned
  | (p, 0 :: path) => some (p, path)
  | _ => none

def Owned.beyond : Owned → Option Owned
  | (p, (i + 1) :: path) => some (p, i :: path)
  | _ => none

/-- A component with an empty rectangle draws nothing. -/
def Owned.here : Owned → Option Layer
  | (p, []) => if p.rect.empty then none else some (.component p)
  | _ => none

mutual

/-- A `pos` subtree covers its bounds; then come its lines, its components and its overlays. -/
def overlayLayers : Frame → List Owned → List Layer
  | .mk index lines overlays cursor hits, owned =>
    .fill (overlayBounds (.mk index lines overlays cursor hits)) :: .lines lines ::
      (owned.filterMap Owned.here ++ overlaysLayers overlays owned)

def overlaysLayers : List Frame → List Owned → List Layer
  | [], _ => []
  | k :: ks, owned =>
    overlayLayers k (owned.filterMap Owned.inside) ++
      overlaysLayers ks (owned.filterMap Owned.beyond)

end

mutual

def frameLayers : Frame → List Layer
  | .mk _ lines overlays _ _ => .lines lines :: framesLayers overlays

def framesLayers : List Frame → List Layer
  | [] => []
  | k :: ks => frameLayers k ++ framesLayers ks

end

/-- The layers in the documented order. -/
def layers (program : Frame) (owned : List Owned) (notice core : Option Frame) : List Layer :=
  .lines program.lines :: (owned.filterMap Owned.here ++ overlaysLayers program.overlays owned ++
    notice.elim [] frameLayers ++ core.elim [] frameLayers)

mutual

/-- The way to the subtree that the compositor gives a rectangle to. -/
def owner : Frame → Rect → List Nat
  | .mk _ _ overlays _ _, rect => ownerAmong overlays rect

def ownerAmong : List Frame → Rect → List Nat
  | [], _ => []
  | k :: ks, rect =>
    match ownerAmong ks rect with
    | i :: path => (i + 1) :: path
    | [] => if rectWithin (overlayBounds k) rect then 0 :: owner k rect else []

end

def assumed (overlays : List Frame) (placements : List Placement) : List Owned :=
  placements.map fun p => (p, ownerAmong overlays p.rect)

section Marks

variable (graphemes : Graphemes)

def Layer.draw (f : Render.Frame) : Layer → Render.Frame
  | .lines ls => blitKernel graphemes f ls
  | .fill rect => fillRect graphemes f rect
  | .component p => blitPlacement graphemes f p

def Layer.marks (cols rows : Nat) : Layer → List Mark
  | .lines ls => (ls.map ofKernel).flatMap (·.marks graphemes cols rows)
  | .fill rect => (fillLines rect).flatMap (·.marks graphemes cols rows)
  | .component p =>
    if p.rect.empty then [] else (scratch graphemes p).marks cols rows p.rect.x p.rect.y

/-- The cell of the topmost of the layers that cover the place. -/
def topmostCell (cols rows : Int) (ls : List Layer) : Nat → Nat → Render.Cell :=
  topmost (ls.flatMap (Layer.marks graphemes cols.toNat rows.toNat))

variable {graphemes}

theorem Layer.draw_eq (f : Render.Frame) (l : Layer) :
    l.draw graphemes f = (l.marks graphemes f.cols f.rows).foldl Render.Frame.draw f := by
  cases l with
  | lines ls | fill rect => exact Render.blit_eq graphemes f _
  | component p =>
    rw [draw, marks, blitPlacement]
    split
    · rfl
    · exact Render.blitFrame_eq f _ _ _

theorem Layer.marks_fits {cols rows : Nat} {l : Layer} :
    ∀ m ∈ l.marks graphemes cols rows, m.Fits cols := by
  cases l with
  | lines ls | fill rect =>
    intro m mem
    obtain ⟨line, -, mem⟩ := mem_flatMap.mp mem
    exact Render.Line.marks_fits graphemes cols rows line m mem
  | component p =>
    rw [marks]
    split
    · exact fun m mem => nomatch mem
    · exact Render.Frame.marks_fits cols rows _ _ _

theorem draw_layers (f : Render.Frame) (ls : List Layer) :
    ls.foldl (Layer.draw graphemes) f =
      (ls.flatMap (Layer.marks graphemes f.cols f.rows)).foldl Render.Frame.draw f := by
  induction ls generalizing f with
  | nil => rfl
  | cons l ls ih =>
    rw [foldl_cons, ih, flatMap_cons, foldl_append, Layer.draw_eq,
      (Render.Frame.draws_size f _).1, (Render.Frame.draws_size f _).2]

/-- On a blank frame each cell is that of the topmost layer over it. -/
theorem draw_layers_cells (cols rows : Int) (ls : List Layer) :
    (ls.foldl (Layer.draw graphemes) (newFrame cols rows)).cells =
      topmostCell graphemes cols rows ls := by
  rw [draw_layers]
  refine (Render.draw_cells fun m mem => ?_).2
  obtain ⟨l, -, mem⟩ := mem_flatMap.mp mem
  exact Layer.marks_fits m mem

/-! ### What the compositor draws -/

theorem lastOverlay_eq (rect : Rect) (overlays : List Frame) :
    lastOverlay rect overlays = (ownerAmong overlays rect).head? := by
  induction overlays with
  | nil => rfl
  | cons k ks ih =>
    rw [lastOverlay, ownerAmong, ih]
    cases ownerAmong ks rect with
    | nil => simp only [List.head?_nil]; split <;> rfl
    | cons i path => rfl

theorem placementInOverlays_eq (overlays : List Frame) (rect : Rect) :
    placementInOverlays overlays rect = (lastOverlay rect overlays).isSome := by
  induction overlays with
  | nil => rfl
  | cons k ks ih =>
    rw [placementInOverlays, any_cons, lastOverlay]
    rw [placementInOverlays] at ih
    rw [ih]
    cases lastOverlay rect ks with
    | none => cases rectWithin (overlayBounds k) rect <;> rfl
    | some i => simp

theorem foldl_here (overlays : List Kernel.Frame) (placements : List Placement)
    (f : Render.Frame) :
    (placements.filter fun p => lastOverlay p.rect overlays = none).foldl
        (blitPlacement graphemes) f =
      ((assumed overlays placements).filterMap Owned.here).foldl (Layer.draw graphemes) f := by
  induction placements generalizing f with
  | nil => rfl
  | cons p placements ih =>
    rw [assumed, map_cons, filter_cons, filterMap_cons, lastOverlay_eq]
    rw [assumed] at ih
    cases ownerAmong overlays p.rect with
    | cons i path => exact ih f
    | nil =>
      simp only [Owned.here, List.head?_nil, decide_true, if_true, foldl_cons]
      cases empty : p.rect.empty with
      | true => simp only [if_true, blitPlacement, empty, ih]
      | false => simp [Layer.draw, ih]

theorem assumed_inside (k : Kernel.Frame) (ks : List Kernel.Frame) (placements : List Placement) :
    (assumed (k :: ks) placements).filterMap Owned.inside =
      (placements.filter fun p => lastOverlay p.rect (k :: ks) = some 0).map fun p =>
        (p, owner k p.rect) := by
  induction placements with
  | nil => rfl
  | cons p placements ih =>
    rw [assumed] at ih ⊢
    rw [map_cons, filterMap_cons, filter_cons, lastOverlay_eq, ih, ownerAmong]
    cases ownerAmong ks p.rect with
    | cons i path => rfl
    | nil => cases rectWithin (overlayBounds k) p.rect <;> rfl

/-- Placements outside every overlay do not matter to the overlays. -/
theorem overlaysLayers_congr {a b : List Owned} (ks : List Frame)
    (same : ∀ take : Owned → Option Owned, (∀ p, take (p, []) = none) →
      a.filterMap take = b.filterMap take) :
    overlaysLayers ks a = overlaysLayers ks b := by
  cases ks with
  | nil => rw [overlaysLayers, overlaysLayers]
  | cons k ks =>
    rw [overlaysLayers, overlaysLayers, same _ fun _ => rfl, same _ fun _ => rfl]

/-- What the first overlay does not get is shared among the others. -/
theorem assumed_beyond (k : Kernel.Frame) (ks : List Kernel.Frame)
    (placements : List Placement) :
    overlaysLayers ks ((assumed (k :: ks) placements).filterMap Owned.beyond) =
      overlaysLayers ks (assumed ks placements) := by
  refine overlaysLayers_congr ks fun take outside => ?_
  rw [filterMap_filterMap, assumed, assumed, filterMap_map, filterMap_map]
  refine congrArg (List.filterMap · placements) (funext fun p => ?_)
  rw [Function.comp_apply, Function.comp_apply, ownerAmong]
  cases ownerAmong ks p.rect with
  | cons i path => rfl
  | nil =>
    rw [outside]
    dsimp only
    split <;> rfl

theorem assign_cons (k : Frame) (ks : List Frame) (placements : List Placement) :
    (assignOverlayPlacements (k :: ks) placements).1 =
      (placements.filter fun p => lastOverlay p.rect (k :: ks) = some 0) ::
        (assignOverlayPlacements ks placements).1 := by
  rw [assignOverlayPlacements, length_cons, range_succ_eq_map, map_cons,
    map_map]
  refine congrArg _ (map_congr_left fun i _ => filter_congr fun p _ => ?_)
  rw [lastOverlay]
  cases lastOverlay p.rect ks with
  | some j => simp
  | none => dsimp only; split <;> simp

mutual

theorem blitOverlayFrame_eq (k : Kernel.Frame) (f : Render.Frame) (placements : List Placement) :
    blitOverlayFrame graphemes f k placements =
      (overlayLayers k (placements.map fun p => (p, owner k p.rect))).foldl
        (Layer.draw graphemes) f := by
  cases k with
  | mk index lines overlays cursor hits =>
    rw [blitOverlayFrame, overlayLayers, blitOverlayFrames_eq overlays]
    simp only [foldl_cons, foldl_append]
    rw [assignOverlayPlacements, foldl_here]
    rfl

theorem blitOverlayFrames_eq (ks : List Kernel.Frame) (f : Render.Frame)
    (placements : List Placement) :
    blitOverlayFrames graphemes f ks (assignOverlayPlacements ks placements).1 =
      (overlaysLayers ks (assumed ks placements)).foldl (Layer.draw graphemes) f := by
  cases ks with
  | nil => rw [blitOverlayFrames, overlaysLayers]; rfl
  | cons k ks =>
    rw [assign_cons, blitOverlayFrames, headD_cons, tail_cons,
      blitOverlayFrame_eq k, blitOverlayFrames_eq ks, overlaysLayers, foldl_append,
      assumed_inside, assumed_beyond]

end

mutual

theorem blitKernelFrame_eq (k : Frame) (f : Render.Frame) :
    blitKernelFrame graphemes f k = (frameLayers k).foldl (Layer.draw graphemes) f := by
  cases k with
  | mk index lines overlays cursor hits =>
    rw [blitKernelFrame, frameLayers, foldl_cons, blitKernelFrames_eq overlays]
    rfl

theorem blitKernelFrames_eq (ks : List Frame) (f : Render.Frame) :
    blitKernelFrames graphemes f ks = (framesLayers ks).foldl (Layer.draw graphemes) f := by
  cases ks with
  | nil => rw [blitKernelFrames, framesLayers]; rfl
  | cons k ks =>
    rw [blitKernelFrames, framesLayers, foldl_append, blitKernelFrame_eq k,
      blitKernelFrames_eq ks]

end

/-- The layers as the compositor draws them. -/
def drawn (program : Frame) (placements : List Placement)
    (notice core : Option Frame) : List Layer :=
  layers program (assumed program.overlays placements) notice core

/-- Only the placements that the compositor holds back matter to the overlays. -/
theorem assumed_held (overlays : List Frame) (placements : List Placement) :
    overlaysLayers overlays (assumed overlays
        (placements.filter fun p => placementInOverlays overlays p.rect)) =
      overlaysLayers overlays (assumed overlays placements) := by
  refine overlaysLayers_congr _ fun take outside => ?_
  rw [assumed, assumed, filterMap_map, filterMap_map, filterMap_filter]
  refine congrArg (List.filterMap · placements) (funext fun p => ?_)
  rw [Function.comp_apply, placementInOverlays_eq, lastOverlay_eq]
  cases ownerAmong overlays p.rect with
  | nil => exact (outside p).symm
  | cons i path => rfl

theorem composeInto_cells (cols rows : Int) (program : Kernel.Frame)
    (placements : List Placement) (notice core : Option Kernel.Frame) :
    (composeInto graphemes cols rows program placements notice core).cells =
      topmostCell graphemes cols rows (drawn program placements notice core) := by
  have flow (p : Placement) : (!placementInOverlays program.overlays p.rect) =
      decide (lastOverlay p.rect program.overlays = none) := by
    rw [placementInOverlays_eq]
    cases lastOverlay p.rect program.overlays <;> rfl
  have frames (k : Option Kernel.Frame) (f : Render.Frame) :
      k.elim f (blitKernelFrame graphemes f) =
        (k.elim [] frameLayers).foldl (Layer.draw graphemes) f := by
    cases k with
    | none => rfl
    | some k => exact blitKernelFrame_eq k f
  have shown (f : Render.Frame) : (match resolveCursor program placements core with
      | some (x, y, shape) => (f.setCursor x y).setCursorShape shape
      | none => f).cells = f.cells := by
    split
    · rw [Render.Frame.setCursorShape_cells, Render.Frame.setCursor_cells]
    · rfl
  rw [composeInto, shown, ← draw_layers_cells, drawn, layers]
  simp only [flow, foldl_here, blitOverlayFrames_eq, frames, assumed_held, foldl_cons,
    foldl_append]
  rfl

end Marks

/-! ### The owner of a placement -/

/-- On the way through the overlays, each is the last of its siblings whose bounds contain the
rectangle, and none of the overlays at the end does. -/
def OwnedBy (rect : Rect) : List Nat → List Frame → Prop
  | [], overlays => ∀ k ∈ overlays, rectWithin (overlayBounds k) rect = false
  | i :: path, overlays => ∃ k later, overlays.drop i = k :: later ∧
      rectWithin (overlayBounds k) rect = true ∧
      (∀ l ∈ later, rectWithin (overlayBounds l) rect = false) ∧ OwnedBy rect path k.overlays

theorem owner_eq (k : Frame) (rect : Rect) : owner k rect = ownerAmong k.overlays rect := by
  cases k
  rfl

variable {rect : Rect} {overlays : List Kernel.Frame}

theorem ownerAmong_nil : ownerAmong overlays rect = [] ↔ OwnedBy rect [] overlays := by
  induction overlays with
  | nil => simp [ownerAmong, OwnedBy]
  | cons k ks ih =>
    rw [ownerAmong]
    simp only [OwnedBy, forall_mem_cons] at ih ⊢
    rw [← ih]
    cases ownerAmong ks rect with
    | nil => cases rectWithin (overlayBounds k) rect <;> simp
    | cons i path => simp

theorem ownerAmong_iff {path : List Nat} :
    ownerAmong overlays rect = path ↔ OwnedBy rect path overlays := by
  induction path generalizing overlays with
  | nil => exact ownerAmong_nil
  | cons i path ih =>
    induction overlays generalizing i with
    | nil => simp [ownerAmong, OwnedBy]
    | cons k ks ihs =>
      rw [ownerAmong]
      cases i with
      | zero =>
        have first : OwnedBy rect (0 :: path) (k :: ks) ↔ rectWithin (overlayBounds k) rect = true ∧
            OwnedBy rect [] ks ∧ OwnedBy rect path k.overlays := by
          simp [OwnedBy]
        rw [first, ← ownerAmong_nil, ← ih, ← owner_eq]
        cases ownerAmong ks rect with
        | nil => cases rectWithin (overlayBounds k) rect <;> simp
        | cons j rest => simp
      | succ i =>
        have shift : OwnedBy rect ((i + 1) :: path) (k :: ks) ↔ OwnedBy rect (i :: path) ks :=
          Iff.rfl
        rw [shift, ← ihs i]
        cases ownerAmong ks rect with
        | nil => cases rectWithin (overlayBounds k) rect <;> simp
        | cons j rest => simp

/-! ### The boxes of a tree -/

mutual

/-- The rectangle of each visible box with the way to its subtree; the overlays of the node are
numbered from `first`. -/
def boxesOf : Node → Rect → Nat → List (Rect × List Nat)
  | .mk _ a children, rect, first =>
    (normalizeRect rect, []) :: boxesAmong children (normalizeRect rect)
      (assignFlow a (normalizeRect rect) children) first

def boxesAmong : List Node → Rect → List Rect → Nat → List (Rect × List Nat)
  | [], _, _, _ => []
  | child :: children, rect, plans, first =>
    if !child.attrs.isVisible then boxesAmong children rect plans first
    else match child.attrs.pos with
      | some pos =>
        ((boxesOf child (posRect child.attrs pos rect) 0).map fun box =>
          (box.1, first :: box.2)) ++ boxesAmong children rect plans (first + 1)
      | none =>
        boxesOf child (plans.headD default) first ++ boxesAmong children rect plans.tail
          (first + (outOf child (plans.headD default)).overlays.length)

end

def boxes (root : Node) (width height : Int) : List (Rect × List Nat) :=
  if width ≤ 0 || height ≤ 0 || !root.attrs.isVisible then []
  else boxesOf root ⟨0, 0, width, height⟩ 0

/-- A placement of a box of the tree. -/
structure Placed (root : Node) (width height : Int) where
  placement : Placement
  owner : List Nat
  belongs : (placement.rect, owner) ∈ boxes root width height

/-! ### The order of the layers -/

/-- The layer of a placement if its subtree is at the end of the way. -/
def Owned.reached (path : List Nat) (q : Owned) : Option Layer :=
  if q.2 = path ∧ q.1.rect.empty = false then some (.component q.1) else none

open Owned

theorem Owned.reached_nil : reached [] = here := by
  funext ⟨p, path⟩
  cases path <;> cases empty : p.rect.empty <;> simp [reached, here, empty]

theorem Owned.reached_zero (path : List Nat) (owned : List Owned) :
    owned.filterMap (reached (0 :: path)) =
      (owned.filterMap inside).filterMap (reached path) := by
  rw [filterMap_filterMap]
  refine congrArg (List.filterMap · owned) (funext ?_)
  rintro ⟨p, _ | ⟨_ | i, path'⟩⟩ <;> simp [reached, inside]

theorem Owned.reached_succ (i : Nat) (path : List Nat) (owned : List Owned) :
    owned.filterMap (reached ((i + 1) :: path)) =
      (owned.filterMap beyond).filterMap (reached (i :: path)) := by
  rw [filterMap_filterMap]
  refine congrArg (List.filterMap · owned) (funext ?_)
  rintro ⟨p, _ | ⟨_ | j, path'⟩⟩ <;> simp [reached, beyond]

def Reaches : List Nat → List Frame → Prop
  | [], _ => True
  | i :: path, ks => ∃ k, ks[i]? = some k ∧ Reaches path k.overlays

theorem OwnedBy.reaches {rect : Rect} {path : List Nat} {overlays : List Frame}
    (owned : OwnedBy rect path overlays) : Reaches path overlays := by
  induction path generalizing overlays with
  | nil => trivial
  | cons i path ih =>
    obtain ⟨k, later, at_i, -, -, inner⟩ := owned
    refine ⟨k, ?_, ih inner⟩
    rw [← List.head?_drop, at_i, List.head?_cons]

def Layer.isComponent : Layer → Bool
  | .component _ => true
  | _ => false

/-- A list of layers that does not go on with components. -/
def Closed (ls : List Layer) : Prop := ∀ l ∈ ls.head?, l.isComponent = false

theorem components_parse {xs ys rest rest' : List Layer} (hxs : ∀ l ∈ xs, l.isComponent = true)
    (hys : ∀ l ∈ ys, l.isComponent = true) (closed : Closed rest) (closed' : Closed rest')
    (same : xs ++ rest = ys ++ rest') : xs = ys ∧ rest = rest' := by
  induction xs generalizing ys with
  | nil =>
    cases ys with
    | nil => exact ⟨rfl, same⟩
    | cons y ys =>
      rw [nil_append] at same
      have := closed y (by rw [same]; rfl)
      rw [hys y mem_cons_self] at this
      cases this
  | cons x xs ih =>
    cases ys with
    | nil =>
      rw [nil_append] at same
      have := closed' x (by rw [← same]; rfl)
      rw [hxs x mem_cons_self] at this
      cases this
    | cons y ys =>
      rw [cons_append, cons_append, List.cons.injEq] at same
      obtain ⟨eq, rests⟩ := ih (fun l mem => hxs l (mem_cons_of_mem _ mem))
        (fun l mem => hys l (mem_cons_of_mem _ mem)) same.2
      exact ⟨by rw [same.1, eq], rests⟩

theorem here_component {owned : List Owned} : ∀ l ∈ owned.filterMap here, l.isComponent = true := by
  intro l mem
  obtain ⟨⟨p, path⟩, -, shown⟩ := mem_filterMap.mp mem
  cases path with
  | cons i path => cases shown
  | nil =>
    rw [here] at shown
    split at shown
    · cases shown
    · cases shown
      rfl

theorem overlaysLayers_closed (ks : List Frame) (owned : List Owned) {rest : List Layer}
    (closed : Closed rest) : Closed (overlaysLayers ks owned ++ rest) := by
  cases ks with
  | nil => rwa [overlaysLayers, nil_append]
  | cons k ks =>
    cases k
    rintro l ⟨⟩
    rfl

mutual

/-- The layers of a subtree say which components were drawn in which subtree. -/
theorem overlayLayers_parse (k : Frame) {a b : List Owned} {rest rest' : List Layer}
    (closed : Closed rest) (closed' : Closed rest')
    (same : overlayLayers k a ++ rest = overlayLayers k b ++ rest') :
    (∀ path, Reaches path k.overlays →
      a.filterMap (reached path) = b.filterMap (reached path)) ∧ rest = rest' := by
  cases k with
  | mk index lines overlays cursor hits =>
    rw [overlayLayers, overlayLayers] at same
    simp only [cons_append, List.cons.injEq, true_and, List.append_assoc] at same
    obtain ⟨here, others⟩ := components_parse here_component here_component
      (overlaysLayers_closed overlays a closed) (overlaysLayers_closed overlays b closed') same
    obtain ⟨groups, rests⟩ := overlaysLayers_parse overlays closed closed' others
    refine ⟨fun path reaches => ?_, rests⟩
    cases path with
    | nil => rw [reached_nil, here]
    | cons i path => exact groups i path reaches

theorem overlaysLayers_parse (ks : List Frame) {a b : List Owned}
    {rest rest' : List Layer} (closed : Closed rest) (closed' : Closed rest')
    (same : overlaysLayers ks a ++ rest = overlaysLayers ks b ++ rest') :
    (∀ i path, Reaches (i :: path) ks →
      a.filterMap (reached (i :: path)) = b.filterMap (reached (i :: path))) ∧
      rest = rest' := by
  cases ks with
  | nil =>
    refine ⟨fun i path reaches => ?_, by simpa only [overlaysLayers, nil_append] using same⟩
    obtain ⟨k, absent, -⟩ := reaches
    cases absent
  | cons k ks =>
    rw [overlaysLayers, overlaysLayers, List.append_assoc, List.append_assoc] at same
    obtain ⟨inner, others⟩ := overlayLayers_parse k
      (overlaysLayers_closed ks _ closed) (overlaysLayers_closed ks _ closed') same
    obtain ⟨later, rests⟩ := overlaysLayers_parse ks closed closed' others
    refine ⟨fun i path reaches => ?_, rests⟩
    cases i with
    | zero =>
      obtain ⟨k', at_0, reaches⟩ := reaches
      cases at_0
      rw [reached_zero, reached_zero, inner path reaches]
    | succ i =>
      rw [reached_succ, reached_succ]
      exact later i path reaches

end

mutual

/-- Conversely the components of each subtree determine the layers. -/
theorem overlayLayers_congr (k : Frame) {a b : List Owned}
    (same : ∀ path, a.filterMap (reached path) = b.filterMap (reached path)) :
    overlayLayers k a = overlayLayers k b := by
  cases k with
  | mk index lines overlays cursor hits =>
    rw [overlayLayers, overlayLayers, ← reached_nil, same [],
      groups_congr overlays fun i path => same (i :: path)]

theorem groups_congr (ks : List Frame) {a b : List Owned}
    (same : ∀ i path,
      a.filterMap (reached (i :: path)) = b.filterMap (reached (i :: path))) :
    overlaysLayers ks a = overlaysLayers ks b := by
  cases ks with
  | nil => rw [overlaysLayers, overlaysLayers]
  | cons k ks =>
    rw [overlaysLayers, overlaysLayers, overlayLayers_congr k fun path => ?_,
      groups_congr ks fun i path => ?_]
    · rw [← reached_succ, same, reached_succ]
    · rw [← reached_zero, same, reached_zero]

end

theorem frames_closed (notice core : Option Frame) :
    Closed (notice.elim [] frameLayers ++ core.elim [] frameLayers) := by
  have one (k : Frame) (rest : List Layer) : Closed (frameLayers k ++ rest) := by
    cases k
    rintro l ⟨⟩
    rfl
  cases notice with
  | some k => exact one k _
  | none =>
    cases core with
    | some k => simpa using one k []
    | none => rintro l ⟨⟩

theorem layers_parse {program : Frame} {a b : List Owned}
    {notice core : Option Frame}
    (same : layers program a notice core = layers program b notice core) (path : List Nat)
    (reaches : Reaches path program.overlays) :
    a.filterMap (reached path) = b.filterMap (reached path) := by
  simp only [layers, List.append_assoc, List.cons.injEq, true_and] at same
  have closed := frames_closed notice core
  obtain ⟨here, others⟩ := components_parse here_component here_component
    (overlaysLayers_closed _ a closed) (overlaysLayers_closed _ b closed) same
  cases path with
  | nil => rw [reached_nil, here]
  | cons i path =>
    exact (overlaysLayers_parse program.overlays closed closed others).1 i path reaches

/-- If a stronger test counts as many elements, it holds wherever the weaker does. -/
theorem holds_of_countP_eq {α : Type} {weak strong : α → Bool}
    (weaker : ∀ x, strong x = true → weak x = true) {l : List α}
    (same : l.countP weak = l.countP strong) {x : α} (mem : x ∈ l) (holds : weak x = true) :
    strong x = true := by
  have both : (l.filter weak).filter strong = l.filter strong := by
    rw [filter_filter]
    refine filter_congr fun y _ => ?_
    cases strongly : strong y with
    | true => rw [weaker y strongly]; rfl
    | false => rfl
  rw [countP_eq_length_filter, countP_eq_length_filter, ← both] at same
  exact length_filter_eq_length_iff.mp same.symm x (mem_filter.mpr ⟨mem, holds⟩)

theorem countP_reached {p : Placement} (shows : p.rect.empty = false) (path : List Nat)
    (owned : List Owned) :
    (owned.filterMap (reached path)).countP (fun l => decide (l = Layer.component p)) =
      owned.countP fun q => decide (q = (p, path)) := by
  rw [countP_filterMap]
  refine countP_congr fun q _ => ?_
  obtain ⟨p', path'⟩ := q
  simp only [reached]
  split
  · next here => simp [here.1]
  next other =>
  simp only [Option.map_none, Option.getD_none, Bool.false_eq_true, decide_eq_true_eq,
    Prod.mk.injEq, false_iff, not_and]
  rintro rfl rfl
  exact other ⟨rfl, shows⟩

/-- The compositor draws the layers in the documented order exactly if it gives each component that
draws something to the subtree of its box. -/
theorem drawn_iff (program : Kernel.Frame) (owned : List Owned)
    (notice core : Option Kernel.Frame) :
    drawn program (owned.map Prod.fst) notice core = layers program owned notice core ↔
      ∀ q ∈ owned, q.1.rect.empty = false → OwnedBy q.1.rect q.2 program.overlays := by
  constructor
  · rintro same ⟨p, path⟩ mem shows
    -- all copies of the component are drawn in one subtree, so they all belong to it
    have group := layers_parse same _ (ownerAmong_iff.mp rfl :
      OwnedBy p.rect (ownerAmong program.overlays p.rect) program.overlays).reaches
    have counts := congrArg (List.countP fun l => decide (l = Layer.component p)) group
    rw [countP_reached shows, countP_reached shows, assumed, map_map, countP_map]
      at counts
    have one := holds_of_countP_eq (fun q eq => by simp_all) counts mem (by simp)
    simp only [decide_eq_true_eq, Prod.mk.injEq, true_and] at one
    exact ownerAmong_iff.mp one.symm
  · intro owners
    have same (path : List Nat) :
        (assumed program.overlays (owned.map Prod.fst)).filterMap (reached path) =
          owned.filterMap (reached path) := by
      rw [assumed, map_map, filterMap_map]
      refine filterMap_congr fun q mem => ?_
      simp only [Function.comp_apply, reached]
      cases shows : q.1.rect.empty with
      | true => simp
      | false => rw [ownerAmong_iff.mpr (owners q mem shows)]
    rw [drawn, layers, layers, ← reached_nil, same [],
      groups_congr program.overlays fun i path => same (i :: path)]

/-- Each cell is that of the topmost layer over it as the compositor draws them. That is the
documented order exactly if each component that draws something lies, on the way to its box, in the
last overlay whose bounds contain it, and in no overlay of the subtree of its box. -/
theorem composeInto_order (graphemes : Graphemes) (root : Node) (width height cols rows : Int)
    (placed : List (Placed root width height)) (notice core : Option Frame) :
    (composeInto graphemes cols rows (layout root width height)
        (placed.map (·.placement)) notice core).cells =
      topmostCell graphemes cols rows
        (drawn (layout root width height) (placed.map (·.placement)) notice core) ∧
    (drawn (layout root width height) (placed.map (·.placement)) notice core =
        layers (layout root width height) (placed.map fun p => (p.placement, p.owner))
          notice core ↔
      ∀ p ∈ placed, p.placement.rect.empty = false →
        OwnedBy p.placement.rect p.owner (layout root width height).overlays) := by
  refine ⟨composeInto_cells cols rows _ _ notice core, ?_⟩
  have order := drawn_iff (layout root width height)
    (placed.map fun p => (p.placement, p.owner)) notice core
  rw [map_map] at order
  refine order.trans ⟨fun owned p mem => ?_, fun owned q mem => ?_⟩
  · exact owned (p.placement, p.owner) (mem_map_of_mem mem)
  · obtain ⟨p, listed, rfl⟩ := mem_map.mp mem
    exact owned p listed

def plainBox (id text : String) (pos : Option Pos) : Attrs where
  id := id
  size := ⟨4, 1, 0⟩
  pos := pos
  flow := ""
  visible := none
  style := ""
  content := some ⟨text, [], "", Data.SortedMap.empty⟩
  cursor := none
  input := []
  focused := false

/-- A terminal in the flow and a menu over it. -/
def menuTree : Node :=
  .mk 0 (plainBox "root" "" none)
    [.mk 1 (plainBox "term" "" none) [], .mk 2 (plainBox "menu" "menu" (some ⟨0, 0⟩)) []]

def termPlacement : Placement where
  rect := ⟨0, 0, 4, 1⟩
  lines := [⟨0, 0, "xxxx", ""⟩]
  focused := false
  cursorX := 0
  cursorY := 0
  cursorVisible := false
  cursorShape := ""

/-- The terminal of the flow is drawn over the menu that covers it. -/
theorem component_over_menu :
    (termPlacement.rect, []) ∈ boxes menuTree 4 1 ∧
      (composeInto ⟨fun _ => []⟩ 4 1 (layout menuTree 4 1) [termPlacement]
        none none).cells 0 0 = ⟨"x", 1, false, ""⟩ ∧
      topmostCell ⟨fun _ => []⟩ 4 1
        (layers (layout menuTree 4 1) [(termPlacement, [])] none none) 0 0 =
          ⟨"m", 1, false, ""⟩ := by
  decide +kernel

end Anytty.Tui.Compositor
