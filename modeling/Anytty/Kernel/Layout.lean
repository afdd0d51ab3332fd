import Anytty.Kernel.Node

/-!
# Layout

`solve` places a node in a rectangle, renders its lines and its cursor and places its children: in
a row, in a column or on top of each other. A child with a position is taken out of the flow and
becomes an overlay frame of its own. The rectangles of all nodes with an id are kept in an index,
which is a tree: the index of an overlay is linked and not copied.

`layout` collects the regular flow in one builder. `layoutCached` gives each child a builder of its
own, stores the frame of each node it solves at the node, and takes a stored frame whose rectangle
is the one to be solved instead of solving again.
-/

namespace Anytty.Kernel

/-! ### Frames -/

structure Line where
  x : Int
  y : Int
  text : String
  style : String
  deriving DecidableEq

/-- An entry of the index, or a whole index that is linked. -/
inductive RectItem
  | entry (id : String) (rect : Rect)
  | ref (items : List RectItem) (count : Nat)

structure RectIndex where
  items : List RectItem
  count : Nat

structure Hit where
  id : String
  rect : Rect
  deriving DecidableEq

structure CursorCell where
  rect : Rect
  shape : String
  deriving DecidableEq

/-- The solved layout of a subtree. -/
inductive Frame
  | mk (index : RectIndex) (lines : List Line) (overlays : List Frame)
      (cursor : Option CursorCell) (hits : List Hit)

namespace Frame

def index : Frame → RectIndex
  | mk index _ _ _ _ => index

def lines : Frame → List Line
  | mk _ lines _ _ _ => lines

def overlays : Frame → List Frame
  | mk _ _ overlays _ _ => overlays

def cursor : Frame → Option CursorCell
  | mk _ _ _ cursor _ => cursor

def hits : Frame → List Hit
  | mk _ _ _ _ hits => hits

end Frame

def emptyFrame : Frame := .mk ⟨[], 0⟩ [] [] none []

mutual

/-- The last rectangle with the id, in the order of the walk. -/
def RectItem.rect (id : String) : RectItem → Option Rect
  | .entry key rect => if key = id then some rect else none
  | .ref items _ => rectOf id items none

def rectOf (id : String) : List RectItem → Option Rect → Option Rect
  | [], found => found
  | item :: items, found => rectOf id items ((item.rect id).or found)

end

mutual

/-- The entries in the order of `RectsIterate`. -/
def RectItem.entries : RectItem → List (String × Rect)
  | .entry id rect => [(id, rect)]
  | .ref items _ => entriesOf items

def entriesOf : List RectItem → List (String × Rect)
  | [] => []
  | item :: items => item.entries ++ entriesOf items

end

def Frame.rect (f : Frame) (id : String) : Option Rect := rectOf id f.index.items none

def Frame.rectCount (f : Frame) : Nat := f.index.count

def Frame.rects (f : Frame) : List (String × Rect) := entriesOf f.index.items

mutual

/-- The candidates of a hit: the regular flow, then the overlays. -/
def Frame.allHits : Frame → List Hit
  | .mk _ _ overlays _ hits => hits ++ overlayHits overlays

def overlayHits : List Frame → List Hit
  | [] => []
  | f :: fs => f.allHits ++ overlayHits fs

end

/-- The smallest candidate that contains the cell; of equal ones the last. -/
def bestHit (x y : Int) (best : Option (String × Int)) (hit : Hit) : Option (String × Int) :=
  if !hit.rect.contains x y then best
  else if hit.rect.area ≤ 0 then best
  else match best with
    | none => some (hit.id, hit.rect.area)
    | some (id, area) =>
      if hit.rect.area ≤ area then some (hit.id, hit.rect.area) else some (id, area)

def Frame.hit (f : Frame) (x y : Int) : String :=
  ((f.allHits.foldl (bestHit x y) none).map Prod.fst).getD ""

/-! ### Builders -/

structure Builder where
  index : RectIndex
  lines : List Line
  hits : List Hit
  overlays : List Frame
  cursor : Option CursorCell

def emptyBuilder : Builder := ⟨⟨[], 0⟩, [], [], [], none⟩

def Builder.frame (b : Builder) : Frame := .mk b.index b.lines b.overlays b.cursor b.hits

/-- The frame of a child in the regular flow is spliced in. -/
def Builder.addFrame (b : Builder) (f : Frame) : Builder where
  index := ⟨b.index.items ++ [.ref f.index.items f.index.count], b.index.count + f.index.count⟩
  lines := b.lines ++ f.lines
  hits := b.hits ++ f.hits
  overlays := b.overlays ++ f.overlays
  cursor := if f.cursor.isSome then f.cursor else b.cursor

/-- Of an overlay only the rectangles and the cursor are lifted. -/
def Builder.addOverlay (b : Builder) (f : Frame) : Builder where
  index := ⟨b.index.items ++ [.ref f.index.items f.index.count], b.index.count + f.index.count⟩
  lines := b.lines
  hits := b.hits
  overlays := b.overlays ++ [f]
  cursor := if f.cursor.isSome then f.cursor else b.cursor

/-- The node's own entry. -/
def Builder.record (b : Builder) (a : Attrs) (rect : Rect) : Builder :=
  if a.id = "" then b
  else { b with
    index := ⟨b.index.items ++ [.entry a.id rect], b.index.count + 1⟩
    hits := if rect.empty then b.hits else b.hits ++ [⟨a.id, rect⟩] }

/-- The content lines within the rectangle. -/
def ownLines (a : Attrs) (rect : Rect) : List Line :=
  if 0 < rect.width then
    a.contentLines.zipIdx.filterMap fun line =>
      if rect.height ≤ line.2 then none
      else
        let text := truncate line.1 rect.width
        if text = "" then none else some ⟨rect.x, rect.y + line.2, text, a.style⟩
  else []

/-- The cursor of the node, moved into its rectangle. -/
def ownCursor (a : Attrs) (rect : Rect) : Option CursorCell :=
  match a.cursor with
  | none => none
  | some c =>
    if a.cursorVisible && !rect.empty then
      let row := if c.row < 0 then 0 else if rect.height ≤ c.row then rect.height - 1 else c.row
      let col := if c.col < 0 then 0 else if rect.width ≤ c.col then rect.width - 1 else c.col
      some ⟨⟨rect.x + col, rect.y + row, 1, 1⟩, c.shape⟩
    else none

def Builder.renderOwn (b : Builder) (a : Attrs) (rect : Rect) : Builder :=
  { b with
    lines := b.lines ++ ownLines a rect
    cursor := if (ownCursor a rect).isSome then ownCursor a rect else b.cursor }

/-! ### The flow -/

structure FlowPlan where
  size : Size
  fixed : Int
  base : Int
  flex : Int
  flexible : Bool
  cross : Int

/-- The plan of one child in a row or a column. -/
def flowPlan (row : Bool) (rect : Rect) (child : Attrs) : FlowPlan :=
  let mainSpec := if row then child.size.width else child.size.height
  let crossSpec := if row then child.size.height else child.size.width
  let mainIntrinsic := if row then child.intrinsicSize.1 else child.intrinsicSize.2
  let crossIntrinsic := if row then child.intrinsicSize.2 else child.intrinsicSize.1
  let cross :=
    if 0 < crossSpec then crossSpec
    else if 0 < crossIntrinsic then crossIntrinsic
    else if row then rect.height else rect.width
  if 0 < mainSpec then ⟨child.size, mainSpec, 0, 0, false, cross⟩
  else if 0 < child.size.flex then
    ⟨child.size, 0, mainIntrinsic, child.size.flex, true, cross⟩
  else if 0 < mainIntrinsic then ⟨child.size, mainIntrinsic, 0, 0, false, cross⟩
  else ⟨child.size, 0, 0, 0, true, cross⟩

/-- Add to the base of the last plan that satisfies the test. -/
def addToLast (p : FlowPlan → Bool) (extra : Int) (plans : List FlowPlan) : List FlowPlan :=
  let after := (plans.reverse.takeWhile fun plan => !p plan).reverse
  let before := plans.take (plans.length - after.length)
  match before.getLast? with
  | none => plans
  | some last => before.dropLast ++ { last with base := last.base + extra } :: after

/-- The remaining cells go to the flexible children, by their weights or in equal parts; what the
division leaves goes to the last one. -/
def distribute (mainTotal : Int) (plans : List FlowPlan) : List FlowPlan :=
  let used := (plans.map fun p => if p.flexible then p.base else p.fixed).sum
  let flexSum := (plans.map fun p => if p.flexible then p.flex else 0).sum
  let remaining := max 0 (mainTotal - used)
  if 0 < flexSum then
    let weighted := fun p : FlowPlan => p.flexible && 0 < p.flex
    let extra := fun p : FlowPlan => (remaining * p.flex).tdiv flexSum
    let distributed := (plans.map fun p => if weighted p then extra p else 0).sum
    addToLast weighted (remaining - distributed)
      (plans.map fun p => if weighted p then { p with base := p.base + extra p } else p)
  else
    let count : Int := (plans.filter fun p => p.flexible).length
    if 0 < count then
      let each := remaining.tdiv count
      addToLast (fun p => p.flexible) (remaining - each * count)
        (plans.map fun p => if p.flexible then { p with base := p.base + each } else p)
    else plans

/-- The rectangles of the plans one after the other. -/
def placePlans (row : Bool) (rect : Rect) : Int → List FlowPlan → List Rect
  | _, [] => []
  | mainPos, p :: plans =>
    let size := max 0 (if p.flexible then p.base else p.fixed)
    let cross := max 0 p.cross
    (if row then ⟨mainPos, rect.y, size, cross⟩ else ⟨rect.x, mainPos, cross, size⟩) ::
      placePlans row rect (mainPos + size) plans

/-- The rectangles of the visible children in the regular flow. -/
def assignFlow (a : Attrs) (rect : Rect) (children : List Node) : List Rect :=
  let visible := (children.map Node.attrs).filter fun c => c.isVisible && c.pos.isNone
  match a.effectiveFlow with
  | .stack => visible.map fun c =>
    ⟨rect.x, rect.y, if 0 < c.size.width then c.size.width else rect.width,
      if 0 < c.size.height then c.size.height else rect.height⟩
  | .row => placePlans true rect rect.x (distribute rect.width (visible.map (flowPlan true rect)))
  | .col => placePlans false rect rect.y
      (distribute rect.height (visible.map (flowPlan false rect)))

/-- The rectangle of a child with a position. -/
def posRect (a : Attrs) (pos : Pos) (rect : Rect) : Rect :=
  let width := if 0 < a.size.width then a.size.width else a.intrinsicSize.1
  let height := if 0 < a.size.height then a.size.height else a.intrinsicSize.2
  ⟨rect.x + pos.x, rect.y + pos.y, if width ≤ 0 then rect.width else width,
    if height ≤ 0 then rect.height else height⟩

/-! ### The solver -/

/-- A stored layout and the rectangle it was solved for. -/
structure Solved where
  rect : Rect
  frame : Frame

/-- The layouts stored at the nodes. -/
abbrev Cache := Nat → Option Solved

/-- The stored frame if it is for this rectangle; without the cache there is none. -/
def reusable (cached : Bool) (cache : Cache) (ref : Nat) (rect : Rect) : Option Frame :=
  if cached then
    (cache ref).bind fun s => if s.rect = rect then some s.frame else none
  else none

def setCached (cached : Bool) (cache : Cache) (ref : Nat) (solved : Solved) : Cache :=
  if cached then Function.update cache ref (some solved) else cache

mutual

/-- Place a visible node in the rectangle. -/
def solve (cached : Bool) : Node → Rect → Builder → Cache → Builder × Cache
  | .mk _ a children, rect, b, cache =>
    solveChildren cached children (normalizeRect rect)
      (assignFlow a (normalizeRect rect) children)
      ((b.record a (normalizeRect rect)).renderOwn a (normalizeRect rect)) cache

/-- The children of a node in the rectangle, with the rectangles of the flow that are left. -/
def solveChildren (cached : Bool) :
    List Node → Rect → List Rect → Builder → Cache → Builder × Cache
  | [], _, _, b, cache => (b, cache)
  | child :: children, rect, plans, b, cache =>
    if !child.attrs.isVisible then solveChildren cached children rect plans b cache
    else match child.attrs.pos with
      | some pos =>
        let pr := normalizeRect (posRect child.attrs pos rect)
        match reusable cached cache child.ref pr with
        | some f => solveChildren cached children rect plans (b.addOverlay f) cache
        | none =>
          let own := solve cached child pr emptyBuilder cache
          solveChildren cached children rect plans (b.addOverlay own.1.frame)
            (setCached cached own.2 child.ref ⟨pr, own.1.frame⟩)
      | none =>
        let plan := plans.headD default
        if !cached then
          let shared := solve cached child plan b cache
          solveChildren cached children rect plans.tail shared.1 shared.2
        else
          let pr := normalizeRect plan
          match reusable cached cache child.ref pr with
          | some f => solveChildren cached children rect plans.tail (b.addFrame f) cache
          | none =>
            let own := solve cached child pr emptyBuilder cache
            solveChildren cached children rect plans.tail (b.addFrame own.1.frame)
              (setCached cached own.2 child.ref ⟨pr, own.1.frame⟩)

end

/-- The root fills the viewport; an invisible root or an empty viewport gives an empty frame. -/
def layout (root : Node) (width height : Int) : Frame :=
  if width ≤ 0 || height ≤ 0 || !root.attrs.isVisible then emptyFrame
  else (solve false root ⟨0, 0, width, height⟩ emptyBuilder fun _ => none).1.frame

def layoutCached (cache : Cache) (root : Node) (width height : Int) : Frame × Cache :=
  if width ≤ 0 || height ≤ 0 || !root.attrs.isVisible then (emptyFrame, cache)
  else
    match reusable true cache root.ref ⟨0, 0, width, height⟩ with
    | some f => (f, cache)
    | none =>
      let solved := solve true root ⟨0, 0, width, height⟩ emptyBuilder cache
      (solved.1.frame,
        setCached true solved.2 root.ref ⟨⟨0, 0, width, height⟩, solved.1.frame⟩)

end Anytty.Kernel
