import Anytty.Data.SortedMap

/-!
# View trees, their diff and their patches

A layout program sends its view as a tree of boxes. After the first full view it may send the
difference: `diffView` compares the trees and lists patches, and the host applies them with
`applyPatches`. A set patch carries the changed fields of one box and is merged as protobuf merges
messages: a scalar that is present overwrites, a message merges field by field, a list is
appended, a map merges by key. A scalar of proto3 is present if it is not its zero value.

A nil list and an empty one are the same here. The children of a box are never nil.
-/

namespace Anytty.Tui.View

open Anytty.Data (SortedMap)

@[ext]
structure Size where
  width : Int
  height : Int
  flex : Int
  deriving DecidableEq

@[ext]
structure Pos where
  x : Int
  y : Int
  deriving DecidableEq

@[ext]
structure Content where
  text : String
  lines : List String
  self : String
  props : SortedMap String String
  deriving DecidableEq

@[ext]
structure Cursor where
  row : Int
  col : Int
  shape : String
  visible : Option Bool
  deriving DecidableEq

/-- The fields of a box other than its children. -/
structure Attrs where
  id : String
  size : Option Size
  pos : Option Pos
  flow : String
  visible : Option Bool
  cursor : Option Cursor
  content : Option Content
  input : List String
  focused : Bool
  style : String
  deriving DecidableEq

inductive Box
  | mk (attrs : Attrs) (children : List Box)

def Box.attrs : Box → Attrs
  | .mk attrs _ => attrs

def Box.children : Box → List Box
  | .mk _ children => children

/-! ### Equality of boxes -/

def visibleEffective (a : Attrs) : Bool := a.visible.getD true

def equalSize : Option Size → Option Size → Bool
  | some a, some b => a.width = b.width && a.height = b.height && a.flex = b.flex
  | none, none => true
  | _, _ => false

def equalPos : Option Pos → Option Pos → Bool
  | some a, some b => a.x = b.x && a.y = b.y
  | none, none => true
  | _, _ => false

/-- The visibility of a cursor is not compared. -/
def equalCursor : Option Cursor → Option Cursor → Bool
  | some a, some b => a.row = b.row && a.col = b.col && a.shape = b.shape
  | none, none => true
  | _, _ => false

/-- The value of a key in a Go map; a missing key has the empty text. -/
def goGet (props : SortedMap String String) (key : String) : String :=
  (props.lookup key).getD ""

def equalContent : Option Content → Option Content → Bool
  | some a, some b =>
    a.text = b.text && a.self = b.self && a.lines = b.lines &&
      a.props.entries.length = b.props.entries.length &&
      a.props.entries.all fun entry => goGet b.props entry.1 = entry.2
  | none, none => true
  | _, _ => false

/-- The comparison of all fields but the children, in `boxesEqual` and in `scalarsDiffer`. -/
def equalAttrs (a b : Attrs) : Bool :=
  a.id = b.id && a.flow = b.flow && a.style = b.style && a.focused = b.focused &&
    visibleEffective a = visibleEffective b && a.input = b.input && equalSize a.size b.size &&
    equalPos a.pos b.pos && equalCursor a.cursor b.cursor && equalContent a.content b.content

def scalarsDiffer (a b : Attrs) : Bool := !equalAttrs a b

mutual

def boxesEqual : Box → Box → Bool
  | .mk a cs, .mk b ds => equalAttrs a b && childrenEqual cs ds

def childrenEqual : List Box → List Box → Bool
  | [], [] => true
  | c :: cs, d :: ds => boxesEqual c d && childrenEqual cs ds
  | _, _ => false

end

/-! ### What a set patch can express -/

def sizeRepresentable : Option Size → Option Size → Bool
  | some a, some b =>
    !(a.width ≠ 0 && b.width = 0) && !(a.height ≠ 0 && b.height = 0) &&
      !(a.flex ≠ 0 && b.flex = 0)
  | _, _ => true

def posRepresentable : Option Pos → Option Pos → Bool
  | some a, some b => !(a.x ≠ 0 && b.x = 0) && !(a.y ≠ 0 && b.y = 0)
  | _, _ => true

def cursorRepresentable : Option Cursor → Option Cursor → Bool
  | some a, some b =>
    !(a.row ≠ 0 && b.row = 0) && !(a.col ≠ 0 && b.col = 0) && !(a.shape ≠ "" && b.shape = "")
  | _, _ => true

def contentRepresentable : Option Content → Option Content → Bool
  | some a, some b =>
    !(a.text ≠ "" && b.text = "") && !(a.self ≠ "" && b.self = "") &&
      !(a.lines ≠ [] && a.lines ≠ b.lines) &&
      !(0 < a.props.entries.length && b.props.entries.length < a.props.entries.length) &&
      a.props.entries.all fun entry => (b.props.lookup entry.1).isSome
  | _, _ => true

def setRepresentable (a b : Attrs) : Bool :=
  !(a.id ≠ "" && b.id = "") && !(a.flow ≠ "" && b.flow = "") && !(a.style ≠ "" && b.style = "") &&
    !(a.focused && !b.focused) && !(a.input ≠ [] && a.input ≠ b.input) &&
    !(a.size.isSome && b.size.isNone) && !(a.pos.isSome && b.pos.isNone) &&
    !(a.cursor.isSome && b.cursor.isNone) && !(a.content.isSome && b.content.isNone) &&
    sizeRepresentable a.size b.size && posRepresentable a.pos b.pos &&
    cursorRepresentable a.cursor b.cursor && contentRepresentable a.content b.content

/-! ### Patches -/

inductive Op
  | set
  | replace
  | insert
  | remove
  | move
  | unknown
  deriving DecidableEq

structure Patch where
  op : Op
  path : List Nat
  box : Option Box
  index : Nat
  moveFrom : Nat
  moveTo : Nat

/-- The box of a set patch: the cursor comes without its visibility, and the visibility of the
box only if it changed. -/
def setAttrs (a b : Attrs) : Attrs where
  id := b.id
  size := b.size
  pos := b.pos
  flow := b.flow
  visible := if visibleEffective a ≠ visibleEffective b then some (visibleEffective b) else none
  cursor := b.cursor.map fun c => { c with visible := none }
  content := b.content
  input := b.input
  focused := b.focused
  style := b.style

def scalarPatch (a b : Attrs) (path : List Nat) : List Patch :=
  if scalarsDiffer a b then [⟨.set, path, some (.mk (setAttrs a b) []), 0, 0, 0⟩] else []

def replacePatch (path : List Nat) (next : Box) : Patch := ⟨.replace, path, some next, 0, 0, 0⟩

def removePatch (path : List Nat) : Patch := ⟨.remove, path, none, 0, 0, 0⟩

def insertPatch (path : List Nat) (index : Nat) (box : Box) : Patch :=
  ⟨.insert, path, some box, index, 0, 0⟩

def commonPrefix : List Box → List Box → Nat
  | c :: cs, d :: ds => if boxesEqual c d then commonPrefix cs ds + 1 else 0
  | _, _ => 0

/-- The number of equal children at the end, at most `limit`. -/
def commonSuffix (cs ds : List Box) (start : Nat) : Nat :=
  min (commonPrefix cs.reverse ds.reverse) (min cs.length ds.length - start)

/-- Remove the children between the common parts, then insert the new ones. -/
def middlePatches (cs ds : List Box) (path : List Nat) : List Patch :=
  let first := commonPrefix cs ds
  let last := commonSuffix cs ds first
  List.replicate (cs.length - last - first) (removePatch (path ++ [first])) ++
    ((ds.take (ds.length - last)).drop first).zipIdx.map fun child =>
      insertPatch path (first + child.2) child.1

def sameChildShape (c d : Box) : Bool := c.children.length = d.children.length

/-- The children share an equal first or last child. -/
def anchored (c d : Box) : Bool :=
  0 < commonPrefix c.children d.children || 0 < commonSuffix c.children d.children 0

/-- `diffChild`, given the patches of `diffNode` for the two children. -/
def diffChild (c d : Box) (path : List Nat) (patches : List Patch) : List Patch :=
  if boxesEqual c d then []
  else if sameChildShape c d || anchored c d then patches
  else [replacePatch path d]

mutual

def diffNode : Box → Box → List Nat → List Patch
  | .mk a cs, .mk b ds, path =>
    if boxesEqual (.mk a cs) (.mk b ds) then []
    else if !setRepresentable a b then [replacePatch path (.mk b ds)]
    else if cs.length = ds.length then scalarPatch a b path ++ diffChildren cs ds path 0
    else scalarPatch a b path ++ middlePatches cs ds path

def diffChildren : List Box → List Box → List Nat → Nat → List Patch
  | c :: cs, d :: ds, path, i =>
    diffChild c d (path ++ [i]) (diffNode c d (path ++ [i])) ++ diffChildren cs ds path (i + 1)
  | _, _, _, _ => []

end

/-- The patches from one tree to another; none if the trees are equal. -/
def diffView (base next : Box) : Option (List Patch) :=
  if boxesEqual base next then none
  else
    let patches := diffNode base next []
    if patches.isEmpty then none else some patches

/-! ### Merge -/

def mergeText (old new : String) : String := if new = "" then old else new

def mergeInt (old new : Int) : Int := if new = 0 then old else new

/-- The merge of a message that may be missing, from the merge into a present one. -/
def mergeMessage {α : Type} (zero : α) (merge : α → α → α) : Option α → Option α → Option α
  | old, none => old
  | old, some new => some (merge (old.getD zero) new)

def Size.merge (a b : Size) : Size :=
  ⟨mergeInt a.width b.width, mergeInt a.height b.height, mergeInt a.flex b.flex⟩

def Pos.merge (a b : Pos) : Pos := ⟨mergeInt a.x b.x, mergeInt a.y b.y⟩

def Cursor.merge (a b : Cursor) : Cursor where
  row := mergeInt a.row b.row
  col := mergeInt a.col b.col
  shape := mergeText a.shape b.shape
  visible := if b.visible.isSome then b.visible else a.visible

def mergeProps (a b : SortedMap String String) : SortedMap String String :=
  b.entries.foldl (fun props entry => props.insert entry.1 entry.2) a

def Content.merge (a b : Content) : Content where
  text := mergeText a.text b.text
  lines := a.lines ++ b.lines
  self := mergeText a.self b.self
  props := mergeProps a.props b.props

/-- `Merge` of two boxes without children. -/
def Attrs.merge (a b : Attrs) : Attrs where
  id := mergeText a.id b.id
  size := mergeMessage ⟨0, 0, 0⟩ Size.merge a.size b.size
  pos := mergeMessage ⟨0, 0⟩ Pos.merge a.pos b.pos
  flow := mergeText a.flow b.flow
  visible := if b.visible.isSome then b.visible else a.visible
  cursor := mergeMessage ⟨0, 0, "", none⟩ Cursor.merge a.cursor b.cursor
  content := mergeMessage ⟨"", [], "", SortedMap.empty⟩ Content.merge a.content b.content
  input := a.input ++ b.input
  focused := a.focused || b.focused
  style := mergeText a.style b.style

/-- The set patch keeps the children and replaces the input if it has one. -/
def mergeBox (target box : Box) : Box :=
  .mk { Attrs.merge { target.attrs with input := [] } box.attrs with
    input := if box.attrs.input ≠ [] then box.attrs.input else target.attrs.input } target.children

/-! ### Application -/

/-- Why a view is rejected. -/
inductive Reason
  | baseMismatch
  | pathInvalid
  | maxNodes
  deriving DecidableEq

/-- Rebuild the path to the target and edit the target. -/
def editAt (edit : Box → Except Reason Box) : Box → List Nat → Except Reason Box
  | node, [] => edit node
  | .mk a cs, i :: path =>
    match cs[i]? with
    | none => .error .pathInvalid
    | some c => (editAt edit c path).map fun c' => .mk a (cs.set i c')

section

variable (node : Box) (path : List Nat)

def updateAt (fn : Box → Box) : Except Reason Box :=
  editAt (fun target => .ok (fn target)) node path

def replaceAt (box : Box) : Except Reason Box :=
  editAt (fun _ => .ok box) node path

def insertAt (index : Nat) (box : Box) : Except Reason Box :=
  editAt (fun target =>
    if index ≤ target.children.length then
      .ok (.mk target.attrs (target.children.insertIdx index box))
    else .error .pathInvalid) node path

end

/-- The root cannot be removed. -/
def removeAt : Box → List Nat → Except Reason Box
  | _, [] => .error .pathInvalid
  | .mk a cs, i :: path =>
    match cs[i]? with
    | none => .error .pathInvalid
    | some c =>
      match path with
      | [] => .ok (.mk a (cs.eraseIdx i))
      | next :: rest => (removeAt c (next :: rest)).map fun c' => .mk a (cs.set i c')

def moveAt (node : Box) (path : List Nat) (source target : Nat) : Except Reason Box :=
  editAt (fun node =>
    match node.children[source]? with
    | none => .error .pathInvalid
    | some child =>
      if target < node.children.length then
        if source = target then .ok node
        else .ok (.mk node.attrs ((node.children.eraseIdx source).insertIdx target child))
      else .error .pathInvalid) node path

def applyPatch (root : Box) (p : Patch) : Except Reason Box :=
  match p.op, p.box with
  | .set, some box => updateAt root p.path fun target => mergeBox target box
  | .replace, some box => replaceAt root p.path box
  | .insert, some box => insertAt root p.path p.index box
  | .remove, _ => removeAt root p.path
  | .move, _ => moveAt root p.path p.moveFrom p.moveTo
  | .set, none | .replace, none | .insert, none | .unknown, _ => .error .pathInvalid

def applyPatches : Box → List Patch → Except Reason Box
  | root, [] => .ok root
  | root, p :: patches =>
    match applyPatch root p with
    | .error reason => .error reason
    | .ok next => applyPatches next patches

/-! ### Equality on the wire -/

/-- The fields as the protocol reads them: an absent visibility is true. -/
def Attrs.normal (a : Attrs) : Attrs :=
  { a with
    visible := some (visibleEffective a)
    cursor := a.cursor.map fun c => { c with visible := some (c.visible.getD true) } }

mutual

def Box.normal : Box → Box
  | .mk a cs => .mk a.normal (normalChildren cs)

def normalChildren : List Box → List Box
  | [] => []
  | c :: cs => c.normal :: normalChildren cs

end

/-- The boxes mean the same on the wire. -/
def ProtocolEqual (b b' : Box) : Prop := b.normal = b'.normal

end Anytty.Tui.View
