import Anytty.Data.SortedMap

/-!
# The nodes of the layout kernel

A node is one box of the view as the kernel solves it. Its geometry is a rectangle of cells; its
intrinsic size is that of its content. A node has a reference, the address of the Go struct: a
cached layout is stored at the node, and a later tree may contain the node again.
-/

namespace Anytty.Kernel

open Anytty.Data (SortedMap)

/-! ### Rectangles -/

/-- The cells with columns `x` to `x + width` and rows `y` to `y + height`. -/
structure Rect where
  x : Int
  y : Int
  width : Int
  height : Int
  deriving DecidableEq, Inhabited

def Rect.empty (r : Rect) : Bool := r.width ≤ 0 || r.height ≤ 0

def Rect.area (r : Rect) : Int := if r.empty then 0 else r.width * r.height

def Rect.contains (r : Rect) (x y : Int) : Bool :=
  r.x ≤ x && x < r.x + r.width && r.y ≤ y && y < r.y + r.height

def normalizeRect (r : Rect) : Rect :=
  { r with width := max r.width 0, height := max r.height 0 }

/-! ### Display width -/

def wideRanges : List (Nat × Nat) :=
  [(0x1100, 0x115F), (0x2329, 0x232A), (0x2E80, 0x303E), (0x3041, 0x33FF), (0x3400, 0x4DBF),
    (0x4E00, 0x9FFF), (0xA000, 0xA4CF), (0xA960, 0xA97F), (0xAC00, 0xD7A3), (0xF900, 0xFAFF),
    (0xFE10, 0xFE19), (0xFE30, 0xFE6F), (0xFF00, 0xFF60), (0xFFE0, 0xFFE6), (0x16FE0, 0x16FE4),
    (0x17000, 0x18AFF), (0x1B000, 0x1B2FF), (0x1F000, 0x1F02F), (0x1F0CF, 0x1F0CF),
    (0x1F18E, 0x1F18E), (0x1F191, 0x1F19A), (0x1F1E6, 0x1F1FF), (0x1F200, 0x1F2FF),
    (0x1F300, 0x1F64F), (0x1F680, 0x1F6FF), (0x1F7E0, 0x1F7EB), (0x1F900, 0x1F9FF),
    (0x1FA70, 0x1FAFF), (0x20000, 0x3FFFD)]

def zeroRanges : List (Nat × Nat) :=
  [(0, 0x1F), (0x7F, 0x9F), (0x0300, 0x036F), (0x0483, 0x0489), (0x0591, 0x05BD),
    (0x1AB0, 0x1AFF), (0x1DC0, 0x1DFF), (0x200B, 0x200F), (0x2028, 0x202E), (0x2060, 0x2064),
    (0x20D0, 0x20FF), (0xFE00, 0xFE0F), (0xFE20, 0xFE2F), (0xFEFF, 0xFEFF)]

def inRanges (ranges : List (Nat × Nat)) (r : Nat) : Bool :=
  ranges.any fun range => range.1 ≤ r && r ≤ range.2

/-- The cells of a rune: none for controls and combining marks, two for wide runes. -/
def runeWidth (c : Char) : Int :=
  if inRanges zeroRanges c.toNat then 0 else if inRanges wideRanges c.toNat then 2 else 1

def charsWidth (cs : List Char) : Int := (cs.map runeWidth).sum

def displayWidth (s : String) : Int := charsWidth s.toList

/-- The longest start of the text within the width; a zero-width rune always fits. -/
def truncateChars (maxWidth : Int) : Int → List Char → List Char
  | _, [] => []
  | width, c :: cs =>
    if maxWidth < width + runeWidth c ∧ 0 < runeWidth c then []
    else c :: truncateChars maxWidth (width + runeWidth c) cs

def truncate (s : String) (maxWidth : Int) : String :=
  if maxWidth ≤ 0 then "" else String.ofList (truncateChars maxWidth 0 s.toList)

/-! ### Nodes -/

structure Size where
  width : Int
  height : Int
  flex : Int
  deriving DecidableEq

structure Pos where
  x : Int
  y : Int
  deriving DecidableEq

structure Content where
  text : String
  lines : List String
  self : String
  props : SortedMap String String
  deriving DecidableEq

structure Cursor where
  row : Int
  col : Int
  shape : String
  visible : Option Bool
  deriving DecidableEq

/-- The fields of a node other than its children. -/
structure Attrs where
  id : String
  size : Size
  pos : Option Pos
  flow : String
  visible : Option Bool
  style : String
  content : Option Content
  cursor : Option Cursor
  input : List String
  focused : Bool
  deriving DecidableEq

/-- A node with its address. -/
inductive Node
  | mk (ref : Nat) (attrs : Attrs) (children : List Node)

def Node.ref : Node → Nat
  | .mk ref _ _ => ref

def Node.attrs : Node → Attrs
  | .mk _ attrs _ => attrs

def Node.children : Node → List Node
  | .mk _ _ children => children

def Attrs.isVisible (a : Attrs) : Bool := a.visible.getD true

inductive Flow
  | col
  | row
  | stack
  deriving DecidableEq

def Attrs.effectiveFlow (a : Attrs) : Flow :=
  if a.flow = "row" then .row else if a.flow = "stack" then .stack else .col

def Attrs.cursorVisible (a : Attrs) : Bool :=
  match a.cursor with
  | none => false
  | some c => c.visible.getD true

/-- The text split at its line feeds. -/
def splitLines : List Char → List (List Char)
  | [] => [[]]
  | '\n' :: cs => [] :: splitLines cs
  | c :: cs =>
    match splitLines cs with
    | [] => [[c]]
    | line :: lines => (c :: line) :: lines

/-- The effective lines of the content: its lines, else its text. -/
def Attrs.contentLines (a : Attrs) : List String :=
  match a.content with
  | none => []
  | some content =>
    if content.lines ≠ [] then content.lines
    else if content.text = "" then []
    else (splitLines content.text.toList).map String.ofList

/-- The size of the content; zero means that there is none. -/
def Attrs.intrinsicSize (a : Attrs) : Int × Int :=
  ((a.contentLines.map displayWidth).foldl max 0, a.contentLines.length)

end Anytty.Kernel
