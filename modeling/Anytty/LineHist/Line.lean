import Anytty.Wire.Varint

/-!
# Logical lines and their assembler

Rows that leave the primary screen are joined, following their soft wrap flags, into logical
lines.  A row comes either as styled runs or as cells; `runsFromScrollOut` brings both into runs
of one style, and the assembler keeps the open line until a row ends hard.  Only the text bytes of
the open line are counted: once a wrapped row brings them to the limit, the open runs are emitted
as a chunk that does not end hard.

Go strings are byte lists, and a Go `time.Time` is its distance in nanoseconds from the zero time.
-/

namespace Anytty.LineHist

open Anytty.Wire

/-- An instant, as nanoseconds since the zero time of Go. -/
structure Time where
  nanos : Int
  deriving DecidableEq, Repr

/-- The Unix epoch, in nanoseconds since the zero time. -/
def unixEpoch : Int := 62135596800 * 10 ^ 9

namespace Time

def zero : Time := ⟨0⟩

def isZero (time : Time) : Bool := time.nanos = 0

def after (time other : Time) : Bool := other.nanos < time.nanos

/-- `time.Unix(0, nanos)`. -/
def unix (nanos : Int) : Time := ⟨nanos + unixEpoch⟩

/-- `UnixNano`, which wraps around outside the range of `int64`. -/
def unixNano (time : Time) : Int := (time.nanos - unixEpoch).bmod (2 ^ 64)

end Time

structure CellStyle where
  fg : Bytes := []
  bg : Bytes := []
  bold : Bool := false
  italic : Bool := false
  underline : Bool := false
  blink : Bool := false
  reverse : Bool := false
  strikethrough : Bool := false
  deriving DecidableEq, Repr

/-- Text of one style and one link. -/
structure Run where
  text : Bytes
  style : CellStyle := {}
  linkURL : Bytes := []
  linkParams : Bytes := []
  deriving DecidableEq, Repr

structure Line where
  runs : List Run
  hardEnd : Bool
  updatedAt : Time
  deriving DecidableEq, Repr

/-- `LineText`. -/
def lineText (line : Line) : Bytes := line.runs.flatMap Run.text

/-- The style of a terminal cell, which also holds a link. -/
structure TermStyle where
  style : CellStyle := {}
  linkURL : Bytes := []
  linkParams : Bytes := []
  deriving DecidableEq, Repr

structure TermRun where
  text : Bytes
  style : TermStyle := {}
  deriving DecidableEq, Repr

structure TermCell where
  content : Bytes
  width : Int
  style : TermStyle := {}
  linkURL : Bytes := []
  linkParams : Bytes := []
  deriving DecidableEq, Repr

/-- A row that left the screen.  Ownership and the source row play no part in the assembler. -/
structure ScrollOut where
  cells : List TermCell := []
  runs : List TermRun := []
  timestamp : Time := .zero
  wrapped : Bool := false
  wrappedSet : Bool := false
  deriving DecidableEq, Repr

/-! ### Runs -/

def Run.sameLook (run next : Run) : Bool :=
  run.style = next.style && run.linkURL = next.linkURL && run.linkParams = next.linkParams

/-- Add a run; the last run grows if the new one looks the same. -/
def appendMergedRun (runs : List Run) (next : Run) : List Run :=
  if next.text = [] then runs
  else
    match runs.getLast? with
    | some last =>
      if last.sameLook next then runs.dropLast ++ [{ last with text := last.text ++ next.text }]
      else runs ++ [next]
    | none => [next]

def TermRun.toRun (run : TermRun) : Run :=
  ⟨run.text, run.style.style, run.style.linkURL, run.style.linkParams⟩

/-- The byte of a blank. -/
def space : UInt8 := 0x20

/-- A cell as a run; a cell without text and width continues a wide character. -/
def TermCell.toRun (cell : TermCell) : Option Run :=
  if cell.content = [] ∧ cell.width ≤ 0 then none
  else
    let text := if cell.content = [] then List.replicate cell.width.toNat space else cell.content
    if cell.linkURL = [] ∧ cell.linkParams = [] then
      some ⟨text, cell.style.style, cell.style.linkURL, cell.style.linkParams⟩
    else some ⟨text, cell.style.style, cell.linkURL, cell.linkParams⟩

/-- The runs of a row: its styled runs if it has any, otherwise its cells. -/
def runsFromScrollOut (row : ScrollOut) : List Run :=
  if row.runs ≠ [] then (row.runs.map TermRun.toRun).foldl appendMergedRun []
  else (row.cells.filterMap TermCell.toRun).foldl appendMergedRun []

/-- The text without the blanks at its end. -/
def trimRight (text : Bytes) : Bytes := (text.reverse.dropWhile (· = space)).reverse

/-- Drop the unstyled blanks at the end of a line, given with the last run first. -/
def trimPadding : List Run → List Run
  | [] => []
  | last :: runs =>
    if last.style ≠ {} ∨ last.linkURL ≠ [] ∨ last.linkParams ≠ [] then last :: runs
    else if trimRight last.text ≠ [] then { last with text := trimRight last.text } :: runs
    else trimPadding runs

def trimTrailingPaddingRuns (runs : List Run) : List Run := (trimPadding runs.reverse).reverse

/-! ### The assembler -/

def defaultMaxOpenLineBytes : Nat := 256 * 1024

structure Assembler where
  openRuns : List Run := []
  openBytes : Nat := 0
  maxOpen : Nat := defaultMaxOpenLineBytes
  updatedAt : Time := .zero
  deriving DecidableEq, Repr

namespace Assembler

/-- The assembler with nothing open. -/
def cleared (asm : Assembler) : Assembler :=
  { asm with openRuns := [], openBytes := 0, updatedAt := .zero }

/-- The assembler after the runs and the timestamp of a row. -/
def absorb (asm : Assembler) (row : ScrollOut) : Assembler where
  openRuns := (runsFromScrollOut row).foldl appendMergedRun asm.openRuns
  openBytes := (runsFromScrollOut row).foldl (fun bytes run => bytes + run.text.length) asm.openBytes
  maxOpen := if asm.maxOpen = 0 then defaultMaxOpenLineBytes else asm.maxOpen
  updatedAt := if row.timestamp.after asm.updatedAt then row.timestamp else asm.updatedAt

/-- Take one row; the lines it completes. -/
def appendEvictedRow (asm : Assembler) (row : ScrollOut) : Assembler × List Line :=
  let asm := asm.absorb row
  if row.wrappedSet && row.wrapped then
    if asm.openBytes < asm.maxOpen then (asm, [])
    else (asm.cleared, [⟨asm.openRuns, false, asm.updatedAt⟩])
  else (asm.cleared, [⟨trimTrailingPaddingRuns asm.openRuns, true, asm.updatedAt⟩])

/-- Close the open line at a boundary. -/
def sealOpen (asm : Assembler) : Assembler × Option Line :=
  if asm.openRuns = [] then (asm, none)
  else (asm.cleared, some ⟨trimTrailingPaddingRuns asm.openRuns, true, asm.updatedAt⟩)

/-- The assemblers a sequence of rows and seals leads to, with the lines emitted on the way. -/
inductive Emits : Assembler → List Line → Prop where
  | start : Emits {} []
  | row {asm : Assembler} {lines : List Line} (row : ScrollOut) (before : Emits asm lines) :
      Emits (asm.appendEvictedRow row).1 (lines ++ (asm.appendEvictedRow row).2)
  | sealOpen {asm : Assembler} {lines : List Line} (before : Emits asm lines) :
      Emits asm.sealOpen.1 (lines ++ asm.sealOpen.2.toList)

end Assembler

/-- A line the assembler can emit. -/
def Emittable (line : Line) : Prop := ∃ asm lines, Assembler.Emits asm lines ∧ line ∈ lines

end Anytty.LineHist
