import Mathlib

/-!
# Clean absolute paths

A clean absolute path is the list of its names. A path text is split at its slashes into segments
and cleaned segment by segment, `..` dropping the last name that is left.
-/

namespace Anytty.FileSystem

open List

/-- A name of a directory entry. -/
def Name : Type := { s : String // s ≠ "" ∧ s ≠ "." ∧ s ≠ ".." ∧ '/' ∉ s.toList }

instance : LinearOrder Name :=
  inferInstanceAs (LinearOrder { s : String // s ≠ "" ∧ s ≠ "." ∧ s ≠ ".." ∧ '/' ∉ s.toList })

/-- The names of a clean absolute path, from the root on. -/
abbrev Path : Type := List Name

inductive Segment
  | stay
  | up
  | name (name : Name)
deriving DecidableEq

def Segment.ofString (s : String) : Segment :=
  if h : s ≠ "" ∧ s ≠ "." ∧ s ≠ ".." ∧ '/' ∉ s.toList then .name ⟨s, h⟩
  else if s = ".." then .up
  else .stay

/-- The segments between the slashes of a path text. -/
def segments (text : String) : List Segment :=
  (text.toList.splitOn '/').map fun segment => .ofString (String.ofList segment)

def isAbs (text : String) : Bool := text.toList.head? = some '/'

def cleanStep (base : Path) : Segment → Path
  | .stay => base
  | .up => base.dropLast
  | .name name => base ++ [name]

/-- Go on from a clean path by the segments. -/
def clean (base : Path) (segments : List Segment) : Path := segments.foldl cleanStep base

/-- The text of the names, each after a slash. -/
def slashed (path : Path) : List Char := path.flatMap fun name => '/' :: name.val.toList

/-- The text of a clean path. -/
def render (path : Path) : List Char := if path = [] then ['/'] else slashed path

theorem slashed_cons (name : Name) (path : Path) :
    slashed (name :: path) = '/' :: (name.val.toList ++ slashed path) := rfl

theorem slashed_append (path path' : Path) : slashed (path ++ path') = slashed path ++ slashed path' :=
  flatMap_append

/-- A text without slashes that goes on with a slash or ends is read back from what follows it. -/
theorem append_slash_inj {a b rest rest' : List Char} (clear : '/' ∉ a) (clear' : '/' ∉ b)
    (slash : rest.head? = none ∨ rest.head? = some '/')
    (slash' : rest'.head? = none ∨ rest'.head? = some '/')
    (same : a ++ rest = b ++ rest') : a = b ∧ rest = rest' := by
  induction a generalizing b with
  | nil =>
    cases b with
    | nil => exact ⟨rfl, same⟩
    | cons c b =>
      subst same
      rcases slash with none | slash
      · cases none
      · cases Option.some.inj slash
        exact absurd mem_cons_self clear'
  | cons c a ih =>
    cases b with
    | nil =>
      subst same
      rcases slash' with none | slash
      · cases none
      · cases Option.some.inj slash
        exact absurd mem_cons_self clear
    | cons d b =>
      obtain ⟨rfl, tails⟩ := List.cons.inj same
      obtain ⟨rfl, rest⟩ := ih (fun mem => clear (mem_cons_of_mem _ mem))
        (fun mem => clear' (mem_cons_of_mem _ mem)) tails
      exact ⟨rfl, rest⟩

theorem slashed_head? (path : Path) : (slashed path).head? = none ∨ (slashed path).head? = some '/' := by
  cases path with
  | nil => exact .inl rfl
  | cons name path => exact .inr rfl

variable {path other : Path}

/-- The text of a path with a slash after it begins the text of another path when the other lies
below the first. -/
theorem slashed_slash_prefix :
    slashed path ++ ['/'] <+: slashed other ↔ ∃ name rest, other = path ++ name :: rest := by
  constructor
  · intro h
    induction path generalizing other with
    | nil =>
      cases other with
      | nil => exact absurd h (by decide)
      | cons name rest => exact ⟨name, rest, rfl⟩
    | cons first path ih =>
      cases other with
      | nil => exact absurd h (by rintro ⟨_, ⟨⟩⟩)
      | cons first' other =>
        obtain ⟨tail, same⟩ := h
        simp only [slashed_cons, cons_append, List.cons.injEq, true_and, List.append_assoc]
          at same
        have slash : (slashed path ++ ('/' :: tail)).head? = none ∨
            (slashed path ++ ('/' :: tail)).head? = some '/' := by
          cases path with
          | nil | cons name path => exact .inr rfl
        obtain ⟨names, rest⟩ := append_slash_inj first.2.2.2.2 first'.2.2.2.2 slash
          (slashed_head? other) same
        have names : first = first' := Subtype.ext (String.toList_inj.1 names)
        obtain ⟨name, rest, below⟩ := ih ⟨tail, by rw [← rest, List.append_assoc]; rfl⟩
        exact ⟨name, rest, by rw [names, below]; rfl⟩
  · rintro ⟨name, rest, rfl⟩
    rw [slashed_append]
    exact ⟨name.val.toList ++ slashed rest, by rw [List.append_assoc]; rfl⟩

theorem slashed_injective (same : slashed path = slashed other) : path = other := by
  induction path generalizing other with
  | nil =>
    cases other with
    | nil => rfl
    | cons name rest => cases same
  | cons first path ih =>
    cases other with
    | nil => cases same
    | cons first' other =>
      obtain ⟨names, rest⟩ := append_slash_inj first.2.2.2.2 first'.2.2.2.2 (slashed_head? path)
        (slashed_head? other) (List.cons.inj same).2
      rw [ih rest, Subtype.ext (String.toList_inj.1 names)]

theorem render_injective (same : render path = render other) : path = other := by
  have single : ∀ {name : Name} {rest : Path}, ['/'] ≠ slashed (name :: rest) := by
    intro name rest same
    have empty : name.val.toList = [] := (append_eq_nil_iff.1 (List.cons.inj same).2.symm).1
    exact name.2.1 (String.toList_inj.1 empty)
  cases path with
  | nil =>
    cases other with
    | nil => rfl
    | cons name rest => exact absurd same single
  | cons name rest =>
    cases other with
    | nil => exact absurd same.symm single
    | cons name' rest' => exact slashed_injective same

theorem slashed_getLast? (nonempty : path ≠ []) : (slashed path).getLast? ≠ some '/' := by
  cases path using List.reverseRecOn with
  | nil => exact absurd rfl nonempty
  | append_singleton path name =>
    intro last
    have text : name.val.toList ≠ [] := fun empty => name.2.1 (String.toList_inj.1 empty)
    have whole : slashed (path ++ [name]) = slashed path ++ ['/'] ++ name.val.toList := by
      rw [slashed_append, slashed_cons, List.append_assoc, show slashed [] = [] from rfl,
        append_nil]
      rfl
    rw [whole, List.getLast?_append_of_ne_nil _ text] at last
    exact name.2.2.2.2 (mem_of_getLast? last)

/-- The texts of two paths are compared as a file service does: they are equal, or one begins with
the other and a slash. -/
theorem render_below {root : Path} :
    (render path = render root ∨
      (if (render root).getLast? = some '/' then render root else render root ++ ['/']) <+:
        render path) ↔ root <+: path := by
  by_cases top : root = []
  · subst top
    refine iff_of_true (.inr ?_) (List.nil_prefix)
    cases path with
    | nil => exact prefix_rfl
    | cons name rest => exact ⟨name.val.toList ++ slashed rest, rfl⟩
  · have text : render root = slashed root := if_neg top
    rw [text, if_neg (slashed_getLast? top), ← text]
    constructor
    · rintro (same | below)
      · exact render_injective same ▸ prefix_rfl
      · by_cases empty : path = []
        · subst empty
          have long := below.length_le
          rw [text] at long
          obtain ⟨name, rest, rfl⟩ := exists_cons_of_ne_nil top
          rw [slashed_cons] at long
          exact absurd long (by simp [render])
        · rw [text, show render path = slashed path from if_neg empty, slashed_slash_prefix] at below
          obtain ⟨name, rest, rfl⟩ := below
          exact prefix_append _ _
    · rintro ⟨rest, rfl⟩
      cases rest with
      | nil => exact .inl (by rw [append_nil])
      | cons name rest =>
        refine .inr ?_
        have whole : render (root ++ name :: rest) = slashed (root ++ name :: rest) :=
          if_neg (append_ne_nil_of_right_ne_nil _ (cons_ne_nil _ _))
        rw [text, whole]
        exact slashed_slash_prefix.2 ⟨name, rest, rfl⟩

end Anytty.FileSystem
