import Anytty.FileSystem.Tree

/-!
# Changes of a file system tree

Making a node, removing a node with all below it and moving it, as changes of the tree at a place,
and the calls of the operating system that do so at the end of a path.
-/

namespace Anytty.FileSystem

open List

open Anytty.Data (SortedMap)

namespace Tree

variable (fs : Tree)

/-- The places of all nodes. -/
def places : List Path := fs.nodes.entries.map Prod.fst

theorem mem_places {fs : Tree} {path : Path} : path ∈ fs.places ↔ ∃ node, fs.lookup path = some node := by
  unfold places lookup
  rw [mem_map]
  constructor
  · rintro ⟨⟨_, node⟩, mem, rfl⟩
    exact ⟨node, SortedMap.lookup_eq_some.2 mem⟩
  · rintro ⟨node, found⟩
    exact ⟨(path, node), SortedMap.lookup_eq_some.1 found, rfl⟩

/-- Make a node at a place in a directory that holds no node. -/
def create (place : Path) (node : Node)
    (fits : isDirAt fs.nodes place.dropLast = true ∧ fs.lookup place = none) : Tree where
  nodes := fs.nodes.insert place node
  root := by
    obtain ⟨info, root⟩ := fs.root
    have ne : ([] : Path) ≠ place := by
      rintro rfl
      cases fits.2.symm.trans root
    exact ⟨info, (SortedMap.lookup_insert ..).trans ((if_neg ne).trans root)⟩
  closed := by
    intro path name node' found
    rw [SortedMap.lookup_insert] at found
    obtain ⟨info, above⟩ : ∃ info, fs.lookup path = some (.dir info) := by
      split at found
      · next same =>
        have above := isDirAt_eq_true fits.1
        rw [← same, dropLast_concat] at above
        exact above
      · exact fs.closed path name node' found
    have ne : path ≠ place := by
      rintro rfl
      cases fits.2.symm.trans above
    exact ⟨info, (SortedMap.lookup_insert ..).trans ((if_neg ne).trans above)⟩

theorem lookup_create (fs : Tree) (place : Path) (node : Node)
    (fits : isDirAt fs.nodes place.dropLast = true ∧ fs.lookup place = none) (path : Path) :
    (fs.create place node fits).lookup path = if path = place then some node else fs.lookup path := by
  refine (SortedMap.lookup_insert ..).trans ?_
  by_cases same : path = place
  · rw [if_pos same, if_pos same]
  · rw [if_neg same, if_neg same]
    rfl

/-- Remove the nodes at and below a place; the root directory stays. -/
def remove (place : Path) : Tree where
  nodes := .tabulate fs.places fun path => if path ≠ [] ∧ place <+: path then none else fs.lookup path
  root := by
    obtain ⟨info, root⟩ := fs.root
    refine ⟨info, ?_⟩
    rw [SortedMap.lookup_tabulate, if_pos (mem_places.2 ⟨_, root⟩), if_neg fun gone => gone.1 rfl]
    exact root
  closed := by
    intro path name node found
    rw [SortedMap.lookup_tabulate] at found
    split at found
    · split at found
      · cases found
      · next kept =>
        obtain ⟨info, above⟩ := fs.closed path name node found
        refine ⟨info, ?_⟩
        rw [SortedMap.lookup_tabulate, if_pos (mem_places.2 ⟨_, above⟩), if_neg]
        · exact above
        · rintro ⟨_, below⟩
          exact kept ⟨append_ne_nil_of_right_ne_nil _ (cons_ne_nil _ _),
            below.trans (prefix_append _ _)⟩
    · cases found

theorem lookup_remove (fs : Tree) (place path : Path) :
    (fs.remove place).lookup path =
      if path ≠ [] ∧ place <+: path then none else fs.lookup path := by
  refine (SortedMap.lookup_tabulate ..).trans ?_
  by_cases mem : path ∈ fs.places
  · rw [if_pos mem]
  have missing : fs.lookup path = none :=
    Option.eq_none_iff_forall_ne_some.2 fun node found => mem (mem_places.2 ⟨node, found⟩)
  rw [if_neg mem, missing, ite_self]

/-- The place that `path`, at or below `target`, has moved from. -/
def movedFrom (source target path : Path) : Path := source ++ path.drop target.length

theorem movedFrom_append (source target rest : Path) :
    movedFrom source target (target ++ rest) = source ++ rest := by
  unfold movedFrom
  rw [drop_left]

/-- The nodes after all at and below `source` has moved to `target`. -/
def moveNodes (source target : Path) : SortedMap Path Node :=
  .tabulate (fs.places ++ fs.places.map (movedFrom target source)) fun path =>
    if target <+: path then fs.lookup (movedFrom source target path)
    else if source <+: path then none
    else fs.lookup path

theorem lookup_moveNodes (fs : Tree) (source target path : Path) :
    (fs.moveNodes source target).lookup path =
      if target <+: path then fs.lookup (movedFrom source target path)
      else if source <+: path then none
      else fs.lookup path := by
  refine (SortedMap.lookup_tabulate ..).trans ?_
  split
  · rfl
  next out =>
  rw [mem_append, not_or] at out
  have missing : fs.lookup path = none :=
    Option.eq_none_iff_forall_ne_some.2 fun node found => out.1 (mem_places.2 ⟨node, found⟩)
  split
  · next below =>
    obtain ⟨rest, rfl⟩ := below
    rw [movedFrom_append]
    refine (Option.eq_none_iff_forall_ne_some.2 fun node found => ?_).symm
    exact out.2 (mem_map.2 ⟨_, mem_places.2 ⟨node, found⟩, movedFrom_append ..⟩)
  · rw [missing, ite_self]

/-- Move the nodes at and below a place to a place in a directory that holds no node. -/
def move (source target : Path)
    (fits : isDirAt fs.nodes target.dropLast = true ∧ fs.lookup target = none ∧ source ≠ [] ∧
      ¬ source <+: target) : Tree where
  nodes := fs.moveNodes source target
  root := by
    obtain ⟨info, root⟩ := fs.root
    have missing := fits.2.1
    refine ⟨info, ?_⟩
    rw [lookup_moveNodes, if_neg, if_neg]
    · exact root
    · exact fun below => fits.2.2.1 (prefix_nil.1 below)
    · intro below
      rw [prefix_nil.1 below] at missing
      cases missing.symm.trans root
  closed := by
    intro path name node found
    obtain ⟨isDir, _, _, apart⟩ := fits
    rw [lookup_moveNodes] at found ⊢
    split at found
    · next below =>
      rcases prefix_concat_iff.1 below with rfl | below
      · -- The new place itself lies in the directory that was there before.
        rw [dropLast_concat] at isDir
        rw [if_neg, if_neg]
        · exact isDirAt_eq_true isDir
        · exact fun below => apart (below.trans (prefix_append _ _))
        · exact fun below => absurd below.length_le (by simp)
      · obtain ⟨rest, rfl⟩ := below
        rw [if_pos (prefix_append _ _), movedFrom_append]
        rw [List.append_assoc, movedFrom_append, ← List.append_assoc] at found
        exact fs.closed _ name node found
    · next out =>
      split at found
      · cases found
      next out' =>
      rw [if_neg fun below => out (below.trans (prefix_append _ _)),
        if_neg fun below => out' (below.trans (prefix_append _ _))]
      exact fs.closed path name node found

/-! ### The calls -/

/-- Make a node at the end of a path; there must be none, a link included. -/
def make (path : Path) (node : Node) : Except Errno Tree :=
  match fs.locate path with
  | .error errno => .error errno
  | .ok place =>
    if fits : isDirAt fs.nodes place.dropLast = true ∧ fs.lookup place = none then
      .ok (fs.create place node fits)
    else .error .exist

/-- `RemoveAll`: a path that leads nowhere is fine, the root directory itself cannot be removed. -/
def removeAll (path : Path) : Tree × Option Errno :=
  match fs.locate path with
  | .error .notExist => (fs, none)
  | .error errno => (fs, some errno)
  | .ok place => (fs.remove place, if place = [] then some .invalid else none)

/-- `Rename` to a path with no node at its end. -/
def rename (source target : Path) : Except Errno Tree :=
  match fs.locate source with
  | .error errno => .error errno
  | .ok oldPlace =>
    match fs.locate target with
    | .error errno => .error errno
    | .ok newPlace =>
      if fs.lookup oldPlace = none then .error .notExist
      else if fits : isDirAt fs.nodes newPlace.dropLast = true ∧ fs.lookup newPlace = none ∧
          oldPlace ≠ [] ∧ ¬ oldPlace <+: newPlace then .ok (fs.move oldPlace newPlace fits)
      else .error .invalid

end Tree

end Anytty.FileSystem
