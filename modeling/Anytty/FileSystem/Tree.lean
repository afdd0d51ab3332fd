import Anytty.Data.SortedMap
import Anytty.FileSystem.Path

/-!
# File system trees

A file system is a finite map from clean absolute paths to nodes in which every node but the root
lies in a directory. The calls that read it walk a path as the operating system does: name by name,
following symbolic links up to a limit, `..` leading to the directory above.
-/

namespace Anytty.FileSystem

open List

open Anytty.Data (SortedMap)

/-- What a call to `stat` reports besides the kind; the size of a file is that of its content. -/
structure Info where
  size : Int
  mode : Nat
  modTime : Int
deriving DecidableEq

inductive Node
  | file (info : Info) (content : List UInt8)
  | dir (info : Info)
  | symlink (info : Info) (target : String)
  | other (info : Info)
deriving DecidableEq

namespace Node

def info : Node → Info
  | file info _ | dir info | symlink info _ | other info => info

def size : Node → Int
  | file _ content => content.length
  | node => node.info.size

def isDir : Node → Bool
  | dir _ => true
  | _ => false

def isSymlink : Node → Bool
  | symlink .. => true
  | _ => false

def isRegular : Node → Bool
  | file .. => true
  | _ => false

end Node

inductive Errno
  | notExist
  | notDir
  | exist
  | loop
  | invalid
  | isDir
deriving DecidableEq

structure Tree where
  nodes : SortedMap Path Node
  root : ∃ info, nodes.lookup [] = some (.dir info)
  closed : ∀ path name node, nodes.lookup (path ++ [name]) = some node →
    ∃ info, nodes.lookup path = some (.dir info)

namespace Tree

def isDirAt (nodes : SortedMap Path Node) (path : Path) : Bool :=
  match nodes.lookup path with
  | some (.dir _) => true
  | _ => false

theorem isDirAt_eq_true {nodes : SortedMap Path Node} {path : Path} (h : isDirAt nodes path = true) :
    ∃ info, nodes.lookup path = some (.dir info) := by
  unfold isDirAt at h
  split at h
  · next info found => exact ⟨info, found⟩
  · cases h

/-- The tree with the given entries, which are checked. -/
def ofEntries (entries : List (Path × Node))
    (check : isDirAt (.build entries) [] = true ∧
      ∀ entry ∈ (SortedMap.build entries).entries,
        isDirAt (.build entries) entry.1.dropLast = true) : Tree where
  nodes := .build entries
  root := isDirAt_eq_true check.1
  closed := by
    intro path name node found
    have above := check.2 _ (SortedMap.lookup_eq_some.1 found)
    rw [dropLast_concat] at above
    exact isDirAt_eq_true above

variable (fs : Tree)

def lookup (path : Path) : Option Node := fs.nodes.lookup path

/-- Walk from a directory until a link is met, which `follow` goes on from. -/
def walkFrom (follow : Path → List Segment → Except Errno Path) :
    Path → List Segment → Except Errno Path
  | current, [] => .ok current
  | current, .stay :: rest => walkFrom follow current rest
  | current, .up :: rest => walkFrom follow current.dropLast rest
  | current, .name name :: rest =>
    match fs.lookup (current ++ [name]) with
    | none => .error .notExist
    | some (.symlink _ target) =>
      follow (if isAbs target then [] else current) (segments target ++ rest)
    | some (.dir _) => walkFrom follow (current ++ [name]) rest
    | some _ => if rest = [] then .ok (current ++ [name]) else .error .notDir

/-- Walk with a number of links to follow. -/
def walk : Nat → Path → List Segment → Except Errno Path
  | 0 => fs.walkFrom fun _ _ => .error .loop
  | links + 1 => fs.walkFrom (walk links)

def maxLinks : Nat := 40

section

variable (path : Path)

/-- The node that a path leads to, links followed. -/
def follow : Except Errno Path := fs.walk maxLinks [] (path.map .name)

/-- The place of the entry that a path names, its last name not followed. -/
def locate : Except Errno Path :=
  match path.getLast? with
  | none => .ok []
  | some name => do
    let directory ← fs.follow path.dropLast
    match fs.lookup directory with
    | some (.dir _) => .ok (directory ++ [name])
    | _ => .error .notDir

/-- The node at a place. -/
def node (path : Path) : Except Errno Node :=
  match fs.lookup path with
  | some node => .ok node
  | none => .error .notExist

def lstat : Except Errno Node := do fs.node (← fs.locate path)

def stat : Except Errno Node := do fs.node (← fs.follow path)

def readlink : Except Errno String := do
  match ← fs.lstat path with
  | .symlink _ target => .ok target
  | _ => .error .invalid

/-- The names in the directory at a place. -/
def names (directory : Path) : List Name :=
  fs.nodes.entries.filterMap fun entry =>
    match entry.1.getLast? with
    | some name => if entry.1 = directory ++ [name] then some name else none
    | none => none

def readDir : Except Errno (List Name) := do
  let directory ← fs.follow path
  match ← fs.node directory with
  | .dir _ => .ok (fs.names directory)
  | _ => .error .notDir

end

variable {fs} {path current directory reached place : Path} {node : Node} {fs' : Tree}
  {rest : List Segment} {name : Name} {info : Info} {links : Nat}

theorem lookup_prefix {rest : Path} (found : fs.lookup (path ++ rest) = some node)
    (proper : rest ≠ []) : ∃ info, fs.lookup path = some (.dir info) := by
  induction rest using List.reverseRecOn generalizing node with
  | nil => exact absurd rfl proper
  | append_singleton rest name ih =>
    rw [← List.append_assoc] at found
    obtain ⟨info, above⟩ := fs.closed _ name node found
    by_cases empty : rest = []
    · rw [empty, append_nil] at above
      exact ⟨info, above⟩
    · exact ih above empty

theorem lookup_of_prefix {other : Path} (found : fs.lookup other = some node)
    (below : path <+: other) (ne : path ≠ other) : ∃ info, fs.lookup path = some (.dir info) := by
  obtain ⟨rest, rfl⟩ := below
  refine lookup_prefix found ?_
  rintro rfl
  exact ne (append_nil path).symm

variable {follow : Path → List Segment → Except Errno Path}

/-- A walk along directories that exist meets no link. -/
theorem walkFrom_names {names : Path} (found : fs.lookup (current ++ names) = some node)
    (plain : node.isSymlink = false) :
    fs.walkFrom follow current (names.map .name) = .ok (current ++ names) := by
  induction names generalizing current with
  | nil =>
    rw [append_nil]
    rfl
  | cons name names ih =>
    have split : current ++ name :: names = current ++ [name] ++ names :=
      (List.append_assoc current [name] names).symm
    rw [split] at found ⊢
    rw [map_cons, walkFrom]
    cases names with
    | nil =>
      rw [append_nil] at found ⊢
      rw [found]
      cases node with
      | symlink => cases plain
      | dir | file | other => rfl
    | cons next names =>
      obtain ⟨info, above⟩ := lookup_prefix found (cons_ne_nil _ _)
      rw [above]
      exact ih found

theorem walk_names (links : Nat) (found : fs.lookup path = some node)
    (plain : node.isSymlink = false) : fs.walk links [] (path.map .name) = .ok path := by
  cases links with
  | zero | succ links => exact walkFrom_names found plain

theorem follow_plain (found : fs.lookup path = some node) (plain : node.isSymlink = false) :
    fs.follow path = .ok path :=
  walk_names maxLinks found plain

variable (fs) in
/-- No node on the path is a link. -/
def LinkFree (path : Path) : Prop :=
  ∀ sub node, sub <+: path → fs.lookup sub = some node → node.isSymlink = false

theorem LinkFree.nil : fs.LinkFree [] := by
  intro sub node below found
  obtain ⟨info, root⟩ := fs.root
  rw [prefix_nil.1 below] at found
  cases root.symm.trans found
  rfl

theorem LinkFree.concat (h : fs.LinkFree path)
    (plain : ∀ node, fs.lookup (path ++ [name]) = some node → node.isSymlink = false) :
    fs.LinkFree (path ++ [name]) := by
  intro sub node below found
  rcases prefix_concat_iff.1 below with rfl | below
  · exact plain node found
  · exact h sub node below found

/-- Nothing lies below a path that does not exist. -/
theorem LinkFree.append_missing {rest : Path} (h : fs.LinkFree path)
    (missing : fs.lookup path = none) : fs.LinkFree (path ++ rest) := by
  intro sub node below found
  rcases prefix_or_prefix_of_prefix below (prefix_append path rest) with below | below
  · exact h sub node below found
  obtain ⟨rest', rfl⟩ := below
  by_cases empty : rest' = []
  · subst empty
    rw [append_nil] at found
    cases missing.symm.trans found
  · obtain ⟨info, found⟩ := lookup_prefix found empty
    cases missing.symm.trans found

/-- The entry of a directory that is reached without links. -/
theorem lstat_plain (found : fs.lookup path = some node) (plain : node.isSymlink = false) :
    fs.lstat (path ++ [name]) =
      if node.isDir then fs.node (path ++ [name]) else .error .notDir := by
  have walked : fs.follow (path ++ [name]).dropLast = .ok path := by
    rw [dropLast_concat, follow_plain found plain]
  unfold lstat locate
  rw [List.getLast?_concat, walked]
  simp only [bind, Except.bind, found]
  cases node <;> rfl

theorem node_eq_ok : fs.node path = .ok node ↔ fs.lookup path = some node := by
  unfold Tree.node
  split
  · next node' found =>
    rw [found]
    exact ⟨fun same => congrArg some (Except.ok.inj same), fun same => congrArg _ (Option.some.inj same)⟩
  · next none =>
    rw [none]
    exact ⟨nofun, nofun⟩

theorem node_eq_error {errno : Errno} (failed : fs.node path = .error errno) :
    fs.lookup path = none ∧ errno = .notExist := by
  unfold Tree.node at failed
  split at failed
  · cases failed
  · next none => exact ⟨none, (Except.error.inj failed).symm⟩

/-- A walk along a path without links ends at the path. -/
theorem walkFrom_linkFree {names : Path} (free : fs.LinkFree (current ++ names))
    (walked : fs.walkFrom follow current (names.map .name) = .ok reached) :
    reached = current ++ names := by
  induction names generalizing current with
  | nil => rw [append_nil, ← Except.ok.inj walked]
  | cons name names ih =>
    have split : current ++ name :: names = current ++ [name] ++ names :=
      (List.append_assoc current [name] names).symm
    rw [split] at free ⊢
    rw [map_cons, walkFrom] at walked
    split at walked
    · cases walked
    · next found => cases free _ _ (prefix_append _ _) found
    · exact ih free walked
    split at walked
    · next last =>
      rw [map_eq_nil_iff.1 last, append_nil, ← Except.ok.inj walked]
    · cases walked

theorem follow_linkFree (free : fs.LinkFree path) (walked : fs.follow path = .ok reached) :
    reached = path :=
  @walkFrom_linkFree fs [] reached _ path free walked

theorem ok_of_bind {α β : Type} {first : Except Errno α} {next : α → Except Errno β} {result : β}
    (done : (first >>= next) = .ok result) : ∃ value, first = .ok value ∧ next value = .ok result := by
  cases first with
  | error errno => cases done
  | ok value => exact ⟨value, rfl, done⟩

theorem stat_linkFree (free : fs.LinkFree path) (found : fs.stat path = .ok node) :
    fs.lookup path = some node := by
  obtain ⟨reached, walked, found⟩ := ok_of_bind found
  rw [← follow_linkFree free walked]
  exact node_eq_ok.1 found

theorem locate_eq_ok (located : fs.locate path = .ok place) :
    (path = [] ∧ place = []) ∨ ∃ parent name directory info, path = parent ++ [name] ∧
      fs.follow parent = .ok directory ∧ fs.lookup directory = some (.dir info) ∧
      place = directory ++ [name] := by
  cases path using List.reverseRecOn with
  | nil => exact .inl ⟨rfl, (Except.ok.inj located).symm⟩
  | append_singleton parent name =>
    unfold locate at located
    rw [List.getLast?_concat, dropLast_concat] at located
    obtain ⟨directory, walked, located⟩ := ok_of_bind located
    split at located
    · next info isDir =>
      exact .inr ⟨parent, name, directory, info, rfl, walked, isDir, (Except.ok.inj located).symm⟩
    · cases located

theorem lstat_eq_ok (found : fs.lstat path = .ok node) :
    ∃ place, fs.locate path = .ok place ∧ fs.lookup place = some node := by
  obtain ⟨place, located, found⟩ := ok_of_bind found
  exact ⟨place, located, node_eq_ok.1 found⟩

theorem lstat_of_locate (located : fs.locate path = .ok place) (found : fs.lookup place = some node) :
    fs.lstat path = .ok node := by
  unfold lstat
  rw [located]
  exact node_eq_ok.2 found

theorem lstat_linkFree (free : fs.LinkFree path.dropLast) (found : fs.lstat path = .ok node) :
    fs.lookup path = some node := by
  obtain ⟨place, located, found⟩ := lstat_eq_ok found
  rcases locate_eq_ok located with ⟨rfl, rfl⟩ | ⟨parent, name, directory, info, rfl, walked, -, rfl⟩
  · exact found
  · rw [dropLast_concat] at free
    rwa [follow_linkFree free walked] at found

/-! ### The names of a directory -/

theorem mem_names :
    name ∈ fs.names directory ↔ ∃ node, fs.lookup (directory ++ [name]) = some node := by
  unfold names
  rw [mem_filterMap]
  constructor
  · rintro ⟨⟨path, node⟩, mem, isName⟩
    split at isName
    · next last =>
      split at isName
      · next whole =>
        cases isName
        exact ⟨node, SortedMap.lookup_eq_some.2 (whole ▸ mem)⟩
      · cases isName
    · cases isName
  · rintro ⟨node, found⟩
    refine ⟨(directory ++ [name], node), SortedMap.lookup_eq_some.1 found, ?_⟩
    rw [List.getLast?_concat]
    exact if_pos rfl

theorem names_sorted (directory : Path) : (fs.names directory).Pairwise (· < ·) := by
  refine fs.nodes.sorted.filterMap _ ?_
  rintro ⟨path, _⟩ ⟨path', _⟩ lt name isName name' isName'
  have whole : ∀ {path : Path} {name : Name}, (match path.getLast? with
      | some name => if path = directory ++ [name] then some name else none
      | none => none) = some name → path = directory ++ [name] := by
    intro path name isName
    split at isName
    · split at isName
      · next whole => exact Option.some.inj isName ▸ whole
      · cases isName
    · cases isName
  rw [whole isName, whole isName'] at lt
  by_contra le
  rcases (not_lt.1 le).lt_or_eq with lt' | rfl
  · exact lt_asymm lt (append_left_lt (cons_lt_cons_iff.2 (.inl lt')))
  · exact lt_irrefl _ lt

theorem readDir_eq_ok {names : List Name} (read : fs.readDir path = .ok names) :
    ∃ reached info, fs.follow path = .ok reached ∧ fs.lookup reached = some (.dir info) ∧
      names = fs.names reached := by
  obtain ⟨reached, walked, read⟩ := ok_of_bind read
  obtain ⟨node, isNode, read⟩ := ok_of_bind read
  split at read
  · next info => exact ⟨reached, info, walked, node_eq_ok.1 isNode, (Except.ok.inj read).symm⟩
  · cases read

theorem readDir_linkFree {names : List Name} (free : fs.LinkFree path)
    (read : fs.readDir path = .ok names) : names = fs.names path := by
  obtain ⟨reached, info, walked, -, rfl⟩ := readDir_eq_ok read
  rw [follow_linkFree free walked]

theorem names_congr
    (same : ∀ name, fs.lookup (directory ++ [name]) = fs'.lookup (directory ++ [name])) :
    fs.names directory = fs'.names directory := by
  refine (names_sorted directory).eq_of_mem_iff (names_sorted directory) fun name => ?_
  rw [mem_names, mem_names, same]

/-! ### Walks in two trees -/

/-- Trees with the same entries below a place have the same nodes there. -/
theorem lookup_eq_of_entries {root : Path} (below : root <+: path)
    (same : fs.nodes.entries.filter (fun entry => root.isPrefixOf entry.1) =
      fs'.nodes.entries.filter (fun entry => root.isPrefixOf entry.1)) :
    fs.lookup path = fs'.lookup path := by
  refine Option.ext fun node => ?_
  have mem : ∀ fs : Tree, fs.lookup path = some node ↔
      (path, node) ∈ fs.nodes.entries.filter (fun entry => root.isPrefixOf entry.1) := by
    intro fs
    rw [mem_filter, isPrefixOf_iff_prefix, and_iff_left below]
    exact SortedMap.lookup_eq_some
  rw [mem fs, mem fs', same]

variable (fs) in
/-- The places that `walkFrom` looks at. -/
def visitsFrom (follow : Path → List Segment → List Path) : Path → List Segment → List Path
  | _, [] => []
  | current, .stay :: rest => visitsFrom follow current rest
  | current, .up :: rest => visitsFrom follow current.dropLast rest
  | current, .name name :: rest =>
    (current ++ [name]) ::
      match fs.lookup (current ++ [name]) with
      | some (.symlink _ target) =>
        follow (if isAbs target then [] else current) (segments target ++ rest)
      | some (.dir _) => visitsFrom follow (current ++ [name]) rest
      | _ => []

variable (fs) in
/-- The places that `walk` looks at. -/
def visits : Nat → Path → List Segment → List Path
  | 0 => fs.visitsFrom fun _ _ => []
  | links + 1 => fs.visitsFrom (visits links)

/-- A place is the same to a walk in both trees. -/
def WalksAlike (fs fs' : Tree) (path : Path) : Prop :=
  fs.lookup path = fs'.lookup path ∨
    ∃ info info', fs.lookup path = some (.dir info) ∧ fs'.lookup path = some (.dir info')

variable {follow' : Path → List Segment → Except Errno Path}

theorem walkFrom_congr {visited : Path → List Segment → List Path}
    (alike : ∀ current rest, (∀ path ∈ visited current rest, WalksAlike fs fs' path) →
      follow current rest = follow' current rest)
    (places : ∀ path ∈ fs.visitsFrom visited current rest, WalksAlike fs fs' path) :
    fs.walkFrom follow current rest = fs'.walkFrom follow' current rest := by
  induction rest generalizing current with
  | nil => rfl
  | cons segment rest ih =>
    cases segment with
    | stay | up => exact ih places
    | name name =>
      obtain ⟨here, there⟩ := forall_mem_cons.1 places
      rw [walkFrom, walkFrom]
      rcases here with same | ⟨info, info', isDir, isDir'⟩
      · rw [← same]
        cases found : fs.lookup (current ++ [name]) with
        | none => rfl
        | some node =>
          rw [found] at there
          cases node with
          | file | other => rfl
          | dir => exact ih there
          | symlink info target => exact alike _ _ there
      · rw [isDir] at there
        rw [isDir, isDir']
        exact ih there

theorem walk_congr (places : ∀ path ∈ fs.visits links current rest, WalksAlike fs fs' path) :
    fs.walk links current rest = fs'.walk links current rest := by
  induction links generalizing current rest with
  | zero => exact walkFrom_congr (fun _ _ _ => rfl) places
  | succ links ih => exact walkFrom_congr (fun _ _ => ih) places

/-- Every node of the first tree is in the second. -/
def Extends (fs fs' : Tree) : Prop :=
  ∀ path node, fs.lookup path = some node → fs'.lookup path = some node

theorem walkFrom_mono (grows : Extends fs fs')
    (follows : ∀ current rest reached, follow current rest = .ok reached →
      follow' current rest = .ok reached) (walked : fs.walkFrom follow current rest = .ok reached) :
    fs'.walkFrom follow' current rest = .ok reached := by
  induction rest generalizing current with
  | nil => exact walked
  | cons segment rest ih =>
    cases segment with
    | stay | up => exact ih walked
    | name name =>
      rw [walkFrom] at walked ⊢
      cases found : fs.lookup (current ++ [name]) with
      | none =>
        rw [found] at walked
        cases walked
      | some node =>
        rw [found] at walked
        rw [grows _ _ found]
        cases node with
        | file | other => exact walked
        | dir => exact ih walked
        | symlink info target => exact follows _ _ _ walked

theorem walk_mono (grows : Extends fs fs') (links : Nat)
    (walked : fs.walk links current rest = .ok reached) :
    fs'.walk links current rest = .ok reached := by
  induction links generalizing current rest reached with
  | zero => exact walkFrom_mono grows (fun _ _ _ failed => by cases failed) walked
  | succ links ih => exact walkFrom_mono grows (fun _ _ _ => ih) walked

theorem locate_concat {parent : Path} (name : Name) (walked : fs.follow parent = .ok directory)
    (isDir : fs.lookup directory = some (.dir info)) :
    fs.locate (parent ++ [name]) = .ok (directory ++ [name]) := by
  unfold locate
  rw [List.getLast?_concat, dropLast_concat, walked]
  simp only [bind, Except.bind, isDir]

theorem locate_mono (grows : Extends fs fs') (located : fs.locate path = .ok place) :
    fs'.locate path = .ok place := by
  rcases locate_eq_ok located with ⟨rfl, rfl⟩ | ⟨parent, name, directory, info, rfl, walked, isDir, rfl⟩
  · rfl
  · exact locate_concat name (walk_mono grows _ walked) (grows _ _ isDir)

section

variable (isDir : fs.lookup directory = some (.dir info)) (found : fs.lookup (directory ++ [name]) = some node) (plain : node.isSymlink = false)

include isDir found plain

/-- A walk that ends at a directory goes on to a node in it that is no link. -/
theorem walkFrom_concat
    (follows : ∀ current rest, follow current rest = .ok directory →
      follow current (rest ++ [.name name]) = .ok (directory ++ [name]))
    (walked : fs.walkFrom follow current rest = .ok directory) :
    fs.walkFrom follow current (rest ++ [.name name]) = .ok (directory ++ [name]) := by
  induction rest generalizing current with
  | nil =>
    cases walked
    exact @walkFrom_names fs directory node follow [name] found plain
  | cons segment rest ih =>
    cases segment with
    | stay | up => exact ih walked
    | name next =>
      rw [cons_append, walkFrom]
      rw [walkFrom] at walked
      split at walked
      · cases walked
      · rw [← List.append_assoc]
        exact follows _ _ walked
      · exact ih walked
      · next notLink notDir here =>
        split at walked
        · cases walked
          exact absurd (Option.some.inj (here.symm.trans isDir)) (notDir info)
        · cases walked

theorem walk_concat
    (walked : fs.walk links current rest = .ok directory) :
    fs.walk links current (rest ++ [.name name]) = .ok (directory ++ [name]) := by
  induction links generalizing current rest with
  | zero => exact walkFrom_concat isDir found plain (fun _ _ failed => by cases failed) walked
  | succ links ih => exact walkFrom_concat isDir found plain (fun _ _ => ih) walked

end

theorem follow_of_locate (located : fs.locate path = .ok place)
    (found : fs.lookup place = some node) (plain : node.isSymlink = false) :
    fs.follow path = .ok place := by
  rcases locate_eq_ok located with ⟨rfl, rfl⟩ | ⟨parent, name, directory, info, rfl, walked, isDir, rfl⟩
  · exact follow_plain found plain
  unfold follow
  rw [map_append]
  exact walk_concat isDir found plain walked

end Tree

end Anytty.FileSystem
