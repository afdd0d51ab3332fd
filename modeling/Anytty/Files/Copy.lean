import Anytty.FileSystem.Change
import Anytty.Files.Path

/-!
# Batch copy and move

`Copy` and `Move` take the entries that a list of paths names to a directory. What stands in the way
there is removed first when the request says so, and a directory is copied entry by entry, read after
the copy was made. Whether the source survives depends on where the two places lie in the tree: a
target that holds the source, or lies in it, is removed with it, and a copy into the source has no end.
-/

namespace Anytty.Files

open Anytty.FileSystem List Option Tree

inductive OperationError
  | path (error : PathError)
  | errno (errno : Errno)
  | unsupportedFileType
deriving DecidableEq

structure CopyMoveRequest where
  paths : List String
  targetDir : String
  overwrite : Bool

/-- What a call leaves behind; none if it does not return. -/
abbrev Attempt := Option (Tree × Option OperationError)

def attempt (fs : Tree) : Except Errno Tree → Attempt
  | .ok fs' => some (fs', none)
  | .error errno => some (fs, some (.errno errno))

section Model

-- `stamp` is the metadata that a copy of a node gets.
variable (stamp : Info → Info)

/-- Copy the named entries of a directory, up to the first that fails. -/
def copyEntries (copy : Path → Path → Tree → Attempt) (source target : Path) :
    List Name → Tree → Attempt
  | [], fs => some (fs, none)
  | name :: names, fs =>
    match copy (source ++ [name]) (target ++ [name]) fs with
    | some (fs', none) => copyEntries copy source target names fs'
    | failed => failed

/-- `copyFileTree` with a bound on the depth of its calls. -/
def copyFileTree : Nat → Path → Path → Tree → Attempt
  | 0, _, _, _ => none
  | depth + 1, source, target, fs =>
    match fs.lstat source with
    | .error errno => some (fs, some (.errno errno))
    | .ok (.symlink info link) => attempt fs (fs.make target (.symlink (stamp info) link))
    | .ok (.dir info) =>
      match fs.make target (.dir (stamp info)) with
      | .error errno => some (fs, some (.errno errno))
      | .ok fs' =>
        match fs'.readDir source with
        | .error errno => some (fs', some (.errno errno))
        | .ok names => copyEntries (copyFileTree depth) source target names fs'
    | .ok (.file info content) => attempt fs (fs.make target (.file (stamp info) content))
    | .ok (.other _) => some (fs, some .unsupportedFileType)

/-- The target is out of the way, or an error. -/
def clearTarget (fs : Tree) (target : Path) (overwrite : Bool) : Tree × Option Errno :=
  match fs.lstat target with
  | .ok _ => if overwrite then fs.removeAll target else (fs, some .exist)
  | .error .notExist => (fs, none)
  | .error errno => (fs, some errno)

/-- The work of `copyMove` on one source, once the paths are resolved. -/
def transfer (depth : Nat) (fs : Tree) (source target : Path) (overwrite move : Bool) : Attempt :=
  match clearTarget fs target overwrite with
  | (fs', some errno) => some (fs', some (.errno errno))
  | (fs', none) =>
    if move then attempt fs' (fs'.rename source target)
    else copyFileTree stamp depth source target fs'

/-- What `copyMove` did about one source. -/
structure Outcome where
  before : Tree
  after : Tree
  /-- The resolved source and target; none if one of them was not resolved. -/
  paths : Option (Path × Path)
  error : Option OperationError

/-- `filepath.Join(targetDir, filepath.Base(source))`. -/
def targetPath (targetDir source : Path) : Path := targetDir ++ source.getLast?.toList

def copyMoveSource (depth : Nat) (resolver : Resolver) (targetDir : Except PathError Path)
    (overwrite move : Bool) (fs : Tree) (raw : String) : Option Outcome :=
  match targetDir, resolver.resolveParent fs raw with
  | .error error, _ | .ok _, .error error => some ⟨fs, fs, none, some (.path error)⟩
  | .ok targetDir, .ok source =>
    match transfer stamp depth fs source (targetPath targetDir source) overwrite move with
    | none => none
    | some (after, error) => some ⟨fs, after, some (source, targetPath targetDir source), error⟩

/-- The outcomes for the sources in their order. -/
def copyMoveAll (depth : Nat) (resolver : Resolver) (targetDir : Except PathError Path)
    (overwrite move : Bool) : Tree → List String → Option (List Outcome)
  | _, [] => some []
  | fs, raw :: paths =>
    match copyMoveSource stamp depth resolver targetDir overwrite move fs raw with
    | none => none
    | some outcome =>
      match copyMoveAll depth resolver targetDir overwrite move outcome.after paths with
      | none => none
      | some outcomes => some (outcome :: outcomes)

/-- `copyMove`; `Copy` and `Move` are its two uses. -/
def copyMove (depth : Nat) (resolver : Resolver) (fs : Tree) (request : CopyMoveRequest)
    (move : Bool) : Option (List Outcome) :=
  copyMoveAll stamp depth resolver (resolver.resolve fs request.targetDir) request.overwrite move fs
    request.paths

end Model

/-! ### Copies -/

/-- What a node holds, without its metadata. -/
inductive Content
  | file (content : List UInt8)
  | dir
  | symlink (target : String)
  | other
deriving DecidableEq

def contentOf : Node → Content
  | .file _ content => .file content
  | .dir _ => .dir
  | .symlink _ target => .symlink target
  | .other _ => .other

/-- What stands at and below one place in a tree stands at and below another place in a tree. -/
def Holds (fs : Tree) (target : Path) (fs' : Tree) (source : Path) : Prop :=
  ∀ rest, (fs.lookup (target ++ rest)).map contentOf = (fs'.lookup (source ++ rest)).map contentOf

/-- Nothing changes outside a place. -/
def Beyond (place : Path) (fs fs' : Tree) : Prop :=
  ∀ path, ¬ place <+: path → fs'.lookup path = fs.lookup path

/-- A copy returns; nothing changes outside the target, and without an error the target holds what
the source holds. -/
def CopiedTo (fs : Tree) (T S : Path) (attempt : Attempt) : Prop :=
  ∃ after error, attempt = some (after, error) ∧ Beyond T fs after ∧
    (error = none → Holds after T fs S)

variable {fs fs' after : Tree} {path place source target S T rest : Path} {node : Node}
  {info : Info} {errno : Errno} {error : Option OperationError} {names : List Name}
  {stamp : Info → Info} {depth : Nat} {overwrite move : Bool}
  {result : Tree × Option OperationError}

theorem missing_below (missing : fs.lookup path = none) : fs.lookup (path ++ rest) = none := by
  by_cases empty : rest = []
  · rw [empty, append_nil]
    exact missing
  · refine eq_none_iff_forall_ne_some.2 fun node found => ?_
    obtain ⟨info, above⟩ := lookup_prefix found empty
    cases missing.symm.trans above

theorem missing_below_plain (found : fs.lookup path = some node) (plain : node.isDir = false)
    (below : rest ≠ []) :
    fs.lookup (path ++ rest) = none := by
  refine eq_none_iff_forall_ne_some.2 fun node' found' => ?_
  obtain ⟨info, above⟩ := lookup_prefix found' below
  cases found.symm.trans above
  cases plain

theorem Beyond.grows (beyond : Beyond place fs fs') (missing : fs.lookup place = none) :
    Extends fs fs' := by
  intro path node found
  rw [beyond path]
  · exact found
  · rintro ⟨rest, rfl⟩
    cases (missing_below missing).symm.trans found

/-- `make` at a place that holds no node. -/
theorem make_eq_ok (node : Node) (located : fs.locate path = .ok place)
    (missing : fs.lookup place = none) :
    ∃ fs', fs.make path node = .ok fs' ∧ Beyond place fs fs' ∧ fs'.lookup place = some node ∧
      ∀ rest, rest ≠ [] → fs'.lookup (place ++ rest) = none := by
  have isDir : isDirAt fs.nodes place.dropLast = true := by
    rcases locate_eq_ok located with ⟨_, rfl⟩ | ⟨_, name, directory, info, _, _, isDir, rfl⟩
    · obtain ⟨info, root⟩ := fs.root
      cases missing.symm.trans root
    · rw [dropLast_concat]
      unfold isDirAt
      rw [show fs.nodes.lookup directory = _ from isDir]
  have lookup := fs.lookup_create place node ⟨isDir, missing⟩
  refine ⟨_, ?_, fun other out => ?_, (lookup place).trans (if_pos rfl), fun rest proper => ?_⟩
  · unfold make
    rw [located]
    exact dif_pos ⟨isDir, missing⟩
  · rw [lookup, if_neg]
    rintro rfl
    exact out prefix_rfl
  · rw [lookup, if_neg fun same => proper (append_right_eq_self.1 same), missing_below missing]

/-- A node other than a directory is copied as a whole. -/
theorem make_copy {copy : Node} (located : fs.locate target = .ok T) (missing : fs.lookup T = none)
    (found : fs.lookup S = some node) (plain : node.isDir = false)
    (same : contentOf copy = contentOf node) :
    CopiedTo fs T S (attempt fs (fs.make target copy)) := by
  obtain ⟨after, made, beyond, isCopy, below⟩ := make_eq_ok copy located missing
  refine ⟨after, none, ?_, beyond, fun _ rest => ?_⟩
  · rw [made]
    rfl
  · by_cases empty : rest = []
    · rw [empty, append_nil, append_nil, isCopy, found]
      exact congrArg some same
    · rw [below rest empty, missing_below_plain found plain empty]

theorem not_below (apart : ¬ S <+: T) (apart' : ¬ T <+: S) (rest : Path) : ¬ T <+: S ++ rest := by
  intro below
  rcases prefix_or_prefix_of_prefix below (prefix_append S rest) with below | below
  · exact apart' below
  · exact apart below

theorem not_below_name {name other : Name} (ne : other ≠ name) (rest : Path) :
    ¬ T ++ [name] <+: T ++ other :: rest := by
  rw [prefix_append_right_inj]
  exact fun below => ne (cons_prefix_cons.1 below).1.symm

/-- Each entry of `S` is copied to `T` if nothing outside `T` has changed. -/
def CopiesEntries (copy : Path → Path → Tree → Attempt) (fs : Tree) (source target S T : Path) :
    Prop :=
  ∀ (cur : Tree) (name : Name), Beyond T fs cur →
    cur.locate (source ++ [name]) = .ok (S ++ [name]) →
    cur.locate (target ++ [name]) = .ok (T ++ [name]) →
    (∃ node, cur.lookup (S ++ [name]) = some node) → cur.lookup (T ++ [name]) = none →
    CopiedTo cur (T ++ [name]) (S ++ [name]) (copy (source ++ [name]) (target ++ [name]) cur)

/-- The copy of some entries of the directory `S` into the directory `T`. -/
theorem copyEntries_spec {copy : Path → Path → Tree → Attempt} (located : fs.locate source = .ok S)
    (locatedT : fs.locate target = .ok T) (isDir : fs.lookup S = some (.dir info))
    (missing : fs.lookup T = none) (apart : ¬ S <+: T) (apart' : ¬ T <+: S)
    (copies : CopiesEntries copy fs source target S T) {cur : Tree}
    (nodup : names.Nodup) (members : ∀ name ∈ names, ∃ node, fs.lookup (S ++ [name]) = some node)
    (beyond : Beyond T fs cur) (isDirT : ∃ info, cur.lookup T = some (.dir info))
    (todo : ∀ name ∈ names, cur.lookup (T ++ [name]) = none)
    (done : ∀ name ∉ names, Holds cur (T ++ [name]) fs (S ++ [name])) :
    ∃ after error, copyEntries copy source target names cur = some (after, error) ∧
      Beyond T fs after ∧ (∃ info, after.lookup T = some (.dir info)) ∧
      (error = none → ∀ name, Holds after (T ++ [name]) fs (S ++ [name])) := by
  induction names generalizing cur with
  | nil => exact ⟨cur, none, rfl, beyond, isDirT, fun _ name => done name not_mem_nil⟩
  | cons name names ih =>
    obtain ⟨first, nodup⟩ := nodup_cons.1 nodup
    obtain ⟨infoT, isDirT'⟩ := isDirT
    have grows := beyond.grows missing
    have isDirS : cur.lookup S = some (.dir info) := grows _ _ isDir
    have child := locate_concat name
      (follow_of_locate (locate_mono grows located) isDirS rfl) isDirS
    have childT := locate_concat name
      (follow_of_locate (locate_mono grows locatedT) isDirT' rfl) isDirT'
    obtain ⟨node, isNode⟩ := members name mem_cons_self
    obtain ⟨after, error, copied, beyondChild, holds⟩ := copies cur name beyond child childT
      ⟨node, grows _ _ isNode⟩ (todo name mem_cons_self)
    have beyond' : Beyond T fs after := by
      intro path out
      rw [beyondChild path fun below => out ((prefix_append _ _).trans below), beyond path out]
    have isDirT'' : ∃ info, after.lookup T = some (.dir info) := by
      refine ⟨infoT, ?_⟩
      rw [beyondChild T fun below => absurd below.length_le (by simp)]
      exact isDirT'
    cases error with
    | some error =>
      refine ⟨after, some error, ?_, beyond', isDirT'', nofun⟩
      rw [copyEntries, copied]
    | none =>
      have step := ih nodup (fun name mem => members name (mem_cons_of_mem _ mem)) beyond'
        isDirT'' ?_ ?_
      · rw [copyEntries, copied]
        exact step
      · intro other mem
        have ne : other ≠ name := fun same => first (same ▸ mem)
        rw [beyondChild _ (not_below_name ne [])]
        exact todo other (mem_cons_of_mem _ mem)
      · intro other out rest
        by_cases same : other = name
        · subst same
          rw [holds rfl rest, beyond _ (by rw [List.append_assoc]; exact not_below apart apart' _)]
        · rw [beyondChild _ (by rw [List.append_assoc]; exact not_below_name same rest)]
          exact done other (by simp [same, out]) rest

theorem copyFileTree_dir {made : Tree} (found : fs.lstat source = .ok (.dir info))
    (isMade : fs.make target (.dir (stamp info)) = .ok made)
    (walked : made.follow source = .ok S) (isDir : made.lookup S = some (.dir info)) :
    copyFileTree stamp (depth + 1) source target fs =
      copyEntries (copyFileTree stamp depth) source target (made.names S) made := by
  have read : made.readDir source = .ok (made.names S) := by
    unfold readDir
    rw [walked]
    simp only [bind, Except.bind, node_eq_ok.2 isDir]
  simp only [copyFileTree, found, isMade, read]

/-- A copy to a place outside the source returns; it changes nothing outside the target, and if it
succeeds the target holds what the source holds. -/
theorem copyFileTree_spec (stamp : Info → Info) (depth : Nat) (located : fs.locate source = .ok S)
    (locatedT : fs.locate target = .ok T) (exist : ∃ node, fs.lookup S = some node)
    (missing : fs.lookup T = none) (apart : ¬ S <+: T)
    (shallow : ∀ rest node, fs.lookup (S ++ rest) = some node → rest.length < depth) :
    CopiedTo fs T S (copyFileTree stamp depth source target fs) := by
  induction depth generalizing source target S T fs with
  | zero =>
    obtain ⟨node, found⟩ := exist
    exact absurd (shallow [] node (by rw [append_nil]; exact found)) (Nat.not_lt_zero _)
  | succ depth ih =>
    obtain ⟨node, found⟩ := exist
    have isNode := lstat_of_locate located found
    cases node with
    | file info content | symlink info link =>
      simp only [copyFileTree, isNode]
      exact make_copy locatedT missing found rfl rfl
    | other info =>
      simp only [copyFileTree, isNode]
      exact ⟨fs, _, rfl, fun _ _ => rfl, nofun⟩
    | dir info =>
      have apart' : ¬ T <+: S := by
        rintro ⟨rest, rfl⟩
        cases (missing_below missing).symm.trans found
      obtain ⟨made, isMade, beyond, isDirT, fresh⟩ :=
        make_eq_ok (.dir (stamp info)) locatedT missing
      have grows := beyond.grows missing
      have isDir : made.lookup S = some (.dir info) := grows _ _ found
      have walked := follow_of_locate (locate_mono grows located) isDir rfl
      have below : ∀ {cur : Tree}, Beyond T fs cur → ∀ rest, cur.lookup (S ++ rest) =
          fs.lookup (S ++ rest) := fun beyond rest => beyond _ (not_below apart apart' rest)
      have fresh := fun name => fresh [name] (cons_ne_nil _ _)
      have copies : CopiesEntries (copyFileTree stamp depth) fs source target S T := by
        intro cur name beyond child childT exist missing
        refine ih child childT exist missing (fun inside => ?_) (fun rest node isNode => ?_)
        · rcases prefix_concat_iff.1 inside with same | inside
          · exact apart ((append_inj' same rfl).1 ▸ prefix_rfl)
          · exact apart ((prefix_append _ _).trans inside)
        · rw [List.append_assoc, below beyond] at isNode
          exact Nat.lt_of_succ_lt_succ (shallow _ node isNode)
      obtain ⟨after, error, copied, beyond', ⟨infoT, isDirT⟩, holds⟩ :=
        copyEntries_spec located locatedT found missing apart apart' copies
          ((names_sorted S).imp ne_of_lt)
          (fun name mem => by
            obtain ⟨node, isNode⟩ := mem_names.1 mem
            exact ⟨node, (below beyond [name]).symm.trans isNode⟩)
          beyond ⟨_, isDirT⟩ (fun name _ => fresh name)
          (fun name out rest => by
            have out : fs.lookup (S ++ [name]) = none := by
              rw [← below beyond]
              exact eq_none_iff_forall_ne_some.2 fun node isNode =>
                out (mem_names.2 ⟨node, isNode⟩)
            rw [missing_below (fresh name), missing_below out])
      refine ⟨after, error, (copyFileTree_dir isNode isMade walked isDir).trans copied, beyond',
        fun isNone rest => ?_⟩
      cases rest with
      | nil =>
        rw [append_nil, append_nil, isDirT, found]
        rfl
      | cons name rest =>
        have split : ∀ path : Path, path ++ name :: rest = path ++ [name] ++ rest :=
          fun path => (List.append_assoc path [name] rest).symm
        rw [split, split]
        exact holds isNone name rest

/-! ### Transfers -/

/-- No node is removed with the target that lies at or below the source, and nothing is copied into
itself. -/
def SourceSafe (fs : Tree) (source target : Path) (overwrite move : Bool) : Prop :=
  ∀ S T, fs.locate source = .ok S → fs.locate target = .ok T →
    (overwrite = true → fs.lookup T ≠ none → ∀ path, path ≠ [] → fs.lookup path ≠ none →
      S <+: path → ¬ T <+: path) ∧
    (move = false → fs.lookup T = none → fs.lookup S ≠ none → ¬ S <+: T)

/-- The target holds what the source held, or an error leaves the source as it was; a copy leaves it
in any case. -/
structure Kept (fs : Tree) (source target : Path) (move : Bool) (after : Tree)
    (error : Option OperationError) : Prop where
  holds : error = none → ∃ S T, fs.locate source = .ok S ∧ fs.locate target = .ok T ∧
    fs.lookup S ≠ none ∧ Holds after T fs S
  source : error ≠ none ∨ move = false → ∀ S, fs.locate source = .ok S → ∀ rest,
    after.lookup (S ++ rest) = fs.lookup (S ++ rest)

/-- A target that `clearTarget` has cleared: there was nothing, or it was removed. -/
inductive Cleared (fs : Tree) (target : Path) (overwrite : Bool) : Tree → Prop
  | missing : (∀ T, fs.locate target = .ok T → fs.lookup T = none) → Cleared fs target overwrite fs
  | removed {T : Path} : overwrite = true → fs.locate target = .ok T → T ≠ [] →
      fs.lookup T ≠ none → Cleared fs target overwrite (fs.remove T)

/-- `clearTarget` clears the target, or it fails: it leaves the tree as it is, or it was to remove
the root. -/
theorem clearTarget_cases (fs : Tree) (target : Path) (overwrite : Bool) :
    (∃ fs', clearTarget fs target overwrite = (fs', none) ∧ Cleared fs target overwrite fs') ∨
    ∃ fs' errno, clearTarget fs target overwrite = (fs', some errno) ∧
      (fs' = fs ∨ (overwrite = true ∧ fs.locate target = .ok [] ∧ fs' = fs.remove [])) := by
  unfold clearTarget
  split
  · next node found =>
    obtain ⟨T, located, exist⟩ := lstat_eq_ok found
    split
    · next isOverwrite =>
      unfold Tree.removeAll
      rw [located]
      dsimp only
      split
      · next top =>
        subst top
        exact .inr ⟨_, _, rfl, .inr ⟨isOverwrite, rfl, rfl⟩⟩
      · next proper =>
        refine .inl ⟨_, rfl, .removed isOverwrite located proper ?_⟩
        rw [exist]
        exact some_ne_none _
    · exact .inr ⟨_, _, rfl, .inl rfl⟩
  · next failed =>
    refine .inl ⟨_, rfl, .missing fun T located => ?_⟩
    unfold lstat at failed
    rw [located] at failed
    exact (node_eq_error failed).1
  · exact .inr ⟨_, _, rfl, .inl rfl⟩

theorem remove_extends (fs : Tree) (place : Path) : Extends (fs.remove place) fs := by
  intro path node found
  rw [lookup_remove] at found
  split at found
  · cases found
  · exact found

/-- What `remove` leaves of a source that shares no node with the target. -/
theorem lookup_remove_apart
    (apart : ∀ path, path ≠ [] → fs.lookup path ≠ none → S <+: path → ¬ T <+: path) (rest : Path) :
    (fs.remove T).lookup (S ++ rest) = fs.lookup (S ++ rest) := by
  rw [lookup_remove]
  split
  · next gone =>
    by_contra exist
    exact apart _ gone.1 (fun none => exist none.symm) (prefix_append _ _) gone.2
  · rfl

theorem rename_eq_ok (renamed : fs.rename source target = .ok fs') :
    ∃ S T, fs.locate source = .ok S ∧ fs.locate target = .ok T ∧ fs.lookup S ≠ none ∧
      ¬ S <+: T ∧ ∀ rest, fs'.lookup (T ++ rest) = fs.lookup (S ++ rest) := by
  unfold rename at renamed
  split at renamed
  · cases renamed
  next S located =>
  split at renamed
  · cases renamed
  next T locatedT =>
  split at renamed
  · cases renamed
  next exist =>
  split at renamed
  · next fits =>
    cases renamed
    refine ⟨S, T, located, locatedT, exist, fits.2.2.2, fun rest => ?_⟩
    refine (lookup_moveNodes ..).trans ?_
    rw [if_pos (prefix_append _ _), movedFrom_append]
  · cases renamed

section Transfer

variable {cleared : Tree}

section

variable (h : Cleared fs target overwrite cleared)
include h

theorem Cleared.extends : Extends cleared fs := by
  cases h with
  | missing => exact fun _ _ found => found
  | removed => exact remove_extends fs _

theorem Cleared.keeps
    (safe : SourceSafe fs source target overwrite move) (located : fs.locate source = .ok S)
    (rest : Path) : cleared.lookup (S ++ rest) = fs.lookup (S ++ rest) := by
  cases h with
  | missing => rfl
  | removed isOverwrite locatedT _ exist =>
    exact lookup_remove_apart ((safe S _ located locatedT).1 isOverwrite exist) rest

/-- Where the cleared target lies. -/
theorem Cleared.empty (locatedT : cleared.locate target = .ok T) : cleared.lookup T = none := by
  cases h with
  | missing missing => exact missing T locatedT
  | removed _ locatedT' proper =>
    cases locatedT'.symm.trans (locate_mono (remove_extends fs _) locatedT)
    rw [lookup_remove, if_pos ⟨proper, prefix_rfl⟩]

theorem Cleared.apart
    (safe : SourceSafe fs source target overwrite false) (located : fs.locate source = .ok S)
    (locatedT : fs.locate target = .ok T) (exist : fs.lookup S ≠ none) : ¬ S <+: T := by
  cases h with
  | missing missing => exact (safe S T located locatedT).2 rfl (missing T locatedT) exist
  | removed isOverwrite locatedT' proper existT =>
    cases locatedT'.symm.trans locatedT
    exact fun below => (safe S T located locatedT).1 isOverwrite existT T proper existT below
      prefix_rfl

omit h in
theorem make_eq_error (node : Node) (failed : fs.locate path = .error errno) :
    fs.make path node = .error errno := by
  unfold make
  rw [failed]

omit h in
/-- A copy to a path that leads nowhere fails and changes nothing. -/
theorem copyFileTree_nowhere (stamp : Info → Info) (depth : Nat) (source : Path)
    (failed : fs.locate target = .error errno) :
    ∃ error, copyFileTree stamp (depth + 1) source target fs = some (fs, some error) := by
  unfold copyFileTree
  simp only [make_eq_error _ failed]
  split <;> exact ⟨_, rfl⟩

theorem Kept.unchanged
    (safe : SourceSafe fs source target overwrite move) (error : OperationError) :
    Kept fs source target move cleared (some error) :=
  ⟨nofun, fun _ _ located => h.keeps safe located⟩

/-- The source of a copy with a cleared target. -/
theorem Cleared.copies (safe : SourceSafe fs source target overwrite false)
    (shallow : ∀ path node, fs.lookup path = some node → path.length < depth + 1) :
    ∃ after error, copyFileTree stamp (depth + 1) source target cleared = some (after, error) ∧
      Kept fs source target false after error := by
  cases found : cleared.lstat source with
  | error errno =>
    refine ⟨cleared, some (.errno errno), ?_, Kept.unchanged h safe _⟩
    rw [copyFileTree, found]
  | ok node =>
    obtain ⟨S, located, isNode⟩ := lstat_eq_ok found
    have located' := locate_mono h.extends located
    have exist' : fs.lookup S ≠ none := by
      rw [h.extends _ _ isNode]
      exact some_ne_none _
    cases locatedT : cleared.locate target with
    | error errno =>
      obtain ⟨error, failed⟩ := copyFileTree_nowhere stamp depth source locatedT
      exact ⟨cleared, some error, failed, Kept.unchanged h safe _⟩
    | ok T =>
      have locatedT' := locate_mono h.extends locatedT
      have apart := h.apart safe located' locatedT' exist'
      have missing := h.empty locatedT
      have apart' : ¬ T <+: S := by
        rintro ⟨rest, rfl⟩
        cases (missing_below missing).symm.trans isNode
      obtain ⟨after, error, copied, beyond, holds⟩ := copyFileTree_spec stamp (depth + 1)
        located locatedT ⟨node, isNode⟩ missing apart (fun rest node found => by
          have long := shallow _ node (h.extends _ _ found)
          rw [length_append] at long
          omega)
      refine ⟨after, error, copied, fun isNone => ?_, fun _ S' isS rest => ?_⟩
      · refine ⟨S, T, located', locatedT', exist', fun rest => ?_⟩
        rw [holds isNone rest, h.keeps safe located']
      · cases located'.symm.trans isS
        rw [beyond _ (not_below apart apart' rest), h.keeps safe located']

theorem Cleared.renames (safe : SourceSafe fs source target overwrite true) :
    ∃ after error, attempt cleared (cleared.rename source target) = some (after, error) ∧
      Kept fs source target true after error := by
  cases renamed : cleared.rename source target with
  | error errno => exact ⟨cleared, _, rfl, Kept.unchanged h safe _⟩
  | ok after =>
    obtain ⟨S, T, located, locatedT, exist, _, moved⟩ := rename_eq_ok renamed
    have located' := locate_mono h.extends located
    refine ⟨after, none, rfl, fun _ => ⟨S, T, located', locate_mono h.extends locatedT, ?_, ?_⟩, ?_⟩
    · obtain ⟨node, found⟩ := ne_none_iff_exists'.1 exist
      rw [h.extends _ _ found]
      exact some_ne_none _
    · intro rest
      rw [moved rest, h.keeps safe located']
    · rintro (failed | isCopy)
      · exact absurd rfl failed
      · cases isCopy

end

end Transfer

theorem exists_length_bound (fs : Tree) :
    ∃ bound, ∀ path node, fs.lookup path = some node → path.length < bound := by
  obtain ⟨bound, longest⟩ := ((finite_toSet fs.places).image List.length).bddAbove
  exact ⟨bound + 1, fun path node found =>
    Nat.lt_succ_of_le (longest ⟨path, mem_places.2 ⟨node, found⟩, rfl⟩)⟩

/-- A safe transfer returns and keeps the source. -/
theorem transfer_keeps_source (stamp : Info → Info)
    (safe : SourceSafe fs source target overwrite move) :
    ∃ bound, ∀ depth, bound ≤ depth → ∃ after error,
      transfer stamp depth fs source target overwrite move = some (after, error) ∧
        Kept fs source target move after error := by
  obtain ⟨bound, shallow⟩ := exists_length_bound fs
  refine ⟨bound + 1, fun depth enough => ?_⟩
  obtain ⟨depth, rfl⟩ := Nat.exists_eq_succ_of_ne_zero (Nat.ne_of_gt (Nat.lt_of_lt_of_le
    (Nat.succ_pos bound) enough))
  unfold transfer
  rcases clearTarget_cases fs target overwrite with ⟨cleared, result, h⟩ | ⟨left, errno, result, h⟩
  · rw [result]
    cases move with
    | true => exact h.renames safe
    | false =>
      exact h.copies safe fun path node found => Nat.lt_of_lt_of_le (shallow path node found)
        (Nat.le_of_succ_le enough)
  · rw [result]
    refine ⟨left, _, rfl, nofun, fun _ S located rest => ?_⟩
    rcases h with rfl | ⟨isOverwrite, locatedT, rfl⟩
    · rfl
    obtain ⟨info, root⟩ := fs.root
    refine lookup_remove_apart ((safe S [] located locatedT).1 isOverwrite ?_) rest
    rw [show fs.lookup [] = _ from root]
    exact some_ne_none _

/-- A target that shares a node with the source is removed with it, and then the transfer fails. -/
theorem transfer_loses_source (located : fs.locate source = .ok S)
    (locatedT : fs.locate target = .ok T) (exist : fs.lookup T ≠ none) (proper : path ≠ [])
    (below : S <+: path) (belowT : T <+: path) (aside : move = true ∨ (S <+: T → S = T))
    (result : transfer stamp depth fs source target true move = some (after, error)) :
    error ≠ none ∧ after.lookup path = none := by
  have gone : (fs.remove T).lookup path = none := by
    rw [lookup_remove, if_pos ⟨proper, belowT⟩]
  obtain ⟨node, found⟩ := ne_none_iff_exists'.1 exist
  have clear : clearTarget fs target true = (fs.remove T, if T = [] then some .invalid else none) := by
    unfold clearTarget
    rw [lstat_of_locate locatedT found]
    simp [Tree.removeAll, locatedT]
  unfold transfer at result
  rw [clear] at result
  by_cases top : T = []
  · rw [if_pos top] at result
    cases result
    exact ⟨some_ne_none _, gone⟩
  · rw [if_neg top] at result
    dsimp only at result
    -- The source is gone, or the target lies in it and the source is to be moved.
    have fails : (∀ S', (fs.remove T).locate source = .ok S' → (fs.remove T).lookup S' = none) ∨
        (move = true ∧ S <+: T) := by
      rcases prefix_or_prefix_of_prefix below belowT with inside | inside
      · rcases aside with isMove | same
        · exact .inr ⟨isMove, inside⟩
        · refine .inl fun S' located' => ?_
          cases located.symm.trans (locate_mono (remove_extends fs T) located')
          rw [same inside, lookup_remove, if_pos ⟨top, prefix_rfl⟩]
      · refine .inl fun S' located' => ?_
        cases located.symm.trans (locate_mono (remove_extends fs T) located')
        have properS : S ≠ [] := fun empty => top (prefix_nil.1 (empty ▸ inside))
        rw [lookup_remove, if_pos ⟨properS, inside⟩]
    cases move with
    | true =>
      cases renamed : (fs.remove T).rename source target with
      | error errno =>
        rw [renamed] at result
        cases result
        exact ⟨some_ne_none _, gone⟩
      | ok moved =>
        obtain ⟨S', T', located', locatedT', exist', apart, _⟩ := rename_eq_ok renamed
        cases located.symm.trans (locate_mono (remove_extends fs T) located')
        cases locatedT.symm.trans (locate_mono (remove_extends fs T) locatedT')
        rcases fails with missing | ⟨_, inside⟩
        · exact absurd (missing S located') exist'
        · exact absurd inside apart
    | false =>
      rw [if_neg Bool.false_ne_true] at result
      rcases fails with missing | ⟨isMove, _⟩
      · cases depth with
        | zero => cases result
        | succ depth =>
          rw [copyFileTree] at result
          split at result
          · cases result
            exact ⟨some_ne_none _, gone⟩
          all_goals
            next found =>
            obtain ⟨S', located', isNode⟩ := lstat_eq_ok found
            cases (missing S' located').symm.trans isNode
      · cases isMove

/-! ### Batches -/

theorem copyEntries_mono {copy copy' : Path → Path → Tree → Attempt}
    (mono : ∀ source target fs result, copy source target fs = some result →
      copy' source target fs = some result)
    (copied : copyEntries copy source target names fs = some result) :
    copyEntries copy' source target names fs = some result := by
  induction names generalizing fs with
  | nil => exact copied
  | cons name names ih =>
    rw [copyEntries] at copied ⊢
    cases first : copy (source ++ [name]) (target ++ [name]) fs with
    | none =>
      rw [first] at copied
      cases copied
    | some outcome =>
      rw [first] at copied
      rw [mono _ _ _ _ first]
      obtain ⟨fs', error⟩ := outcome
      cases error with
      | none => exact ih copied
      | some error => exact copied

theorem copyFileTree_succ (copied : copyFileTree stamp depth source target fs = some result) :
    copyFileTree stamp (depth + 1) source target fs = some result := by
  induction depth generalizing source target fs result with
  | zero => cases copied
  | succ depth ih =>
    rw [copyFileTree] at copied ⊢
    split at copied
    · exact copied
    · exact copied
    · split at copied
      · exact copied
      · split at copied
        · exact copied
        · exact copyEntries_mono (fun _ _ _ _ => ih) copied
    · exact copied
    · exact copied

theorem transfer_mono {more : Nat}
    (returned : transfer stamp depth fs source target overwrite move = some result) :
    transfer stamp (depth + more) fs source target overwrite move = some result := by
  induction more with
  | zero => exact returned
  | succ more ih =>
    unfold transfer at ih ⊢
    split at ih
    · exact ih
    cases move with
    | true => exact ih
    | false => exact copyFileTree_succ ih

theorem transfer_kept (safe : SourceSafe fs source target overwrite move)
    (returned : transfer stamp depth fs source target overwrite move = some (after, error)) :
    Kept fs source target move after error := by
  obtain ⟨bound, returns⟩ := transfer_keeps_source stamp safe
  obtain ⟨after', error', returned', kept⟩ := returns (depth + bound) (Nat.le_add_left _ _)
  cases (transfer_mono returned).symm.trans returned'
  exact kept

/-- The outcomes of a batch are those of its transfers. -/
theorem copyMoveAll_outcome {resolver : Resolver} {targetDir : Except PathError Path}
    {paths : List String} {outcomes : List Outcome}
    (returned : copyMoveAll stamp depth resolver targetDir overwrite move fs paths = some outcomes) :
    ∀ outcome ∈ outcomes,
      (outcome.paths = none → outcome.after = outcome.before ∧ outcome.error ≠ none) ∧
      ∀ source target, outcome.paths = some (source, target) →
        transfer stamp depth outcome.before source target overwrite move =
          some (outcome.after, outcome.error) := by
  induction paths generalizing fs outcomes with
  | nil =>
    cases returned
    exact forall_mem_nil _
  | cons raw paths ih =>
    rw [copyMoveAll] at returned
    split at returned
    · cases returned
    next first isFirst =>
    split at returned
    · cases returned
    next rest isRest =>
    cases returned
    refine forall_mem_cons.2 ⟨?_, ih isRest⟩
    unfold copyMoveSource at isFirst
    split at isFirst
    · cases isFirst
      exact ⟨fun _ => ⟨rfl, some_ne_none _⟩, nofun⟩
    · cases isFirst
      exact ⟨fun _ => ⟨rfl, some_ne_none _⟩, nofun⟩
    split at isFirst
    · cases isFirst
    next transferred =>
    cases isFirst
    refine ⟨nofun, fun source target same => ?_⟩
    cases same
    exact transferred

/-- A transfer returns and keeps its source when no node is removed with the target that lies at or
below the source and nothing is copied into itself, and, copies into the source apart, only then. The
sources of a batch are transferred one after the other, each in the tree it finds. -/
theorem copy_move_keeps_source (stamp : Info → Info) :
    (∀ fs source target overwrite move, SourceSafe fs source target overwrite move →
      ∃ bound, ∀ depth, bound ≤ depth → ∃ after error,
        transfer stamp depth fs source target overwrite move = some (after, error) ∧
          Kept fs source target move after error) ∧
    (∀ fs source target overwrite move,
      (move = true ∨ ∀ S T, fs.locate source = .ok S → fs.locate target = .ok T → S <+: T → S = T) →
      (∃ bound, ∀ depth, bound ≤ depth → ∃ after error,
        transfer stamp depth fs source target overwrite move = some (after, error) ∧
          Kept fs source target move after error) →
      SourceSafe fs source target overwrite move) ∧
    ∀ depth resolver fs request move outcomes,
      copyMove stamp depth resolver fs request move = some outcomes → ∀ outcome ∈ outcomes,
        (outcome.paths = none → outcome.after = outcome.before ∧ outcome.error ≠ none) ∧
        ∀ source target, outcome.paths = some (source, target) →
          SourceSafe outcome.before source target request.overwrite move →
          Kept outcome.before source target move outcome.after outcome.error := by
  refine ⟨fun fs source target overwrite move safe => transfer_keeps_source stamp safe, ?_, ?_⟩
  · rintro fs source target overwrite move aside ⟨bound, returns⟩ S T located locatedT
    obtain ⟨after, error, returned, kept⟩ := returns bound (Nat.le_refl _)
    refine ⟨?_, ?_⟩
    · rintro rfl exist path proper exists' below belowT
      have aside' : move = true ∨ (S <+: T → S = T) := aside.imp_right fun inside =>
        inside S T located locatedT
      obtain ⟨failed, gone⟩ := transfer_loses_source located locatedT exist proper below belowT aside'
        returned
      obtain ⟨rest, rfl⟩ := below
      exact exists' ((kept.source (.inl failed) S located rest).symm.trans gone)
    · rintro rfl missing exist inside
      rcases aside with isMove | aside
      · cases isMove
      · exact exist (aside S T located locatedT inside ▸ missing)
  · intro depth resolver fs request move outcomes returned outcome mem
    obtain ⟨unresolved, transferred⟩ := copyMoveAll_outcome returned outcome mem
    exact ⟨unresolved, fun source target same safe => transfer_kept safe
      (transferred source target same)⟩

/-- A copy of an empty directory into itself has no end. -/
theorem copyFileTree_into_itself (stamp : Info → Info) (depth : Nat) (name : Name)
    (located : fs.locate source = .ok S) (isDir : fs.lookup S = some (.dir info))
    (empty : ∀ other, fs.lookup (S ++ [other]) = none) :
    copyFileTree stamp depth source (source ++ [name]) fs = none := by
  induction depth generalizing source S fs info with
  | zero => rfl
  | succ depth ih =>
    have locatedT := locate_concat name (follow_of_locate located isDir rfl) isDir
    obtain ⟨made, isMade, beyond, isDirT, fresh⟩ :=
      make_eq_ok (.dir (stamp info)) locatedT (empty name)
    have grows := beyond.grows (empty name)
    have isDir' : made.lookup S = some (.dir info) := grows _ _ isDir
    have only : made.names S = [name] := by
      refine (names_sorted S).eq_of_mem_iff (pairwise_singleton _ _) fun other => ?_
      rw [mem_names, mem_singleton]
      constructor
      · rintro ⟨node, found⟩
        by_contra ne
        cases (empty other).symm.trans ((beyond _ (not_below_name ne [])).symm.trans found)
      · rintro rfl
        exact ⟨_, isDirT⟩
    have inner := ih (locate_mono grows locatedT) isDirT fun other => fresh _ (cons_ne_nil _ _)
    rw [copyFileTree_dir (lstat_of_locate located isDir) isMade
      (follow_of_locate (locate_mono grows located) isDir' rfl) isDir', only, copyEntries, inner]

/-- `/a/f`, `/d/d` and the empty directory `/e`. -/
def copyTree : Tree :=
  .ofEntries [([], .dir ⟨0, 493, 0⟩), ([sampleName "a" (by decide)], .dir ⟨0, 493, 0⟩),
    ([sampleName "a" (by decide), sampleName "f" (by decide)], .file ⟨0, 420, 0⟩ [1]),
    ([sampleName "d" (by decide)], .dir ⟨0, 493, 0⟩),
    ([sampleName "d" (by decide), sampleName "d" (by decide)], .file ⟨0, 420, 0⟩ [2]),
    ([sampleName "e" (by decide)], .dir ⟨0, 493, 0⟩)] (by decide +kernel)

/-- No roots are configured. -/
def openResolver : Resolver where
  roots := []
  baseDir := none
  home := ""
  environment := ⟨[], none⟩

/-- The error and the content of a path for each source of a batch. -/
def batchReport (path : Path) (outcomes : Option (List Outcome)) :
    Option (List (Option OperationError × Option Content)) :=
  outcomes.map fun outcomes => outcomes.map fun outcome =>
    (outcome.error, (outcome.after.lookup path).map contentOf)

theorem copy_move_keeps_source_sample :
    ∃ bound, ∀ depth, bound ≤ depth → ∃ after error,
      transfer id depth copyTree [sampleName "a" (by decide)]
        [sampleName "d" (by decide), sampleName "a" (by decide)] true false = some (after, error) ∧
      Kept copyTree [sampleName "a" (by decide)]
        [sampleName "d" (by decide), sampleName "a" (by decide)] false after error := by
  refine (copy_move_keeps_source id).1 _ _ _ _ _ fun S T located locatedT => ?_
  have isS : copyTree.locate [sampleName "a" (by decide)] = .ok [sampleName "a" (by decide)] := by
    decide +kernel
  have isT : copyTree.locate [sampleName "d" (by decide), sampleName "a" (by decide)] =
      .ok [sampleName "d" (by decide), sampleName "a" (by decide)] := by decide +kernel
  cases isS.symm.trans located
  cases isT.symm.trans locatedT
  have missing : copyTree.lookup [sampleName "d" (by decide), sampleName "a" (by decide)] = none := by
    decide +kernel
  exact ⟨fun _ exist => absurd missing exist, fun _ _ _ => by decide +kernel⟩

/-- An overwriting `Copy` of `/a` to `/` removes `/a`, one of `/d/d` to `/` removes `/d`, and a `Copy`
of `/e` into `/e` does not return. -/
theorem copy_move_loses_source :
    batchReport [sampleName "a" (by decide), sampleName "f" (by decide)]
      (copyMove id 9 openResolver copyTree ⟨["/a"], "/", true⟩ false) =
        some [(some (.errno .notExist), none)] ∧
    batchReport [sampleName "d" (by decide), sampleName "d" (by decide)]
      (copyMove id 9 openResolver copyTree ⟨["/d/d"], "/", true⟩ true) =
        some [(some (.errno .notExist), none)] ∧
    ∀ depth, copyMove id depth openResolver copyTree ⟨["/e"], "/e", false⟩ false = none := by
  refine ⟨by decide +kernel, by decide +kernel, fun depth => ?_⟩
  have targetDir : openResolver.resolve copyTree "/e" = .ok [sampleName "e" (by decide)] := by
    decide +kernel
  have source : openResolver.resolveParent copyTree "/e" = .ok [sampleName "e" (by decide)] := by
    decide +kernel
  have missing : copyTree.lstat ([sampleName "e" (by decide)] ++ [sampleName "e" (by decide)]) =
      .error .notExist := by decide +kernel
  have located : copyTree.locate [sampleName "e" (by decide)] = .ok [sampleName "e" (by decide)] := by
    decide +kernel
  have isDir : copyTree.lookup [sampleName "e" (by decide)] = some (.dir ⟨0, 493, 0⟩) := by
    decide +kernel
  have empty : copyTree.names [sampleName "e" (by decide)] = [] := by decide +kernel
  have endless := copyFileTree_into_itself id depth (sampleName "e" (by decide)) located
    isDir (fun other => eq_none_iff_forall_ne_some.2 fun node found =>
      not_mem_nil (empty ▸ mem_names.2 ⟨node, found⟩))
  simp only [copyMove, copyMoveAll, copyMoveSource, targetDir, source, targetPath, transfer, clearTarget,
    List.getLast?_singleton, toList_some, missing, endless, if_false, Bool.false_eq_true]

end Anytty.Files
