import Anytty.Connection.Registry
import Anytty.FileSystem.Tree

/-!
# Path resolution of the file service

`Resolver` cleans a client path, resolves the links of the part that exists by hand and checks the
result against the configured roots. `ResolveParent` leaves the last name as it is, so that an
operation acts on the entry and not on what a link there points to.

Paths are those of a Unix system with case-sensitive names.
-/

namespace Anytty.Files

open Anytty.FileSystem
open Anytty.Connection (trimSpace)

inductive PathError
  | emptyPath
  | expandHome
  | relative (path : String)
  | tooManyLevels (path : Path)
  | resolve (path : Path) (errno : Errno)
  | readlink (path : Path) (errno : Errno)
  | outsideRoots (path : Path)
deriving DecidableEq

/-- What the process is asked for: its working directory and the home directory of the user. -/
structure Environment where
  workingDir : Path
  userHomeDir : Option String

structure Resolver where
  roots : List Path
  /-- None for the empty text. -/
  baseDir : Option Path
  home : String
  environment : Environment

/-- The names are looked at one by one; `follow` resolves the rest of the path behind a link. -/
def resolveComponents (fs : Tree) (follow : Path → Except PathError Path) :
    Path → Path → Except PathError Path
  | current, [] => .ok current
  | current, component :: rest =>
    match fs.lstat (current ++ [component]) with
    | .error .notExist => .ok (current ++ component :: rest)
    | .error errno => .error (.resolve (current ++ [component]) errno)
    | .ok node =>
      if node.isSymlink then
        match fs.readlink (current ++ [component]) with
        | .error errno => .error (.readlink (current ++ [component]) errno)
        | .ok target =>
          follow (clean (clean (if isAbs target then [] else current) (segments target))
            (rest.map .name))
      else resolveComponents fs follow (current ++ [component]) rest

/-- `resolvePath` with the number of calls that `maxSymlinkDepth` leaves. -/
def resolvePath (fs : Tree) : Nat → Path → Except PathError Path
  | 0, path => .error (.tooManyLevels path)
  | calls + 1, path => resolveComponents fs (resolvePath fs calls) [] path

def maxSymlinkDepth : Nat := 40

def resolveExistingPrefix (fs : Tree) (path : Path) : Except PathError Path :=
  resolvePath fs (maxSymlinkDepth + 1) path

namespace Resolver

/-- `filepath.Join`; the result is cleaned with all the rest later. -/
def join (base rest : String) : String := base ++ "/" ++ rest

def isHomePath (text : String) : Bool :=
  text = "~" || ['~', '/'].isPrefixOf text.toList || ['~', '\\'].isPrefixOf text.toList

def afterHome (text : String) : String := String.ofList (text.toList.drop 2)

section

variable (resolver : Resolver)

def expand (path : String) : Except PathError String :=
  let trimmed := trimSpace path
  if trimmed = "" then .error .emptyPath
  else if isHomePath trimmed then
    match (if resolver.home = "" then resolver.environment.userHomeDir else some resolver.home) with
    | none => .error .expandHome
    | some home => .ok (if trimmed = "~" then home else join home (afterHome trimmed))
  else .ok trimmed

/-- The clean absolute path that a client path stands for. -/
def absolute (path : String) : Except PathError Path :=
  match resolver.expand path with
  | .error error => .error error
  | .ok expanded =>
    if isAbs expanded then .ok (clean [] (segments expanded))
    else
      match resolver.baseDir with
      | none => .error (.relative path)
      | some baseDir => .ok (clean baseDir (segments expanded))

def withinRoots (path : Path) : Bool :=
  let candidate := render path
  resolver.roots.any fun root =>
    let normalizedRoot := render root
    candidate = normalizedRoot ||
      (if normalizedRoot.getLast? = some '/' then normalizedRoot else normalizedRoot ++ ['/']).isPrefixOf
        candidate

def resolve (fs : Tree) (path : String) : Except PathError Path :=
  match resolver.absolute path with
  | .error error => .error error
  | .ok cleaned =>
    if resolver.roots = [] then .ok cleaned
    else
      match resolveExistingPrefix fs cleaned with
      | .error error => .error error
      | .ok resolved =>
        if resolver.withinRoots resolved then .ok resolved else .error (.outsideRoots cleaned)

def resolveParent (fs : Tree) (path : String) : Except PathError Path :=
  match resolver.absolute path with
  | .error error => .error error
  | .ok cleaned =>
    if resolver.roots = [] then .ok cleaned
    else
      match cleaned.getLast? with
      | none =>
        match resolveExistingPrefix fs cleaned with
        | .error error => .error error
        | .ok resolved =>
          if resolver.withinRoots resolved then .ok resolved else .error (.outsideRoots cleaned)
      | some base =>
        match resolveExistingPrefix fs cleaned.dropLast with
        | .error error => .error error
        | .ok resolvedParent =>
          if resolver.withinRoots (resolvedParent ++ [base]) then .ok (resolvedParent ++ [base])
          else .error (.outsideRoots cleaned)

end

end Resolver

variable {resolver : Resolver} {fs : Tree} {environment : Environment} {resolved path : Path}

theorem resolveComponents_linkFree {follow : Path → Except PathError Path}
    (follows : ∀ path resolved, follow path = .ok resolved → fs.LinkFree resolved)
    {current rest : Path} (free : fs.LinkFree current)
    (exist : ∃ node, fs.lookup current = some node)
    (result : resolveComponents fs follow current rest = .ok resolved) : fs.LinkFree resolved := by
  induction rest generalizing current with
  | nil => exact Except.ok.inj result ▸ free
  | cons component rest ih =>
    obtain ⟨node, found⟩ := exist
    rw [resolveComponents, Tree.lstat_plain found (free current node List.prefix_rfl found)] at result
    cases directory : node.isDir with
    | false =>
      rw [directory] at result
      cases result
    | true =>
      rw [directory] at result
      split at result
      · next missing =>
        have missing := (Tree.node_eq_error missing).1
        have apart : fs.LinkFree (current ++ [component]) := by
          refine free.concat fun node found => ?_
          cases missing.symm.trans found
        have tail : current ++ component :: rest = current ++ [component] ++ rest :=
          (List.append_assoc current [component] rest).symm
        rw [← Except.ok.inj result, tail]
        exact apart.append_missing missing
      · cases result
      · next entry isEntry =>
        have isEntry := Tree.node_eq_ok.1 isEntry
        split at result
        · split at result
          · cases result
          · exact follows _ _ result
        · next plain =>
          refine ih (free.concat fun node found => ?_) ⟨entry, isEntry⟩ result
          cases isEntry.symm.trans found
          exact Bool.eq_false_of_not_eq_true plain

theorem resolvePath_linkFree (calls : Nat)
    (result : resolvePath fs calls path = .ok resolved) : fs.LinkFree resolved := by
  induction calls generalizing path resolved with
  | zero => cases result
  | succ calls ih =>
    obtain ⟨info, root⟩ := fs.root
    exact resolveComponents_linkFree (fun _ _ => ih) .nil ⟨_, root⟩ result

theorem withinRoots_iff :
    resolver.withinRoots path = true ↔ ∃ root ∈ resolver.roots, root <+: path := by
  unfold Resolver.withinRoots
  simp [render_below]

theorem resolve_eq_ok (roots : resolver.roots ≠ []) {path : String}
    (result : resolver.resolve fs path = .ok resolved) :
    ∃ cleaned, resolver.absolute path = .ok cleaned ∧
      resolveExistingPrefix fs cleaned = .ok resolved ∧ resolver.withinRoots resolved = true := by
  unfold Resolver.resolve at result
  split at result
  · cases result
  next cleaned isCleaned =>
  rw [if_neg roots] at result
  split at result
  · cases result
  next resolved isResolved =>
  split at result
  · next within =>
    cases result
    exact ⟨cleaned, isCleaned, isResolved, within⟩
  · cases result

/-- `ResolveParent` resolves the root directory as a whole, any other path up to its last name. -/
theorem resolveParent_eq_ok (roots : resolver.roots ≠ []) {path : String}
    (result : resolver.resolveParent fs path = .ok resolved) :
    resolver.withinRoots resolved = true ∧
      ((resolver.absolute path = .ok [] ∧ resolveExistingPrefix fs [] = .ok resolved) ∨
        ∃ parent base resolvedParent, resolver.absolute path = .ok (parent ++ [base]) ∧
          resolveExistingPrefix fs parent = .ok resolvedParent ∧
          resolved = resolvedParent ++ [base]) := by
  unfold Resolver.resolveParent at result
  split at result
  · cases result
  next cleaned isCleaned =>
  rw [if_neg roots] at result
  split at result
  · next top =>
    split at result
    · cases result
    next resolved isResolved =>
    split at result
    · next within =>
      cases result
      rw [List.getLast?_eq_none_iff.1 top] at isCleaned isResolved
      exact ⟨within, .inl ⟨isCleaned, isResolved⟩⟩
    · cases result
  · next base last =>
    split at result
    · cases result
    next resolvedParent isResolved =>
    split at result
    · next within =>
      cases result
      refine ⟨within, .inr ⟨cleaned.dropLast, base, resolvedParent, ?_, isResolved, rfl⟩⟩
      rw [List.dropLast_append_getLast? base last]
      exact isCleaned
    · cases result

/-- A path that `Resolve` returns has no link on it and equals a root or lies below one; for
`ResolveParent` its last name may be a link. -/
theorem resolved_within_roots (fs : Tree) (resolver : Resolver) (roots : resolver.roots ≠ [])
    (path : String) (resolved : Path) :
    (resolver.resolve fs path = .ok resolved →
      (∀ sub node, sub <+: resolved → fs.lookup sub = some node → node.isSymlink = false) ∧
      ∃ root ∈ resolver.roots, root <+: resolved) ∧
    (resolver.resolveParent fs path = .ok resolved →
      (∀ sub node, sub <+: resolved → sub ≠ resolved → fs.lookup sub = some node →
        node.isSymlink = false) ∧
      ∃ root ∈ resolver.roots, root <+: resolved) := by
  constructor
  · intro result
    obtain ⟨_, _, isResolved, within⟩ := resolve_eq_ok roots result
    exact ⟨resolvePath_linkFree _ isResolved, withinRoots_iff.1 within⟩
  · intro result
    obtain ⟨within, top | ⟨_, base, parent, _, isResolved, rfl⟩⟩ := resolveParent_eq_ok roots result
    · exact ⟨fun sub node below _ => resolvePath_linkFree _ top.2 sub node below,
        withinRoots_iff.1 within⟩
    · refine ⟨fun sub node below ne => ?_, withinRoots_iff.1 within⟩
      exact resolvePath_linkFree _ isResolved sub node
        ((List.prefix_concat_iff.1 below).resolve_left ne)

def sampleName (text : String) (proper : text ≠ "" ∧ text ≠ "." ∧ text ≠ ".." ∧ '/' ∉ text.toList) :
    Name := ⟨text, proper⟩

/-- `/srv/file`, the link `/srv/link` to it and the link `/srv/out` to `/etc`. -/
def sampleTree : Tree :=
  .ofEntries [([], .dir ⟨0, 493, 0⟩), ([sampleName "srv" (by decide)], .dir ⟨0, 493, 0⟩),
    ([sampleName "srv" (by decide), sampleName "file" (by decide)], .file ⟨0, 420, 0⟩ [65]),
    ([sampleName "srv" (by decide), sampleName "link" (by decide)],
      .symlink ⟨0, 511, 0⟩ "../srv/./file"),
    ([sampleName "srv" (by decide), sampleName "out" (by decide)], .symlink ⟨0, 511, 0⟩ "/etc")]
    (by decide +kernel)

def sampleResolver : Resolver where
  roots := [[sampleName "srv" (by decide)]]
  baseDir := none
  home := ""
  environment := ⟨[], none⟩

theorem resolved_within_roots_sample :
    sampleResolver.resolve sampleTree "/srv/link" =
      .ok [sampleName "srv" (by decide), sampleName "file" (by decide)] ∧
    ∃ root ∈ sampleResolver.roots,
      root <+: [sampleName "srv" (by decide), sampleName "file" (by decide)] := by
  have resolved : sampleResolver.resolve sampleTree "/srv/link" =
      .ok [sampleName "srv" (by decide), sampleName "file" (by decide)] := by decide +kernel
  exact ⟨resolved, ((resolved_within_roots sampleTree sampleResolver (by decide) "/srv/link" _).1
    resolved).2⟩

example : sampleResolver.resolve sampleTree "/srv/out/passwd" =
    .error (.outsideRoots [sampleName "srv" (by decide), sampleName "out" (by decide),
      sampleName "passwd" (by decide)]) := by decide +kernel

end Anytty.Files
