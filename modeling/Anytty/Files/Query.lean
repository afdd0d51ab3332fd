import Anytty.Files.Path

/-!
# File queries

`List`, `Stat` and `Preview` report on entries below the configured roots. The resolver follows links
outside the roots as well when they stand on the path of a request, and `fileEntry` asks the operating
system what a link leads to without asking the resolver. Apart from these two, a result is made from
the entries at or below the roots alone.
-/

namespace Anytty.Files

open Anytty.FileSystem List Tree
open Anytty.Connection (trimSpace)

/-- The functions of the standard library that the queries call. -/
structure Library where
  /-- `base64.RawURLEncoding`. -/
  decodeBase64 : String → Option String
  encodeBase64 : String → String
  /-- `strconv.ParseInt` and `strconv.Atoi`. -/
  parseInt : String → Option Int
  detectContentType : List UInt8 → String
  typeByExtension : String → String
  toLower : String → String
  sha256 : List UInt8 → List UInt8

inductive QueryError
  | path (error : PathError)
  | errno (errno : Errno)
  | decodeCursor
  | invalidCursor
  | staleCursor
  | parseCursor
  | invalidListCursor
  | previewNotRegular
  | previewTooLarge
  | previewType (mimeType : String)
  | imageTooLarge (limit : Int)
  /-- A slice with a negative bound. -/
  | sliceBounds
deriving DecidableEq

inductive EntryType
  | file
  | dir
  | symlink
  | other
deriving DecidableEq

structure Entry where
  path : Path
  name : String
  type : EntryType
  size : Int
  mode : Nat
  modifiedAt : Int
  linkTarget : String
deriving DecidableEq

structure ListRequest where
  path : String
  cursor : String
  limit : Int

structure ListResult where
  path : Path
  entries : List Entry
  nextCursor : String
deriving DecidableEq

structure PreviewRequest where
  path : String
  maxBytes : Int

structure PreviewResult where
  entry : Entry
  mimeType : String
  content : List UInt8
  truncated : Bool
  sha256 : List UInt8
deriving DecidableEq

def listLimitMax : Int := 500
def previewMaxBytes : Int := 4 * 2 ^ 20
def previewMaxSourceBytes : Int := 64 * 2 ^ 20

def baseName (path : Path) : String := (path.getLast?.map (·.val)).getD "/"

def nodeType : Node → EntryType
  | .symlink .. => .symlink
  | .dir _ => .dir
  | .file .. => .file
  | .other _ => .other

/-- The entry of a node that is reported by another node, the one a link leads to. -/
def makeEntry (path : Path) (type : EntryType) (metadata : Node) (linkTarget : String) : Entry where
  path := path
  name := baseName path
  type := type
  size := metadata.size
  mode := metadata.info.mode
  modifiedAt := metadata.info.modTime
  linkTarget := linkTarget

/-- A link is a directory or a file if it leads to one. -/
def linkType (target : Node) : EntryType :=
  if target.isDir then .dir else if target.isRegular then .file else .symlink

def fileEntry (fs : Tree) (path : Path) : Except Errno Entry :=
  match fs.lstat path with
  | .error errno => .error errno
  | .ok info =>
    if info.isSymlink then
      match fs.readlink path with
      | .error errno => .error errno
      | .ok linkTarget =>
        match fs.stat path with
        | .ok target => .ok (makeEntry path (linkType target) target linkTarget)
        | .error _ => .ok (makeEntry path .symlink info linkTarget)
    else .ok (makeEntry path (nodeType info) info "")

/-- The entries of the paths, up to the first that fails. -/
def fileEntries (fs : Tree) : List Path → Except QueryError (List Entry)
  | [] => .ok []
  | path :: paths =>
    match fileEntry fs path with
    | .error errno => .error (.errno errno)
    | .ok entry =>
      match fileEntries fs paths with
      | .error error => .error error
      | .ok entries => .ok (entry :: entries)

section

variable (library : Library)

def decodeFileCursor (cursor : String) (directoryVersion : Int) : Except QueryError Int :=
  if cursor = "" then .ok 0
  else
    match library.decodeBase64 cursor with
    | none => .error .decodeCursor
    | some raw =>
      let version := raw.toList.takeWhile (· ≠ ':')
      match raw.toList.dropWhile (· ≠ ':') with
      | [] => .error .invalidCursor
      | _ :: offset =>
        if library.parseInt (String.ofList version) = some directoryVersion then
          match library.parseInt (String.ofList offset) with
          | none => .error .parseCursor
          | some offset => .ok offset
        else .error .staleCursor

/-- `entries[offset:end]` for an offset that is not too large. -/
def window (names : List Name) (offset finish : Int) : Except QueryError (List Name) :=
  if offset < 0 then .error .sliceBounds
  else .ok ((names.drop offset.toNat).take (finish - offset).toNat)

def effectiveLimit (limit maximum : Int) : Int :=
  if limit ≤ 0 ∨ limit > maximum then maximum else limit

/-- The page of a directory that was read. -/
def listDirectory (fs : Tree) (request : ListRequest) (path : Path)
    (directory : Node) (names : List Name) : Except QueryError ListResult :=
  match decodeFileCursor library request.cursor directory.info.modTime with
  | .error error => .error error
  | .ok offset =>
    if offset > names.length then .error .invalidListCursor
    else
      let finish := min (offset + effectiveLimit request.limit listLimitMax) names.length
      match window names offset finish with
      | .error error => .error error
      | .ok shown =>
        match fileEntries fs (shown.map fun name => path ++ [name]) with
        | .error error => .error error
        | .ok entries => .ok {
            path, entries
            nextCursor := if finish < names.length then
                library.encodeBase64 (toString directory.info.modTime ++ ":" ++ toString finish)
              else "" }

/-- `Service.List`. -/
def list (resolver : Resolver) (fs : Tree) (request : ListRequest) : Except QueryError ListResult :=
  match resolver.resolve fs request.path with
  | .error error => .error (.path error)
  | .ok path =>
    match fs.stat path with
    | .error errno => .error (.errno errno)
    | .ok directory =>
      match fs.readDir path with
      | .error errno => .error (.errno errno)
      | .ok names => listDirectory library fs request path directory names

/-- `Service.Stat`. -/
def stat (resolver : Resolver) (fs : Tree) (path : String) : Except QueryError Entry :=
  match resolver.resolveParent fs path with
  | .error error => .error (.path error)
  | .ok path =>
    match fileEntry fs path with
    | .error errno => .error (.errno errno)
    | .ok entry => .ok entry

def normalizedMIMEType (value : String) : String :=
  library.toLower (trimSpace (String.ofList (value.toList.takeWhile (· ≠ ';'))))

def supportedPreviewMIMEType (value : String) : Bool :=
  "text/".toList.isPrefixOf value.toList ||
    ["application/json", "application/xml", "application/yaml", "application/x-yaml", "image/png",
      "image/jpeg", "image/gif", "image/webp", "image/bmp"].contains value

/-- `filepath.Ext`: from the last dot of the last name on. -/
def extension (path : Path) : String :=
  let name := (baseName path).toList
  if '.' ∈ name then String.ofList ('.' :: (name.reverse.takeWhile (· ≠ '.')).reverse) else ""

def isImage (mimeType : String) : Bool := "image/".toList.isPrefixOf mimeType.toList

def previewMIMEType (path : Path) (content : List UInt8) : String :=
  let detected := normalizedMIMEType library (library.detectContentType content)
  let byExtension := normalizedMIMEType library
    (library.typeByExtension (library.toLower (extension path)))
  if detected = "text/plain" ∧ supportedPreviewMIMEType byExtension ∧ ¬ isImage byExtension then
    byExtension
  else detected

/-- The preview of the content that was read. -/
def previewContent (displayPath : Path) (entry : Entry) (limit : Int)
    (content : List UInt8) (truncated : Bool) : Except QueryError PreviewResult :=
  let mimeType := previewMIMEType library displayPath content
  if ¬ supportedPreviewMIMEType mimeType then .error (.previewType mimeType)
  else if isImage mimeType ∧ truncated then .error (.imageTooLarge limit)
  else .ok { entry, mimeType, content, truncated, sha256 := library.sha256 content }

/-- The preview of an open file. -/
def previewFile (request : PreviewRequest) (displayPath : Path) (entry : Entry)
    (file : Node) : Except QueryError PreviewResult :=
  let limit := effectiveLimit request.maxBytes previewMaxBytes
  match file with
  | .file _ source =>
    if (source.length : Int) > previewMaxSourceBytes then .error .previewTooLarge
    else
      let read := source.take (limit + 1).toNat
      let truncated := decide ((read.length : Int) > limit)
      let content := if truncated then read.take limit.toNat else read
      previewContent library displayPath entry limit content truncated
  | _ => .error .previewNotRegular

/-- `Service.Preview`. -/
def preview (resolver : Resolver) (fs : Tree) (request : PreviewRequest) :
    Except QueryError PreviewResult :=
  match resolver.resolveParent fs request.path with
  | .error error => .error (.path error)
  | .ok displayPath =>
    match resolver.resolve fs request.path with
    | .error error => .error (.path error)
    | .ok resolvedPath =>
      match fileEntry fs displayPath with
      | .error errno => .error (.errno errno)
      | .ok entry =>
        if entry.type ≠ .file then .error .previewNotRegular
        else
          match fs.stat resolvedPath with
          | .error errno => .error (.errno errno)
          | .ok file => previewFile library request displayPath entry file

end

/-! ### Two file systems with the same entries below the roots -/

def AgreeBelow (roots : List Path) (fs fs' : Tree) : Prop :=
  ∀ root ∈ roots, ∀ path, root <+: path → fs.lookup path = fs'.lookup path

/-- A place at or below a root, or on the way to a root that exists. -/
def Covered (fs : Tree) (roots : List Path) (place : Path) : Prop :=
  ∃ root ∈ roots, root <+: place ∨ (place <+: root ∧ fs.lookup root ≠ none)

/-- A link from which the operating system stays at or below the roots. -/
def LinkConfined (fs : Tree) (roots : List Path) (path : Path) : Prop :=
  (∃ info target, fs.lookup path = some (.symlink info target)) →
    (∀ place ∈ fs.visits maxLinks [] (path.map .name), Covered fs roots place) ∧
      ∀ reached, fs.follow path = .ok reached → ∃ root ∈ roots, root <+: reached

section Agreement

variable {roots : List Path} {fs fs' : Tree} {path : Path} {entry entry' : Entry}

section

variable (agree : AgreeBelow roots fs fs')
include agree

theorem Covered.walksAlike {place : Path}
    (covered : Covered fs roots place) : WalksAlike fs fs' place := by
  obtain ⟨root, mem, below | ⟨above, exist⟩⟩ := covered
  · exact .inl (agree root mem place below)
  have same := agree root mem root prefix_rfl
  by_cases eq : place = root
  · exact .inl (eq ▸ same)
  obtain ⟨node, found⟩ := Option.ne_none_iff_exists'.1 exist
  obtain ⟨info, isDir⟩ := lookup_of_prefix found above eq
  obtain ⟨info', isDir'⟩ := lookup_of_prefix (same ▸ found) above eq
  exact .inr ⟨info, info', isDir, isDir'⟩

theorem LinkConfined.stat_eq {info : Info} {target : String}
    (confined : LinkConfined fs roots path) (link : fs.lookup path = some (.symlink info target)) :
    fs.stat path = fs'.stat path := by
  obtain ⟨covered, inside⟩ := confined ⟨info, target, link⟩
  have walked : fs.follow path = fs'.follow path :=
    walk_congr fun place mem => (covered place mem).walksAlike agree
  unfold Tree.stat
  rw [← walked]
  cases reached : fs.follow path with
  | error errno => rfl
  | ok reached' =>
    obtain ⟨root, mem, below⟩ := inside reached' reached
    show fs.node reached' = fs'.node reached'
    unfold FileSystem.Tree.node
    rw [agree root mem reached' below]

/-- The links of a resolved path are all in its last name. -/
structure Resolved (roots : List Path) (fs : Tree) (path : Path) : Prop where
  within : ∃ root ∈ roots, root <+: path
  linkFree : fs.LinkFree path.dropLast

theorem fileEntry_eq (resolved : Resolved roots fs path)
    (resolved' : Resolved roots fs' path) (confined : LinkConfined fs roots path)
    (result : fileEntry fs path = .ok entry) (result' : fileEntry fs' path = .ok entry') :
    entry = entry' := by
  obtain ⟨root, mem, below⟩ := resolved.within
  unfold fileEntry at result result'
  split at result
  · cases result
  next node isNode =>
  split at result'
  · cases result'
  next node' isNode' =>
  have found := lstat_linkFree resolved.linkFree isNode
  have found' := lstat_linkFree resolved'.linkFree isNode'
  obtain rfl : node = node' :=
    Option.some.inj (found.symm.trans ((agree root mem path below).trans found'))
  split at result
  · next isLink =>
    cases node with
    | symlink info target =>
      simp only [readlink, isNode, isNode', bind, Except.bind,
        ← confined.stat_eq agree found] at result result'
      exact Except.ok.inj (result.symm.trans result')
    | _ => cases isLink
  · next plain =>
    rw [if_neg plain] at result'
    exact Except.ok.inj (result.symm.trans result')

omit agree in
theorem fileEntry_path (result : fileEntry fs path = .ok entry) : entry.path = path := by
  unfold fileEntry at result
  split at result
  · cases result
  split at result
  · split at result
    · cases result
    · split at result
      · exact Except.ok.inj result ▸ rfl
      · exact Except.ok.inj result ▸ rfl
  · exact Except.ok.inj result ▸ rfl

theorem fileEntries_eq {paths : List Path}
    {entries entries' : List Entry} (resolved : ∀ path ∈ paths, Resolved roots fs path)
    (resolved' : ∀ path ∈ paths, Resolved roots fs' path)
    (confined : ∀ entry ∈ entries, LinkConfined fs roots entry.path)
    (result : fileEntries fs paths = .ok entries) (result' : fileEntries fs' paths = .ok entries') :
    entries = entries' := by
  induction paths generalizing entries entries' with
  | nil => exact Except.ok.inj (result.symm.trans result')
  | cons path paths ih =>
    obtain ⟨first, rest⟩ := forall_mem_cons.1 resolved
    obtain ⟨first', rest'⟩ := forall_mem_cons.1 resolved'
    rw [fileEntries] at result result'
    split at result
    · cases result
    next entry isEntry =>
    split at result
    · cases result
    next entries isEntries =>
    split at result'
    · cases result'
    next entry' isEntry' =>
    split at result'
    · cases result'
    next entries' isEntries' =>
    cases result
    cases result'
    obtain ⟨confinedFirst, confinedRest⟩ := forall_mem_cons.1 confined
    rw [fileEntry_path isEntry] at confinedFirst
    rw [fileEntry_eq agree first first' confinedFirst isEntry isEntry',
      ih rest rest' confinedRest isEntries isEntries']

theorem listDirectory_eq {library : Library} {request : ListRequest} {directory : Node}
    {names : List Name} {result result' : ListResult}
    (within : ∃ root ∈ roots, root <+: path) (free : fs.LinkFree path) (free' : fs'.LinkFree path)
    (confined : ∀ entry ∈ result.entries, LinkConfined fs roots entry.path)
    (isResult : listDirectory library fs request path directory names = .ok result)
    (isResult' : listDirectory library fs' request path directory names = .ok result') :
    result = result' := by
  have child : ∀ {fs : Tree} {name : Name}, fs.LinkFree path → Resolved roots fs (path ++ [name]) := by
    intro fs name free
    obtain ⟨root, mem, below⟩ := within
    refine ⟨⟨root, mem, below.trans (prefix_append _ _)⟩, ?_⟩
    rw [dropLast_concat]
    exact free
  unfold listDirectory at isResult isResult'
  split at isResult
  · cases isResult
  next offset isOffset =>
  simp only [isOffset] at isResult'
  split at isResult
  · cases isResult
  next fits =>
  rw [if_neg fits] at isResult'
  dsimp only at isResult isResult'
  split at isResult
  · cases isResult
  next shown isShown =>
  simp only [isShown] at isResult'
  split at isResult
  · cases isResult
  next entries isEntries =>
  split at isResult'
  · cases isResult'
  next entries' isEntries' =>
  cases isResult
  cases isResult'
  have same : entries = entries' := fileEntries_eq agree
    (forall_mem_map.2 fun name _ => child free)
    (forall_mem_map.2 fun name _ => child free') confined isEntries isEntries'
  rw [same]

end

end Agreement

section Requests

variable {library : Library} {resolver : Resolver} {fs fs' : Tree} {path : Path}
  {entry entry' : Entry} {text : String} {request : PreviewRequest} {result : PreviewResult}

section

variable (roots : resolver.roots ≠ [])

include roots

theorem resolve_resolved
    (result : resolver.resolve fs text = .ok path) :
    fs.LinkFree path ∧ ∃ root ∈ resolver.roots, root <+: path := by
  obtain ⟨_, _, isResolved, within⟩ := resolve_eq_ok roots result
  exact ⟨resolvePath_linkFree _ isResolved, withinRoots_iff.1 within⟩

theorem resolveParent_resolved
    (result : resolver.resolveParent fs text = .ok path) : Resolved resolver.roots fs path := by
  obtain ⟨within, top | ⟨_, base, parent, _, isResolved, rfl⟩⟩ := resolveParent_eq_ok roots result
  · refine ⟨withinRoots_iff.1 within, fun sub node below => ?_⟩
    exact resolvePath_linkFree _ top.2 sub node (below.trans (List.dropLast_prefix path))
  · refine ⟨withinRoots_iff.1 within, ?_⟩
    rw [dropLast_concat]
    exact resolvePath_linkFree _ isResolved

theorem list_eq (agree : AgreeBelow resolver.roots fs fs')
    {request : ListRequest} {result result' : ListResult}
    (same : resolver.resolve fs request.path = resolver.resolve fs' request.path)
    (isResult : list library resolver fs request = .ok result)
    (isResult' : list library resolver fs' request = .ok result')
    (confined : ∀ entry ∈ result.entries, LinkConfined fs resolver.roots entry.path) :
    result = result' := by
  unfold list at isResult isResult'
  rw [← same] at isResult'
  split at isResult
  · cases isResult
  next path isPath =>
  obtain ⟨free, within⟩ := resolve_resolved roots isPath
  obtain ⟨free', _⟩ := resolve_resolved roots (same ▸ isPath)
  obtain ⟨root, mem, below⟩ := within
  simp only [isPath] at isResult'
  split at isResult
  · cases isResult
  next directory isDirectory =>
  split at isResult'
  · cases isResult'
  next directory' isDirectory' =>
  split at isResult
  · cases isResult
  next names isNames =>
  split at isResult'
  · cases isResult'
  next names' isNames' =>
  have found := stat_linkFree free isDirectory
  have found' := stat_linkFree free' isDirectory'
  obtain rfl : directory = directory' :=
    Option.some.inj (found.symm.trans ((agree root mem path below).trans found'))
  obtain rfl : names = names' := by
    rw [readDir_linkFree free isNames, readDir_linkFree free' isNames']
    exact names_congr fun name =>
      agree root mem _ (below.trans (prefix_append _ _))
  exact listDirectory_eq agree ⟨root, mem, below⟩ free free' confined isResult isResult'

end

theorem stat_eq_ok (isEntry : stat resolver fs text = .ok entry) :
    ∃ path, resolver.resolveParent fs text = .ok path ∧ fileEntry fs path = .ok entry := by
  unfold stat at isEntry
  split at isEntry
  · cases isEntry
  next path isPath =>
  split at isEntry
  · cases isEntry
  next found =>
  cases isEntry
  exact ⟨path, isPath, found⟩

theorem stat_eq (roots : resolver.roots ≠ []) (agree : AgreeBelow resolver.roots fs fs')
    (same : resolver.resolveParent fs text = resolver.resolveParent fs' text)
    (isEntry : stat resolver fs text = .ok entry) (isEntry' : stat resolver fs' text = .ok entry')
    (confined : LinkConfined fs resolver.roots entry.path) : entry = entry' := by
  obtain ⟨path, isPath, found⟩ := stat_eq_ok isEntry
  obtain ⟨path', isPath', found'⟩ := stat_eq_ok isEntry'
  obtain rfl := Except.ok.inj (isPath.symm.trans (same.trans isPath'))
  rw [fileEntry_path found] at confined
  exact fileEntry_eq agree (resolveParent_resolved roots isPath)
    (resolveParent_resolved roots isPath') confined found found'

theorem preview_eq_ok (isResult : preview library resolver fs request = .ok result) :
    ∃ displayPath resolvedPath entry file,
      resolver.resolveParent fs request.path = .ok displayPath ∧
      resolver.resolve fs request.path = .ok resolvedPath ∧
      fileEntry fs displayPath = .ok entry ∧ fs.stat resolvedPath = .ok file ∧
      previewFile library request displayPath entry file = .ok result := by
  unfold preview at isResult
  split at isResult
  · cases isResult
  next displayPath isDisplay =>
  split at isResult
  · cases isResult
  next resolvedPath isResolved =>
  split at isResult
  · cases isResult
  next entry isEntry =>
  split at isResult
  · cases isResult
  split at isResult
  · cases isResult
  next file isFile =>
  exact ⟨displayPath, resolvedPath, entry, file, isDisplay, isResolved, isEntry, isFile,
    isResult⟩

theorem previewFile_entry {displayPath : Path} {file : Node}
    (isResult : previewFile library request displayPath entry file = .ok result) :
    result.entry = entry := by
  unfold previewFile at isResult
  cases file with
  | file info source =>
    dsimp only at isResult
    split at isResult
    · cases isResult
    unfold previewContent at isResult
    dsimp only at isResult
    generalize previewMIMEType library displayPath _ = mimeType at isResult
    split at isResult
    · cases isResult
    split at isResult
    · cases isResult
    · exact Except.ok.inj isResult ▸ rfl
  | _ => cases isResult

theorem preview_eq (roots : resolver.roots ≠ []) (agree : AgreeBelow resolver.roots fs fs')
    {result' : PreviewResult}
    (same : resolver.resolve fs request.path = resolver.resolve fs' request.path)
    (sameParent : resolver.resolveParent fs request.path = resolver.resolveParent fs' request.path)
    (isResult : preview library resolver fs request = .ok result)
    (isResult' : preview library resolver fs' request = .ok result')
    (confined : LinkConfined fs resolver.roots result.entry.path) : result = result' := by
  obtain ⟨display, path, entry, file, isDisplay, isPath, isEntry, isFile, isPreview⟩ :=
    preview_eq_ok isResult
  obtain ⟨display', path', entry', file', isDisplay', isPath', isEntry', isFile', isPreview'⟩ :=
    preview_eq_ok isResult'
  obtain rfl := Except.ok.inj (isDisplay.symm.trans (sameParent.trans isDisplay'))
  obtain rfl := Except.ok.inj (isPath.symm.trans (same.trans isPath'))
  rw [previewFile_entry isPreview, fileEntry_path isEntry] at confined
  obtain rfl := fileEntry_eq agree (resolveParent_resolved roots isDisplay)
    (resolveParent_resolved roots isDisplay') confined isEntry isEntry'
  obtain ⟨free, root, mem, below⟩ := resolve_resolved roots isPath
  obtain ⟨free', _⟩ := resolve_resolved roots isPath'
  have found := stat_linkFree free isFile
  have found' := stat_linkFree free' isFile'
  obtain rfl : file = file' :=
    Option.some.inj (found.symm.trans ((agree root mem path below).trans found'))
  exact Except.ok.inj (isPreview.symm.trans isPreview')

/-- Two file systems with the same entries below the roots, which resolve the path of a request
alike, give the same result to `List`, `Stat` and `Preview`, if no reported entry is a link that
leads out of the roots. -/
theorem queries_reveal_nothing (library : Library) (resolver : Resolver) (roots : resolver.roots ≠ [])
    (fs fs' : Tree)
    (agree : ∀ root ∈ resolver.roots, ∀ path, root <+: path → fs.lookup path = fs'.lookup path) :
    (∀ request result result', list library resolver fs request = .ok result →
      list library resolver fs' request = .ok result' →
      resolver.resolve fs request.path = resolver.resolve fs' request.path →
      (∀ entry ∈ result.entries, LinkConfined fs resolver.roots entry.path) → result = result') ∧
    (∀ path entry entry', stat resolver fs path = .ok entry → stat resolver fs' path = .ok entry' →
      resolver.resolveParent fs path = resolver.resolveParent fs' path →
      LinkConfined fs resolver.roots entry.path → entry = entry') ∧
    (∀ request result result', preview library resolver fs request = .ok result →
      preview library resolver fs' request = .ok result' →
      resolver.resolve fs request.path = resolver.resolve fs' request.path →
      resolver.resolveParent fs request.path = resolver.resolveParent fs' request.path →
      LinkConfined fs resolver.roots result.entry.path → result = result') :=
  ⟨fun _ _ _ isResult isResult' same confined =>
      list_eq roots agree same isResult isResult' confined,
    fun _ _ _ isEntry isEntry' same confined => stat_eq roots agree same isEntry isEntry' confined,
    fun _ _ _ isResult isResult' same sameParent confined =>
      preview_eq roots agree same sameParent isResult isResult' confined⟩

end Requests

def servedName (text : String)
    (proper : (text ≠ "" ∧ text ≠ "." ∧ text ≠ ".." ∧ '/' ∉ text.toList : Bool)) : Name :=
  ⟨text, of_decide_eq_true proper⟩

/-- The root `/srv` with two directories, the link `/srv/a/in` to `/srv/b/f` and the link `/srv/out`
to `/etc`; outside it the file `/etc` and the link `/l`. -/
def servedEntries (etc : List UInt8) (link : String) : List (Path × Node) :=
  let srv := servedName "srv" rfl
  let a := servedName "a" rfl
  let b := servedName "b" rfl
  let f := servedName "f" rfl
  let info : Info := ⟨0, 420, 0⟩
  [([], .dir info), ([srv], .dir info), ([srv, a], .dir info), ([srv, b], .dir info),
    ([srv, a, f], .file info [1]), ([srv, b, f], .file info [1, 2]),
    ([srv, a, servedName "in" rfl], .symlink info "../b/f"),
    ([srv, servedName "out" rfl], .symlink info "/etc"),
    ([servedName "etc" rfl], .file info etc),
    ([servedName "l" rfl], .symlink info link)]

def servedTree : Tree := .ofEntries (servedEntries [7] "/srv/a") (by decide +kernel)

def servedTree' : Tree := .ofEntries (servedEntries [7, 8] "/srv/b") (by decide +kernel)

def servedLibrary : Library where
  decodeBase64 := fun _ => none
  encodeBase64 := fun text => text
  parseInt := fun _ => none
  detectContentType := fun _ => "text/plain; charset=utf-8"
  typeByExtension := fun _ => ""
  toLower := fun text => text
  sha256 := fun content => content

theorem servedTree_agree : AgreeBelow sampleResolver.roots servedTree servedTree' := by
  intro root mem path below
  cases mem_singleton.1 mem
  exact lookup_eq_of_entries below (by decide +kernel)

instance (fs : Tree) (roots : List Path) (place : Path) : Decidable (Covered fs roots place) :=
  inferInstanceAs (Decidable (∃ root ∈ roots, root <+: place ∨ (place <+: root ∧ fs.lookup root ≠ none)))

/-- The page of `/srv/a`. -/
def servedPage : ListResult :=
  let a : Path := [servedName "srv" rfl, servedName "a" rfl]
  { path := a
    entries := [⟨a ++ [servedName "f" rfl], "f", .file, 1, 420, 0, ""⟩,
      ⟨a ++ [servedName "in" rfl], "in", .file, 2, 420, 0, "../b/f"⟩]
    nextCursor := "" }

theorem servedPage_confined :
    ∀ entry ∈ servedPage.entries, LinkConfined servedTree sampleResolver.roots entry.path := by
  have file : servedTree.lookup (servedPage.path ++ [sampleName "f" (by decide)]) =
      some (.file ⟨0, 420, 0⟩ [1]) := by decide +kernel
  have target : servedTree.follow (servedPage.path ++ [sampleName "in" (by decide)]) =
      .ok [sampleName "srv" (by decide), sampleName "b" (by decide), sampleName "f" (by decide)] := by
    decide +kernel
  refine forall_mem_cons.2 ⟨?_, forall_mem_singleton.2 fun _ => ⟨?_, ?_⟩⟩
  · rintro ⟨info, text, link⟩
    cases file.symm.trans link
  · decide +kernel
  · intro reached isReached
    cases target.symm.trans isReached
    decide +kernel

theorem queries_reveal_nothing_sample :
    list servedLibrary sampleResolver servedTree ⟨"/srv/a", "", 0⟩ =
      list servedLibrary sampleResolver servedTree' ⟨"/srv/a", "", 0⟩ := by
  have page : list servedLibrary sampleResolver servedTree ⟨"/srv/a", "", 0⟩ = .ok servedPage := by
    decide +kernel
  cases page' : list servedLibrary sampleResolver servedTree' ⟨"/srv/a", "", 0⟩ with
  | error error =>
    have fine : (list servedLibrary sampleResolver servedTree' ⟨"/srv/a", "", 0⟩).isOk = true := by
      decide +kernel
    rw [page'] at fine
    cases fine
  | ok result' =>
    rw [page, (queries_reveal_nothing servedLibrary sampleResolver (by decide) servedTree servedTree'
      servedTree_agree).1 _ _ _ page page' (by decide +kernel) servedPage_confined]

/-- The two file systems agree below the root, and `Stat` succeeds in both with different results:
for the link to a file outside, and for a path through a link outside. -/
theorem queries_reveal_outside :
    AgreeBelow sampleResolver.roots servedTree servedTree' ∧
    ((stat sampleResolver servedTree "/srv/out").toOption.map (·.size) = some 1 ∧
      (stat sampleResolver servedTree' "/srv/out").toOption.map (·.size) = some 2) ∧
    ((stat sampleResolver servedTree "/l/f").toOption.map (·.size) = some 1 ∧
      (stat sampleResolver servedTree' "/l/f").toOption.map (·.size) = some 2) :=
  ⟨servedTree_agree, ⟨by decide +kernel, by decide +kernel⟩, by decide +kernel, by decide +kernel⟩

end Anytty.Files
