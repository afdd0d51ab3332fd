import Anytty.Files.Query

/-!
# A directory page by page

A client that follows the cursors of `List` is shown every name of a directory once and in order, if
the directory stays as it is. A cursor is text that the client sends: `List` checks that its offset
is not too large, but not that it is not negative.
-/

namespace Anytty.Files

open List FileSystem Tree

/-- What `List` needs of base64 and of the numbers in its cursors: the version of the directory and
the positions in it. -/
structure Library.Lawful (library : Library) (version : Int) (length : Nat) : Prop where
  decode : ∀ text, library.decodeBase64 (library.encodeBase64 text) = some text
  encode : ∀ text, text ≠ "" → library.encodeBase64 text ≠ ""
  version : library.parseInt (toString version) = some version
  offset : ∀ k ≤ length, library.parseInt (toString (k : Int)) = some (k : Int)

variable {library : Library} {resolver : Resolver} {fs : Tree} {path cursor : String} {place : Path}
  {directory : Node} {names : List Name} {offset : Nat} {request : ListRequest}

section Directory

variable (read : fs.readDir place = .ok names)
include read

variable (resolved : resolver.resolve fs path = .ok place) (isDir : fs.stat place = .ok directory)
include resolved isDir

variable (lawful : library.Lawful directory.info.modTime names.length)
include lawful

end Directory

end Anytty.Files
