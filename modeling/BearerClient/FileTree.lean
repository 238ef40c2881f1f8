import BearerClient.Text.Utf8

/-!
# File trees

A tree of directories and regular files, in which paths are looked up from the root.  Whatever
holds something is a directory.  A file may be there without being readable.
-/

namespace BearerClient

/-- The place of a file: the names of the directories above it and its own. -/
abbrev Location := List String

/-- What stands at a place. -/
inductive FileTree.Entry where
  | directory
  | file (contents : Bytes)
  /-- a regular file that cannot be read, and why -/
  | locked (reason : String)
  deriving DecidableEq

structure FileTree where
  entries : List (Location × FileTree.Entry)

namespace FileTree

/-- A file, whether it can be read or not. -/
def Entry.isFile : Entry → Bool
  | .directory => false
  | .file _ | .locked _ => true

/-- What is found at a place. -/
def entry? (tree : FileTree) (location : Location) : Option Entry :=
  match tree.entries.lookup location with
  | some entry => some entry
  | none =>
    if location.isEmpty || tree.entries.any (location.isPrefixOf ·.1) then some .directory else none

/-- The parts of a path; slashes that follow one another count as one. -/
def parts (path : List Char) : List String :=
  ((path.splitOn '/').filter (!·.isEmpty)).map String.ofList

/-- Follows parts of a path from a place.  Each step starts from a directory. -/
def follow (tree : FileTree) : List String → Location → Option Location
  | [], location => some location
  | part :: path, location =>
    if tree.entry? location = some .directory then
      if part = "." then tree.follow path location
      else if part = ".." then tree.follow path location.dropLast
      else tree.follow path (location ++ [part])
    else none

/-- What a path leads to from a directory.  A path that ends in a slash leads to a directory. -/
def lookup (tree : FileTree) (directory : Location) (path : String) : Option Entry :=
  let start := if path.toList.head? = some '/' then [] else directory
  let found := (tree.follow (parts path.toList) start).bind tree.entry?
  if path.toList.getLast? = some '/' then found.filter (!·.isFile) else found

/-- The last part of a path; a path without one, or that ends in `..`, has none. -/
def fileName? (path : String) : Option String :=
  match ((parts path.toList).filter (· ≠ ".")).getLast? with
  | some ".." => none
  | name => name

/-- The extension of a file name: what follows its last point, unless the name starts there. -/
def extension? (name : String) : Option String :=
  let reversed := name.toList.reverse
  match reversed.dropWhile (· ≠ '.') with
  | [] | [_] => none
  | _ => some (String.ofList (reversed.takeWhile (· ≠ '.')).reverse)

end FileTree
end BearerClient
