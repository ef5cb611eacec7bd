import ActiveObjects.Text.Split
import ActiveObjects.Text.Utf8

/-!
# Files

The files below a working directory, and the paths that lead to them.
-/

namespace ActiveObjects

open Text

/-- Files by the parts of their path. Directories exist as far as they hold files. -/
structure FileTree where
  files : List (List String × List UInt8)

inductive FileTree.Entry where
  | file (octets : List UInt8)
  | directory
deriving DecidableEq, Repr

/-- The parts between the slashes of a path. -/
def pathParts (path : String) : List String :=
  (pieces (· == '/') path.toList).map String.ofList

namespace FileTree

/-- Files by their paths. -/
def ofList (files : List (String × List UInt8)) : FileTree :=
  ⟨files.map fun (path, octets) =>
    ((pathParts path).filter fun part => part ≠ "" ∧ part ≠ ".", octets)⟩

def isDirectory (tree : FileTree) (place : List String) : Bool :=
  place = [] || tree.files.any fun (path, _) => place.isPrefixOf path && path ≠ place

/-- Follows the parts of a path from a directory. Every part but the last leads to a directory. -/
def follow (tree : FileTree) : (directory parts : List String) → Option Entry
  | _, [] => some .directory
  | directory, part :: parts =>
    if part = "" ∨ part = "." then follow tree directory parts
    else if part = ".." then if directory = [] then none else follow tree directory.dropLast parts
    else
      let place := directory ++ [part]
      match tree.files.lookup place, parts with
      | some octets, [] => some (.file octets)
      | some _, _ :: _ => none
      | none, _ => if tree.isDirectory place then follow tree place parts else none

/-- What a path leads to. There is nothing outside the working directory. -/
def find? (tree : FileTree) (path : String) : Option Entry :=
  if path.startsWith "/" then none else tree.follow [] (pathParts path)

/-- The octets of a file. -/
def file? (tree : FileTree) (path : String) : Option (List UInt8) :=
  match tree.find? path with
  | some (.file octets) => some octets
  | _ => none

end FileTree

/-! ## Names -/

/-- The path of the file whose name has an extension added; slashes and dots that do not change the
place are left out at the end. -/
def addExtension? (path extension : String) : Option String :=
  match (pathParts path).reverse.dropWhile fun part => part = "" ∨ part = "." with
  | [] => none
  | name :: before =>
    if name = ".." then none
    else
      let parts := ((name ++ "." ++ extension) :: before).reverse
      some (String.ofList (join ['/'] (parts.map String.toList)))

/-- What follows the last dot in the name of a file, unless the name starts there. -/
def extension? (path : String) : Option String := do
  let name ← (pathParts path).getLast?
  match (pieces (· == '.') name.toList).reverse with
  | last :: before :: more => if before = [] ∧ more = [] then none else some (String.ofList last)
  | _ => none

end ActiveObjects
