/-
**File trees.**

A tree says for each place, a list of names from the root, whether a directory or a file with some
bytes is there. Paths are followed name by name: a dot stays, two dots go to the parent, and
every step starts from a directory that exists.

* `get?_root`: the root is always a directory;
* `get?_write`: writing a file changes that place only.
-/

import CheckerFixtures.Path
import CheckerFixtures.SortedMap
import CheckerFixtures.Text.Utf8

namespace CheckerFixtures

/-- Names from the root downwards. -/
abbrev Place := List String

/-- Places are compared name by name. -/
instance (priority := high) : LE Place := List.instLE

/-- What is at a place. -/
inductive Entry where
  | directory
  | file (bytes : List UInt8)
deriving DecidableEq, Repr, Inhabited

/-- Why a file cannot be used. -/
inductive FileError where
  | missing
  | notDirectory
  | isDirectory
  | nameTooLong
  | nulInName
  | notText
  /-- The user may not write here. -/
  | denied
  /-- There is no room for all that is written. -/
  | full
deriving DecidableEq, Repr

def FileError.message : FileError → String
  | missing => "No such file or directory (os error 2)"
  | denied => "Permission denied (os error 13)"
  | notDirectory => "Not a directory (os error 20)"
  | isDirectory => "Is a directory (os error 21)"
  | full => "No space left on device (os error 28)"
  | nameTooLong => "File name too long (os error 36)"
  | nulInName => "file name contained an unexpected NUL byte"
  | notText => "stream did not contain valid UTF-8"

/-- The directories and files below the root. -/
structure FileTree where
  entries : SortedMap Place Entry
deriving DecidableEq, Inhabited

namespace FileTree

/-! ### Building and reading -/

def empty : FileTree := ⟨∅⟩

/-- What is at a place; the root is always a directory. -/
def get? (tree : FileTree) (place : Place) : Option Entry :=
  if place = [] then some .directory else tree.entries.get? place

/-- The tree with a file at a place, instead of what was there. -/
def write (tree : FileTree) (place : Place) (bytes : List UInt8) : FileTree :=
  ⟨tree.entries.insert place (.file bytes)⟩

/-- The tree with a directory at a place and all places above it. -/
def addDirectory (tree : FileTree) (place : Place) : FileTree :=
  (List.range (place.length + 1)).foldl
    (fun tree count =>
      if (tree.get? (place.take count)).isSome then tree
      else ⟨tree.entries.insert (place.take count) .directory⟩)
    tree

/-- The tree with a file and all directories above it. -/
def addFile (tree : FileTree) (place : Place) (bytes : List UInt8) : FileTree :=
  (tree.addDirectory place.dropLast).write place bytes

/-- Why the tree has no room for a file at a place, if it has none: a file lies in a directory
and is none itself. -/
def blocked? (tree : FileTree) (place : Place) : Option FileError :=
  match tree.get? place.dropLast, tree.get? place with
  | none, _ => some .missing
  | some (.file _), _ => some .notDirectory
  | some .directory, some .directory => some .isDirectory
  | some .directory, _ => none

/-- The names that lead from a place down to an entry below it. -/
def namesBelow? : Place → Place → Option Place
  | [], names => if names = [] then none else some names
  | _ :: _, [] => none
  | name :: place, other :: names => if name = other then namesBelow? place names else none

/-- The files below a place, by the names that lead to them. -/
def filesBelow (tree : FileTree) (place : Place) : List (Place × List UInt8) :=
  tree.entries.entries.filterMap fun (found, entry) =>
    match namesBelow? place found, entry with
    | some names, .file bytes => some (names, bytes)
    | _, _ => none

/-! ### Following paths -/

/-- The longest name of a file, in bytes. -/
def longestName : Nat := 255

/-- The longest path, in bytes. -/
def longestPath : Nat := 4095

/-- Follows the segments of a path from a place. -/
def follow (tree : FileTree) : Place → List (List Char) → Except FileError Place
  | place, [] => .ok place
  | place, segment :: rest =>
    match tree.get? place with
    | none => .error .missing
    | some (.file _) => .error .notDirectory
    | some .directory =>
      if Path.isSilent segment then follow tree place rest
      else if segment = ['.', '.'] then follow tree place.dropLast rest
      else if longestName < (Utf8.encode segment).length then .error .nameTooLong
      else follow tree (place ++ [String.ofList segment]) rest

/-- The place of a path and what is there. A relative path starts at a given place. -/
def locate (tree : FileTree) (start : Place) (path : Path) : Except FileError (Place × Entry) :=
  if path.text = "" then .error .missing
  else if path.text.toList.contains '\x00' then .error .nulInName
  else if longestPath < path.text.utf8ByteSize then .error .nameTooLong
  else
    match tree.follow (if path.isAbsolute then [] else start) path.segments with
    | .error problem => .error problem
    | .ok place =>
      match tree.get? place with
      | none => .error .missing
      | some entry => .ok (place, entry)

def isFile (tree : FileTree) (start : Place) (path : Path) : Bool :=
  match tree.locate start path with
  | .ok (_, .file _) => true
  | _ => false

def read (tree : FileTree) (start : Place) (path : Path) : Except FileError (List UInt8) :=
  match tree.locate start path with
  | .error problem => .error problem
  | .ok (_, .directory) => .error .isDirectory
  | .ok (_, .file bytes) => .ok bytes

def readText (tree : FileTree) (start : Place) (path : Path) : Except FileError (List Char) :=
  match tree.read start path with
  | .error problem => .error problem
  | .ok bytes =>
    match Utf8.decode? bytes with
    | none => .error .notText
    | some text => .ok text

/-- The absolute path of a place. -/
def pathOf (place : Place) : Path := ⟨"/" ++ String.intercalate "/" place⟩

/-! ### Laws -/

/-- The root is always a directory. -/
theorem get?_root (tree : FileTree) : tree.get? [] = some .directory := rfl

/-- Writing a file changes that place only. -/
theorem get?_write (tree : FileTree) (place other : Place) (bytes : List UInt8)
    (named : other ≠ []) :
    (tree.write place bytes).get? other =
      if other = place then some (.file bytes) else tree.get? other := by
  simp [get?, write, named, SortedMap.get?_insert]

theorem get?_write_self {place : Place} (named : place ≠ []) (tree : FileTree)
    (bytes : List UInt8) : (tree.write place bytes).get? place = some (.file bytes) := by
  rw [get?_write tree place place bytes named, if_pos rfl]

theorem get?_write_of_ne {place other : Place} (differs : other ≠ place) (tree : FileTree)
    (bytes : List UInt8) : (tree.write place bytes).get? other = tree.get? other := by
  by_cases root : other = []
  · rw [root, get?_root, get?_root]
  · rw [get?_write tree place other bytes root, if_neg differs]

end FileTree

end CheckerFixtures
