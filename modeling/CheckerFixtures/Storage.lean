/-
**Storage.**

What a program writes goes where the system lets it go. A symbolic link leads it to another place,
a file may not be opened for writing, and a write that has begun may break off when there is no
room left; then a part of the bytes is in the file. The output, too, may be closed before all is
printed.

* `write_eq_of_whole`: a write that does not break off is done as a whole or not at all;
* `get?_write_of_ne`: a write changes nothing but the file it leads to.
-/

import CheckerFixtures.FileTree

namespace CheckerFixtures

/-- What the system does with what is written. By itself it takes everything as it comes. -/
structure Storage where
  /-- Where a place leads; without a symbolic link to itself. -/
  target : Place → Place := id
  /-- Why a file is not opened for writing, although the tree has room for it. -/
  refusal? : Place → Option FileError := fun _ => none
  /-- How many bytes of a file can be written, if not as many as one likes. -/
  room? : Place → Option Nat := fun _ => none
  /-- How many characters can be printed, if not as many as one likes. -/
  outputRoom? : Option Nat := none

namespace Storage

/-- Why a file is not opened for writing, if it is not. -/
def refused? (storage : Storage) (tree : FileTree) (place : Place) : Option FileError :=
  (tree.blocked? (storage.target place)).or (storage.refusal? (storage.target place))

/-- Writes a file where a place leads, instead of what was in it. The files afterwards, and why
the write failed, if it did. -/
def write (storage : Storage) (tree : FileTree) (place : Place) (bytes : List UInt8) :
    FileTree × Option FileError :=
  let target := storage.target place
  match storage.refused? tree place with
  | some problem => (tree, some problem)
  | none =>
    let kept := (storage.room? target).elim bytes bytes.take
    (tree.write target kept, if kept = bytes then none else some .full)

/-- What gets through of what is printed. -/
def print (storage : Storage) (output : List Char) : List Char :=
  storage.outputRoom?.elim output output.take

/-! ### Laws -/

/-- A write that does not break off is done as a whole or not at all. -/
theorem write_eq_of_whole {storage : Storage} {place : Place}
    (whole : storage.room? (storage.target place) = none) (tree : FileTree)
    (bytes : List UInt8) :
    storage.write tree place bytes =
      match storage.refused? tree place with
      | some problem => (tree, some problem)
      | none => (tree.write (storage.target place) bytes, none) := by
  unfold write
  split
  · rfl
  · dsimp only
    rw [whole]
    exact Prod.ext rfl (if_pos rfl)

/-- A write changes nothing but the file it leads to. -/
theorem get?_write_of_ne {storage : Storage} {place other : Place}
    (differs : other ≠ storage.target place) (tree : FileTree) (bytes : List UInt8) :
    (storage.write tree place bytes).1.get? other = tree.get? other := by
  unfold write
  split
  · rfl
  · exact FileTree.get?_write_of_ne differs tree _

end Storage

end CheckerFixtures
