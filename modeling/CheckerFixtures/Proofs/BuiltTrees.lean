/-
**Trees that are built.**

A tree is built from the empty one by directories, each with all directories above it, and by files
in directories. If the names are ones that files can have, and no file is where a directory should
be, the tree is proper.

* `get?_addDirectory`: what is where once a directory was added;
* `IsProper.addDirectory`, `IsProper.write`: both steps keep a tree proper.
-/

import CheckerFixtures.Proofs.Places

namespace CheckerFixtures.FileTree

open CheckerFixtures.Path (IsNameSegment)

variable {tree : FileTree} {place other : Place}

/-- In the empty tree there is nothing but the root. -/
theorem get?_empty (filled : place ≠ []) : FileTree.empty.get? place = none := by
  rw [get?, if_neg filled]
  rfl

theorem get?_empty_ne_file (place : Place) (bytes : List UInt8) :
    FileTree.empty.get? place ≠ some (.file bytes) := by
  by_cases top : place = []
  · rw [top, get?_root]
    simp
  · rw [get?_empty top]
    simp

/-- **What is where once a directory was added**: directories at the place and above it, as far as
nothing was there. -/
theorem get?_addDirectory (tree : FileTree) (place : Place) {other : Place} (named : other ≠ []) :
    (tree.addDirectory place).get? other =
      (tree.get? other).or (if other <+: place then some .directory else none) := by
  have taken : other <+: place ↔ ∃ count ∈ List.range (place.length + 1),
      place.take count = other := by
    constructor
    · intro front
      refine ⟨other.length, List.mem_range.mpr (Nat.lt_succ_of_le front.length_le), ?_⟩
      exact (List.prefix_iff_eq_take.mp front).symm
    · rintro ⟨count, -, rfl⟩
      exact List.take_prefix count place
  rw [if_congr taken rfl rfl, addDirectory]
  generalize List.range (place.length + 1) = counts
  induction counts generalizing tree with
  | nil => simp
  | cons count counts ih =>
    rw [List.foldl_cons, ih]
    split
    · rename_i there
      by_cases here : place.take count = other
      · obtain ⟨entry, found⟩ := Option.isSome_iff_exists.mp (here ▸ there)
        rw [found, Option.some_or, Option.some_or]
      · simp [here]
    · rename_i missing
      have inserted : get? ⟨tree.entries.insert (place.take count) .directory⟩ other =
          if other = place.take count then some .directory else tree.get? other := by
        simp [get?, named, SortedMap.get?_insert]
      rw [inserted]
      by_cases here : place.take count = other
      · have nothing := Option.not_isSome_iff_eq_none.mp (here ▸ missing)
        rw [if_pos here.symm, Option.some_or, nothing, Option.none_or,
          if_pos ⟨count, List.mem_cons_self, here⟩]
      · rw [if_neg (Ne.symm here)]
        simp [here]

/-- A name that a file can have. -/
structure IsFileName (name : String) : Prop where
  isSegment : IsNameSegment name.toList
  noNul : '\x00' ∉ name.toList
  short : (Utf8.encode name.toList).length ≤ longestName

namespace IsProper

/-- A tree is proper if all that can be looked up has such names and lies in directories. -/
theorem of_get? (named : ∀ place entry, tree.get? place = some entry →
      ∀ name ∈ place, IsFileName name)
    (nested : ∀ place entry, tree.get? place = some entry →
      tree.get? place.dropLast = some .directory) : tree.IsProper := by
  have found : ∀ entry ∈ tree.entries.entries, ∃ entry', tree.get? entry.1 = some entry' := by
    intro entry listed
    by_cases top : entry.1 = []
    · exact ⟨_, top ▸ get?_root tree⟩
    · rw [get?, if_neg top]
      exact ⟨_, SortedMap.get?_eq_some_iff.mpr listed⟩
  constructor
  · intro entry listed name inside
    obtain ⟨entry', there⟩ := found entry listed
    exact (named _ _ there name inside).isSegment
  · intro entry listed name inside
    obtain ⟨entry', there⟩ := found entry listed
    exact ⟨(named _ _ there name inside).noNul, (named _ _ there name inside).short⟩
  · intro entry listed
    obtain ⟨entry', there⟩ := found entry listed
    exact nested _ _ there

theorem isFileName (proper : tree.IsProper) {entry : Entry} (found : tree.get? place = some entry) :
    ∀ name ∈ place, IsFileName name := fun name inside =>
  ⟨proper.named_of_get? found name inside, (proper.storable_of_get? found name inside).1,
    (proper.storable_of_get? found name inside).2⟩

theorem empty : FileTree.empty.IsProper :=
  ⟨fun _ listed => absurd listed List.not_mem_nil, fun _ listed => absurd listed List.not_mem_nil,
    fun _ listed => absurd listed List.not_mem_nil⟩

/-- **Adding a directory keeps a tree proper** if no file is on the way. -/
theorem addDirectory (proper : tree.IsProper) (named : ∀ name ∈ place, IsFileName name)
    (free : ∀ front, front <+: place → ∀ bytes, tree.get? front ≠ some (.file bytes)) :
    (tree.addDirectory place).IsProper := by
  have added : ∀ {other entry}, other ≠ [] → (tree.addDirectory place).get? other = some entry →
      tree.get? other = some entry ∨ other <+: place := by
    intro other entry filled found
    rw [get?_addDirectory tree place filled, Option.or_eq_some_iff] at found
    rcases found with found | ⟨-, found⟩
    · exact .inl found
    · exact .inr (by by_contra aside; rw [if_neg aside] at found; cases found)
  refine of_get? (fun other entry found => ?_) (fun other entry found => ?_)
  · by_cases top : other = []
    · simp [top]
    · rcases added top found with found | front
      · exact proper.isFileName found
      · exact fun name inside => named name (front.subset inside)
  · by_cases top : other.dropLast = []
    · rw [top, get?_root]
    · have filled : other ≠ [] := fun empty => top (by rw [empty, List.dropLast_nil])
      rw [get?_addDirectory tree place top, Option.or_eq_some_iff]
      rcases added filled found with found | front
      · exact .inl (proper.get?_dropLast found)
      · have above := (List.dropLast_prefix other).trans front
        cases there : tree.get? other.dropLast with
        | none => exact .inr ⟨rfl, if_pos above⟩
        | some entry =>
          cases entry with
          | directory => exact .inl rfl
          | file bytes => exact absurd there (free _ above bytes)

/-- **Writing a file keeps a tree proper** if it lies in a directory and replaces none. -/
theorem write (proper : tree.IsProper) (filled : place ≠ [])
    (named : ∀ name ∈ place, IsFileName name)
    (above : tree.get? place.dropLast = some .directory)
    (free : tree.get? place ≠ some .directory) (bytes : List UInt8) :
    (tree.write place bytes).IsProper := by
  have kept : ∀ {other}, tree.get? other = some .directory →
      (tree.write place bytes).get? other = some .directory := by
    intro other there
    have aside : other ≠ place := by
      rintro rfl
      exact free there
    rw [get?_write_of_ne aside]
    exact there
  refine of_get? (fun other entry found => ?_) (fun other entry found => ?_)
  · by_cases here : other = place
    · exact here ▸ named
    · rw [get?_write_of_ne here] at found
      exact proper.isFileName found
  · by_cases here : other = place
    · exact kept (here ▸ above)
    · rw [get?_write_of_ne here] at found
      exact kept (proper.get?_dropLast found)

end IsProper

end CheckerFixtures.FileTree
