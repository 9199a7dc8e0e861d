/-
**What a walk yields.**

A walk below a directory goes on from the path of the root by names. As seen from the root, a file
is the names that lead to it, however the path of the root is written. A walk may list any files
below the directory, in any order, as long as it lists none twice; then no two are seen alike.

* `relativeTo?_descend`: what is left of a path that goes on from a base by names;
* `IsListing`: files below a place, each once;
* `isListing_visible`: the files that no ignore rule says to skip are such a listing;
* `IsListing.relative`: a listed file is seen as the names that lead to it;
* `IsListing.pairwise_walked`: so no two files are seen alike.
-/

import CheckerFixtures.Collection
import CheckerFixtures.Proofs.Places

namespace CheckerFixtures

open CheckerFixtures.Path (Component IsNameSegment loud)

/-! ### Going down by names -/

namespace Path

variable {base : Path} {names : Place}

theorem trunk_foldl_child (base : Path) (named : ∀ name ∈ names, IsNameSegment name.toList) :
    (names.foldl child base).trunk = base.trunk ++ names.map String.toList := by
  induction names generalizing base with
  | nil => exact (List.append_nil _).symm
  | cons name names ih =>
    rw [List.foldl_cons, ih _ fun other listed => named other (List.mem_cons_of_mem _ listed),
      trunk_child base (named name List.mem_cons_self).noSlash
        (named name List.mem_cons_self).ne_nil, List.map_cons, List.append_assoc]
    rfl

/-- Names behind a path come behind its segments. -/
theorem segments_foldl_child (base : Path) (below : names ≠ [])
    (named : ∀ name ∈ names, IsNameSegment name.toList) :
    (names.foldl child base).segments = base.trunk ++ names.map String.toList := by
  rcases List.eq_nil_or_concat names with none | ⟨front, name, rfl⟩
  · exact absurd none below
  · rw [List.concat_eq_append] at named ⊢
    rw [List.foldl_append, List.foldl_cons, List.foldl_nil,
      segments_child _ (named name List.mem_concat_self).noSlash,
      trunk_foldl_child base fun other listed => named other (List.mem_append_left _ listed),
      List.map_append, List.append_assoc]
    rfl

theorem components_foldl_child (base : Path) (below : names ≠ [])
    (named : ∀ name ∈ names, IsNameSegment name.toList) :
    (names.foldl child base).components = base.components ++ names.map .name := by
  rw [components_of_trunk (segments_foldl_child base below named) (by simpa using below)
    (isNameSegment_of_mem_map named), map_componentOf_names named]

/-- Names alone are a path that passes through them. -/
theorem components_ofSegments (below : names ≠ [])
    (named : ∀ name ∈ names, IsNameSegment name.toList) :
    (ofSegments (names.map String.toList)).components = names.map .name := by
  have cut : (ofSegments (names.map String.toList)).segments =
      trunk ⟨""⟩ ++ names.map String.toList := by
    refine segments_ofSegments (by simpa using below) fun segment member => ?_
    exact (isNameSegment_of_mem_map named segment member).noSlash
  rw [components_of_trunk cut (by simpa using below) (isNameSegment_of_mem_map named),
    map_componentOf_names named]
  rfl

/-! ### Going back to a base -/

theorem dropWhile_of_named {segments : List (List Char)}
    (named : ∀ segment ∈ segments, IsNameSegment segment) :
    segments.dropWhile isSilent = segments := by
  cases segments with
  | nil => rfl
  | cons first others =>
    exact List.dropWhile_cons_of_neg (by simp [(named first List.mem_cons_self).isLoud])

/-- Dropping as many segments as name something in a front leaves what is behind that. -/
theorem dropWhile_dropNamed (front behind : List (List Char)) :
    (dropNamed (loud front).length (front ++ behind)).dropWhile isSilent =
      behind.dropWhile isSilent := by
  induction front with
  | nil => rw [loud, List.filter_nil, List.length_nil, dropNamed, List.nil_append]
  | cons segment front ih =>
    by_cases silent : isSilent segment = true
    · rw [loud_cons_of_silent silent, ← ih]
      cases (loud front).length with
      | zero => rw [dropNamed, dropNamed, List.cons_append, List.dropWhile_cons_of_pos silent]
      | succ count => rw [List.cons_append, dropNamed, if_pos silent]
    · rw [loud_cons_of_loud silent, List.length_cons, List.cons_append, dropNamed, if_neg silent]
      exact ih

/-- Behind its first segment, the trunk of a path has a segment for each further component. -/
theorem exists_trunk (some : base.text ≠ "") :
    ∃ head rest, base.trunk = head :: rest ∧
      base.components.length = (loud rest).length + 1 := by
  rcases base.segments_eq_trunk with cut | ⟨cut, filled⟩
  · cases front : base.trunk with
    | nil =>
      refine absurd (String.toList_inj.mp ?_) some
      rw [toList_text, cut, front]
      rfl
    | cons head rest =>
      rw [front, List.cons_append] at cut
      refine ⟨head, rest, rfl, ?_⟩
      rw [components_eq cut, List.length_append, length_headOf (.inr (by simp)), List.length_map,
        loud_concat_of_silent rest rfl, Nat.add_comm]
  · obtain ⟨head, rest, front⟩ := base.exists_segments
    have headed : head ≠ [] ∨ rest ≠ [] := by
      rw [← not_and_or]
      rintro ⟨rfl, rfl⟩
      exact filled (congrArg List.getLast? front)
    refine ⟨head, rest, cut ▸ front, ?_⟩
    rw [components_eq front, List.length_append, length_headOf headed, List.length_map,
      Nat.add_comm]

/-- **What is left of a path that goes on from a base by names** is those names. -/
theorem relativeTo?_descend (some : base.text ≠ "") (below : names ≠ [])
    (named : ∀ name ∈ names, IsNameSegment name.toList) :
    (names.foldl child base).relativeTo? base = .some (ofSegments (names.map String.toList)) := by
  obtain ⟨head, rest, cut, length⟩ := exists_trunk some
  have filled : base.components ≠ [] := by
    intro none
    rw [none] at length
    cases length
  have segmentsNamed := isNameSegment_of_mem_map named
  unfold relativeTo?
  rw [if_pos (by simp [components_foldl_child base below named]), if_neg filled, length,
    Nat.add_sub_cancel, segments_foldl_child base below named, cut, List.cons_append,
    List.tail_cons]
  dsimp only
  rw [dropWhile_dropNamed, dropWhile_of_named segmentsNamed, dropWhile_of_named,
    List.reverse_reverse]
  exact fun segment member => segmentsNamed segment (List.mem_reverse.mp member)

end Path

/-- **A file is seen from the root as the names that lead to it.** -/
theorem Loader.relative_descend {loader : Loader} {names : Place} (some : loader.root.text ≠ "")
    (below : names ≠ []) (named : ∀ name ∈ names, IsNameSegment name.toList) :
    loader.relative (names.foldl Path.child loader.root) =
      Path.ofSegments (names.map String.toList) := by
  unfold relative
  rw [if_neg (by simpa [Path.components_foldl_child _ below named] using below),
    Path.relativeTo?_descend some below named, Option.getD_some]

/-! ### Entries below a place -/

namespace FileTree

theorem namesBelow?_eq_some {place found names : Place}
    (below : namesBelow? place found = some names) : found = place ++ names ∧ names ≠ [] := by
  induction place generalizing found with
  | nil =>
    rw [namesBelow?] at below
    split at below
    · cases below
    · rename_i filled
      cases below
      exact ⟨rfl, filled⟩
  | cons name place ih =>
    cases found with
    | nil => cases below
    | cons other found =>
      rw [namesBelow?] at below
      split at below
      · rename_i same
        obtain ⟨rfl, filled⟩ := ih below
        exact ⟨congrArg (· :: _) same.symm, filled⟩
      · cases below

/-- A file below a place is an entry of the tree. -/
theorem mem_entries_of_mem_filesBelow {tree : FileTree} {place names : Place}
    {bytes : List UInt8} (member : (names, bytes) ∈ tree.filesBelow place) :
    (place ++ names, .file bytes) ∈ tree.entries.entries ∧ names ≠ [] := by
  obtain ⟨⟨found, entry⟩, listed, same⟩ := List.mem_filterMap.mp member
  dsimp only at same
  split at same
  · rename_i below
    cases same
    obtain ⟨rfl, filled⟩ := namesBelow?_eq_some below
    exact ⟨listed, filled⟩
  · cases same

/-- Different names lead to different files. -/
theorem filesBelow_pairwise (tree : FileTree) (place : Place) :
    (tree.filesBelow place).Pairwise fun first second => first.1 ≠ second.1 := by
  refine List.Pairwise.filterMap _ ?_ tree.entries.ascending
  rintro ⟨found, entry⟩ ⟨found', entry'⟩ ascending ⟨names, bytes⟩ listed ⟨names', bytes'⟩ listed'
  dsimp only at listed listed' ascending ⊢
  split at listed
  · rename_i below
    split at listed'
    · rename_i below'
      cases listed
      cases listed'
      rintro rfl
      rw [(namesBelow?_eq_some below).1, (namesBelow?_eq_some below').1] at ascending
      exact Std.lt_irrefl ascending
    · cases listed'
  · cases listed

/-- Files below a place, each once, in whatever order. -/
structure IsListing (tree : FileTree) (place : Place) (found : List (Place × List UInt8)) :
    Prop where
  once : found.Pairwise fun first second => first.1 ≠ second.1
  below : ∀ file ∈ found, file.1 ≠ []
  isFile : ∀ file ∈ found, tree.get? (place ++ file.1) = some (.file file.2)

namespace IsListing

variable {tree : FileTree} {place : Place} {found : List (Place × List UInt8)}

theorem filter (listing : tree.IsListing place found) (test : Place × List UInt8 → Bool) :
    tree.IsListing place (found.filter test) where
  once := listing.once.filter test
  below := fun file listed => listing.below file (List.mem_of_mem_filter listed)
  isFile := fun file listed => listing.isFile file (List.mem_of_mem_filter listed)

theorem named (listing : tree.IsListing place found) (proper : tree.IsProper)
    {file : Place × List UInt8} (listed : file ∈ found) :
    ∀ name ∈ file.1, IsNameSegment name.toList := fun name inside =>
  proper.named_of_get? (listing.isFile file listed) name (List.mem_append_right _ inside)

end IsListing

theorem isListing_filesBelow (tree : FileTree) (place : Place) :
    tree.IsListing place (tree.filesBelow place) where
  once := tree.filesBelow_pairwise place
  below := fun _ listed => (mem_entries_of_mem_filesBelow listed).2
  isFile := fun (names, _) listed => by
    obtain ⟨entry, below⟩ := mem_entries_of_mem_filesBelow listed
    rw [get?, if_neg (by simp [below])]
    exact SortedMap.get?_eq_some_iff.mpr entry

end FileTree

namespace Loader

/-- **The files that no ignore rule says to skip are listed once each.** -/
theorem isListing_visible (loader : Loader) (tree : FileTree) (place : Place) :
    tree.IsListing place (loader.visible tree place) :=
  (tree.isListing_filesBelow place).filter _

/-- A path as it is seen from the root, by the names that lead to it. -/
def seenPath (names : Place) : Path := .ofSegments (names.map String.toList)

end Loader

namespace FileTree.IsListing

variable {loader : Loader} {tree : FileTree} {place : Place} {found : List (Place × List UInt8)}
  {file : Place × List UInt8}

/-- **A listed file is seen as the names that lead to it.** -/
theorem relative (listing : tree.IsListing place found) (proper : tree.IsProper)
    (some : loader.root.text ≠ "") (listed : file ∈ found) :
    loader.relative (loader.walkedPath file.1) = Loader.seenPath file.1 :=
  Loader.relative_descend some (listing.below file listed) (listing.named proper listed)

/-- A walk goes on from the root by the names as which a file is seen. -/
theorem components_walkedPath (listing : tree.IsListing place found) (proper : tree.IsProper)
    (listed : file ∈ found) : (loader.walkedPath file.1).components =
      loader.root.components ++ (Loader.seenPath file.1).components := by
  have below := listing.below file listed
  have named := listing.named proper listed
  rw [Loader.walkedPath, Loader.seenPath, Path.components_foldl_child _ below named,
    Path.components_ofSegments below named]

/-- The last of the names is the name of the file. -/
theorem fileName?_walkedPath (listing : tree.IsListing place found) (proper : tree.IsProper)
    (listed : file ∈ found) : (loader.walkedPath file.1).fileName? = file.1.getLast? := by
  have below := listing.below file listed
  rw [Path.fileName?, Loader.walkedPath,
    Path.components_foldl_child _ below (listing.named proper listed),
    List.getLast?_append_of_ne_nil _ (by simpa using below), List.getLast?_map]
  cases file.1.getLast? <;> rfl

/-- **No two listed files are seen alike.** -/
theorem pairwise_walked (listing : tree.IsListing place found) (proper : tree.IsProper)
    (some : loader.root.text ≠ "") :
    (loader.walked found).Pairwise fun first second =>
      (loader.relative first.path).components ≠ (loader.relative second.path).components := by
  refine List.pairwise_map.mpr (listing.once.imp_of_mem ?_)
  intro first second listed listed' differ same
  rw [listing.relative proper some listed, listing.relative proper some listed', Loader.seenPath,
    Loader.seenPath,
    Path.components_ofSegments (listing.below first listed) (listing.named proper listed),
    Path.components_ofSegments (listing.below second listed') (listing.named proper listed')]
    at same
  refine differ (List.map_injective_iff.mpr ?_ same)
  exact fun _ _ => Component.name.inj

end FileTree.IsListing

end CheckerFixtures
