/-
**Paths that end in dots.**

A run in a directory looks for a project file behind a dot. A path with dots behind its last name
leads to the same directory, has the same parent, and by it the same files are found, but it is
longer. So a project file may be passed over in the directory itself that is found from below.

* `IsPathOf.parent?`, `IsPathOf.parent?_child`: going up from a path that ends in dots;
* `IsPathOf.spells`: such a path spells out its place;
* `utf8ByteSize_child_pathOf`, `utf8ByteSize_child_dot`: how long the paths of files are;
* `find?_projectPaths_of_isPathOf`: the project file is found from every directory below it;
* `find?_projectPaths_of_long`: unless its path is too long.
-/

import CheckerFixtures.Proofs.DirectoryFiles

namespace CheckerFixtures

open CheckerFixtures.Path (IsNameSegment isSilent loud)

/-! ### Paths that end in dots -/

namespace Path

/-- A path of a place, perhaps with dots behind it. -/
structure IsPathOf (path : Path) (place : Place) : Prop where
  absolute : path.isAbsolute = true
  named : ∀ name ∈ place, IsNameSegment name.toList
  cut : ∃ dots, (∀ segment ∈ dots, isSilent segment = true) ∧
    path.trunk = [] :: (place.map String.toList ++ dots)

theorem silent_nil : ∀ segment ∈ ([] : List (List Char)), isSilent segment = true :=
  fun _ member => absurd member List.not_mem_nil

theorem silent_concat {dots : List (List Char)} {last : List Char}
    (silent : ∀ segment ∈ dots, isSilent segment = true) (silent' : isSilent last = true) :
    ∀ segment ∈ dots ++ [last], isSilent segment = true := by
  intro segment member
  rcases List.mem_append.mp member with front | behind
  · exact silent segment front
  · rwa [List.mem_singleton.mp behind]

theorem isPathOf_pathOf {place : Place} (named : ∀ name ∈ place, IsNameSegment name.toList) :
    IsPathOf (FileTree.pathOf place) place where
  absolute := FileTree.isAbsolute_pathOf place
  named := named
  cut := ⟨[], silent_nil, by rw [FileTree.trunk_pathOf named, List.append_nil]⟩

theorem rdropWhile_append_of_silent (segments : List (List Char)) {dots : List (List Char)}
    (silent : ∀ segment ∈ dots, isSilent segment = true) :
    (segments ++ dots).rdropWhile isSilent = segments.rdropWhile isSilent := by
  unfold List.rdropWhile
  rw [List.reverse_append, List.dropWhile_append_of_pos]
  exact fun segment member => silent segment (List.mem_reverse.mp member)

/-- The parent of a path that goes on from a place by one segment, with dots around it. -/
theorem parent?_of_segments {path : Path} {place : Place} {dots dots' : List (List Char)}
    {last : List Char} (named : ∀ name ∈ place, IsNameSegment name.toList)
    (silent : ∀ segment ∈ dots, isSilent segment = true)
    (silent' : ∀ segment ∈ dots', isSilent segment = true) (isLoud : isSilent last = false)
    (cut : path.segments = [] :: (place.map String.toList ++ dots ++ [last] ++ dots')) :
    path.parent? = some (FileTree.pathOf place) := by
  have bared : (place.map String.toList ++ dots ++ [last] ++ dots').rdropWhile isSilent =
      place.map String.toList ++ dots ++ [last] := by
    rw [rdropWhile_append_of_silent _ silent', List.rdropWhile_concat, if_neg (by simp [isLoud])]
  have left : (place.map String.toList ++ dots).rdropWhile isSilent = place.map String.toList := by
    rw [rdropWhile_append_of_silent _ silent, List.rdropWhile_eq_self_iff]
    intro filled
    obtain ⟨name, listed, same⟩ := List.mem_map.mp (List.getLast_mem filled)
    rw [← same, (named name listed).isLoud]
    exact Bool.false_ne_true
  rw [parent?_of_rdropWhile_eq cut bared, left]
  by_cases top : place = []
  · rw [top]
    rfl
  · have whole := FileTree.segments_pathOf named
    rw [if_neg top] at whole
    rw [if_neg (by simpa using top), ← whole, ofSegments_segments]

namespace IsPathOf

variable {path : Path} {place : Place}

/-- A dot in a directory leads to the directory. -/
theorem dot (there : IsPathOf path place) : IsPathOf (path.child ".") place where
  absolute := (isAbsolute_child path (by decide)).trans there.absolute
  named := there.named
  cut := by
    obtain ⟨dots, silent, cut⟩ := there.cut
    refine ⟨dots ++ [['.']], silent_concat silent rfl, ?_⟩
    rw [trunk_child path (by decide) (by decide), cut, List.cons_append, List.append_assoc]
    rfl

/-- Dots behind the names of a place change nothing. -/
theorem spells (there : IsPathOf path place) : Spells path place where
  absolute := there.absolute
  named := there.named
  names := by
    obtain ⟨dots, silent, cut⟩ := there.cut
    have none : loud dots = [] :=
      List.filter_eq_nil_iff.mpr fun segment member => by simp [silent segment member]
    rw [← Path.loud_trunk, cut, loud_cons_of_silent rfl, loud_append, none, List.append_nil]
    exact loud_of_named (isNameSegment_of_mem_map there.named)

/-- **The parent of a path of a place** is the path of the place above. -/
theorem parent? {name : String} (there : IsPathOf path (place ++ [name])) :
    path.parent? = some (FileTree.pathOf place) := by
  obtain ⟨dots, silent, cut⟩ := there.cut
  have isLoud := (there.named name List.mem_concat_self).isLoud
  have named : ∀ other ∈ place, IsNameSegment other.toList :=
    fun other listed => there.named other (List.mem_append_left _ listed)
  rw [List.map_append, List.map_singleton] at cut
  rcases path.segments_eq_trunk with whole | ⟨whole, -⟩
  · -- an empty segment at the end is one more dot
    have silent' := silent_concat silent (by decide : isSilent [] = true)
    refine parent?_of_segments named silent_nil silent' isLoud ?_
    rw [whole, cut]
    simp
  · exact parent?_of_segments named silent_nil silent isLoud (by rw [whole, cut, List.append_nil])

/-- The parent of a file in the directory of a place is the path of the place. -/
theorem parent?_child (there : IsPathOf path place) {name : String}
    (named : IsNameSegment name.toList) :
    (path.child name).parent? = some (FileTree.pathOf place) := by
  obtain ⟨dots, silent, cut⟩ := there.cut
  refine parent?_of_segments there.named silent silent_nil named.isLoud ?_
  rw [segments_child path named.noSlash, cut, List.append_nil]
  rfl

/-- A dot makes the paths of files longer. -/
theorem utf8ByteSize_child_le (there : IsPathOf path place) {name : String}
    (noSlash : '/' ∉ name.toList) :
    (path.child name).text.utf8ByteSize ≤ ((path.child ".").child name).text.utf8ByteSize := by
  have front : path.trunk ≠ [] := by
    obtain ⟨dots, -, cut⟩ := there.cut
    rw [cut]
    exact List.cons_ne_nil _ _
  have plain : (path.child name).text =
      String.ofList (List.intercalate ['/'] path.trunk) ++ "/" ++ name := by
    rw [← String.toList_inj, toList_child front noSlash]
    simp
  have dotted : ((path.child ".").child name).text =
      String.ofList (List.intercalate ['/'] path.trunk) ++ "/./" ++ name := by
    have cut : (path.child ".").trunk = path.trunk ++ [['.']] :=
      trunk_child path (by decide) (by decide)
    rw [← String.toList_inj, toList_child (by simp [cut]) noSlash, cut, intercalate_concat front]
    simp
  have short : "/".utf8ByteSize ≤ "/./".utf8ByteSize := by decide
  rw [plain, dotted, String.utf8ByteSize_append, String.utf8ByteSize_append,
    String.utf8ByteSize_append, String.utf8ByteSize_append]
  omega

end IsPathOf

end Path

/-! ### Lengths -/

namespace Path

theorem utf8ByteSize_ofSegments_concat {front : List (List Char)} (some : front ≠ [])
    (last : List Char) :
    (ofSegments (front ++ [last])).text.utf8ByteSize =
      (ofSegments front).text.utf8ByteSize + 1 + (String.ofList last).utf8ByteSize := by
  have whole : (ofSegments (front ++ [last])).text =
      (ofSegments front).text ++ "/" ++ String.ofList last := by
    rw [← String.toList_inj, ofSegments, ofSegments, intercalate_concat some]
    simp
  rw [whole, String.utf8ByteSize_append, String.utf8ByteSize_append]
  rfl

/-- The bytes of some names with a slash before each. -/
def spelledSize : Place → Nat
  | [] => 0
  | name :: names => name.utf8ByteSize + 1 + spelledSize names

theorem spelledSize_append (front behind : Place) :
    spelledSize (front ++ behind) = spelledSize front + spelledSize behind := by
  induction front with
  | nil => exact (Nat.zero_add _).symm
  | cons name names ih =>
    rw [List.cons_append, spelledSize, spelledSize, ih]
    exact (Nat.add_assoc _ _ _).symm

theorem spelledSize_replicate (count : Nat) (name : String) :
    spelledSize (List.replicate count name) = count * (name.utf8ByteSize + 1) := by
  induction count with
  | zero => exact (Nat.zero_mul _).symm
  | succ count ih => rw [List.replicate_succ, spelledSize, ih, Nat.succ_mul, Nat.add_comm]

theorem utf8ByteSize_ofSegments_names (place : Place) :
    (ofSegments ([] :: place.map String.toList)).text.utf8ByteSize = spelledSize place := by
  induction place using List.reverseRecOn with
  | nil => rfl
  | append_singleton place name ih =>
    rw [List.map_append, ← List.cons_append, List.map_singleton,
      utf8ByteSize_ofSegments_concat (List.cons_ne_nil _ _), ih, String.ofList_toList,
      spelledSize_append, spelledSize, spelledSize]
    omega

theorem utf8ByteSize_child {base : Path} {name : String} (front : base.trunk ≠ [])
    (noSlash : '/' ∉ name.toList) :
    (base.child name).text.utf8ByteSize =
      (ofSegments base.trunk).text.utf8ByteSize + 1 + name.utf8ByteSize := by
  have whole : base.child name = ofSegments (base.trunk ++ [name.toList]) := by
    rw [← segments_child base noSlash, ofSegments_segments]
  rw [whole, utf8ByteSize_ofSegments_concat front, String.ofList_toList]

variable {place : Place} {name : String}

theorem utf8ByteSize_child_pathOf (named : ∀ other ∈ place, IsNameSegment other.toList)
    (noSlash : '/' ∉ name.toList) :
    ((FileTree.pathOf place).child name).text.utf8ByteSize =
      spelledSize place + 1 + name.utf8ByteSize := by
  have trunk := FileTree.trunk_pathOf named
  rw [utf8ByteSize_child (by simp [trunk]) noSlash, trunk, utf8ByteSize_ofSegments_names]

/-- A dot takes two more bytes. -/
theorem utf8ByteSize_child_dot (named : ∀ other ∈ place, IsNameSegment other.toList)
    (noSlash : '/' ∉ name.toList) :
    (((FileTree.pathOf place).child ".").child name).text.utf8ByteSize =
      spelledSize place + 3 + name.utf8ByteSize := by
  have trunk : ((FileTree.pathOf place).child ".").trunk =
      ([] :: place.map String.toList) ++ [['.']] := by
    rw [trunk_child _ (by decide) (by decide), FileTree.trunk_pathOf named]
    rfl
  have dot : (String.ofList ['.']).utf8ByteSize = 1 := by decide
  rw [utf8ByteSize_child (by simp [trunk]) noSlash, trunk,
    utf8ByteSize_ofSegments_concat (List.cons_ne_nil _ _), utf8ByteSize_ofSegments_names, dot]

end Path

/-! ### The search -/

namespace ConfigSource

/-- The project file of a directory: of several the one with the preferred name. -/
def projectName? (tree : FileTree) (directory : Place) : Option String :=
  projectNames.find? fun name => tree.holdsFile (directory ++ [name])

variable {tree : FileTree} {path : Path} {directory place start : Place} {name : String}

/-- Without a project file in a directory none is found there. -/
theorem find?_eq_none_of_projectName? (proper : tree.IsProper) (there : path.IsPathOf place)
    (bare : projectName? tree place = none) :
    (projectNames.map path.child).find? (tree.isFile start) = none := by
  rw [find?_child proper there.spells, Option.map_eq_none_iff, List.find?_eq_none]
  intro name listed found
  exact List.find?_eq_none.mp bare name listed (Bool.and_eq_true_iff.mp found).1

/-- The project file of a directory is found by every path of the directory. -/
theorem find?_of_projectName? (proper : tree.IsProper) (there : path.IsPathOf place)
    (holds : projectName? tree place = some name)
    (short : (path.child name).text.utf8ByteSize ≤ FileTree.longestPath) :
    (projectNames.map path.child).find? (tree.isFile start) = some (path.child name) := by
  obtain ⟨file, front, behind, whole, others⟩ := List.find?_eq_some_iff_append.mp holds
  rw [find?_child proper there.spells, Option.map_eq_some_iff]
  refine ⟨name, List.find?_eq_some_iff_append.mpr ⟨?_, front, behind, whole, ?_⟩, rfl⟩
  · rw [file, decide_eq_true short]
    rfl
  · intro other member
    rw [Bool.not_and, others other member, Bool.true_or]

/-- **The project file is found from every directory below it**, by some path of its directory,
unless there is another one on the way. -/
theorem find?_projectPaths_of_isPathOf (proper : tree.IsProper) {below : Place}
    (there : path.IsPathOf (directory ++ below))
    (bare : ∀ more, more ≠ [] → more <+: below → projectName? tree (directory ++ more) = none)
    (holds : projectName? tree directory = some name)
    (short : below = [] → (path.child name).text.utf8ByteSize ≤ FileTree.longestPath)
    (short' : ((FileTree.pathOf directory).child name).text.utf8ByteSize ≤ FileTree.longestPath) :
    ∃ found : Path, found.IsPathOf directory ∧
      (projectPaths path).find? (tree.isFile start) = some (found.child name) := by
  induction below using List.reverseRecOn generalizing path with
  | nil =>
    rw [List.append_nil] at there
    refine ⟨path, there, ?_⟩
    rw [find?_projectPaths, find?_of_projectName? proper there holds (short rfl), Option.some_or]
  | append_singleton below last ih =>
    have bare' := bare (below ++ [last]) (by simp) List.prefix_rfl
    rw [find?_projectPaths, find?_eq_none_of_projectName? proper there bare', Option.none_or]
    rw [← List.append_assoc] at there
    rw [there.parent?, Option.bind_some]
    refine ih (Path.isPathOf_pathOf fun other listed => ?_) (fun more filled front => ?_) ?_
    · exact there.named other (List.mem_append_left _ listed)
    · exact bare more filled (front.trans (List.prefix_append _ _))
    · rintro rfl
      rwa [List.append_nil]

/-- Without a project file in a directory or above it none is found. -/
theorem find?_projectPaths_of_bare (proper : tree.IsProper) (there : path.IsPathOf place)
    (bare : ∀ above, above <+: place → projectName? tree above = none) :
    (projectPaths path).find? (tree.isFile start) = none := by
  induction place using List.reverseRecOn generalizing path with
  | nil =>
    rw [find?_projectPaths, find?_eq_none_of_projectName? proper there (bare [] List.prefix_rfl),
      there.spells.parent?_root]
    rfl
  | append_singleton place last ih =>
    have named := fun other listed => there.named other (List.mem_append_left [last] listed)
    rw [find?_projectPaths, find?_eq_none_of_projectName? proper there (bare _ List.prefix_rfl),
      there.parent?, Option.none_or, Option.bind_some]
    exact ih (Path.isPathOf_pathOf named) fun above front =>
      bare above (front.trans (List.prefix_append _ _))

/-- **A project file is passed over if its path is too long**, and then only directories above
count. -/
theorem find?_projectPaths_of_long (proper : tree.IsProper) {last : String}
    (there : path.IsPathOf (place ++ [last]))
    (long : ∀ name ∈ projectNames, FileTree.longestPath < (path.child name).text.utf8ByteSize)
    (bare : ∀ above, above <+: place → projectName? tree above = none) :
    (projectPaths path).find? (tree.isFile start) = none := by
  have named := fun other listed => there.named other (List.mem_append_left [last] listed)
  have passed : (projectNames.map path.child).find? (tree.isFile start) = none := by
    rw [find?_child proper there.spells, Option.map_eq_none_iff, List.find?_eq_none]
    intro name listed found
    exact Nat.not_le.mpr (long name listed) (of_decide_eq_true (Bool.and_eq_true_iff.mp found).2)
  rw [find?_projectPaths, passed, there.parent?, Option.none_or, Option.bind_some]
  exact find?_projectPaths_of_bare proper (Path.isPathOf_pathOf named) bare

end ConfigSource

end CheckerFixtures
