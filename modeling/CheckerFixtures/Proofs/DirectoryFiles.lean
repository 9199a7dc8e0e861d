/-
**Files of a directory.**

The same directory can be written in many ways: empty segments and dots may stand between its
names and behind them. By each absolute path that takes nothing back the same files are found in
it, unless the path of the file gets too long to be opened.

* `spells_of_straight`: an absolute path without two dots spells out where it leads;
* `Spells.locate_child`: an entry of a directory is found by every path of the directory;
* `Spells.isFile_child_iff`: so is a file, by a path that is not too long;
* `Spells.existsUnique_front`: each directory above has one path among the ancestors;
* `find?_projectPaths`: the search looks into a directory and then goes on above it;
* `find?_child`: in a directory it takes the first of the project files that can be opened.
-/

import CheckerFixtures.Proofs.NearestConfig
import Mathlib.Data.List.Find

namespace CheckerFixtures

open CheckerFixtures.Path (IsNameSegment isSilent loud placeFrom)

/-! ### Paths that spell out a place -/

namespace Path

theorem text_ne_empty_of_isAbsolute {path : Path} (absolute : path.isAbsolute = true) :
    path.text ≠ "" := by
  intro empty
  rw [isAbsolute, empty] at absolute
  cases absolute

theorem isAbsolute_child (base : Path) {name : String} (noSlash : '/' ∉ name.toList) :
    (base.child name).isAbsolute = base.isAbsolute :=
  isAbsolute_join (isAbsolute_name noSlash)

theorem nul_notMem_of_isSilent {segment : List Char} (silent : isSilent segment = true) :
    '\x00' ∉ segment := by
  rcases (Bool.or_eq_true _ _).mp silent with empty | dot
  · rw [of_decide_eq_true empty]
    exact List.not_mem_nil
  · rw [of_decide_eq_true dot]
    decide

/-- An absolute path with the names of a place; dots may stand between them and behind them. -/
structure Spells (path : Path) (place : Place) : Prop where
  absolute : path.isAbsolute = true
  named : ∀ name ∈ place, IsNameSegment name.toList
  names : loud path.segments = place.map String.toList

/-- Two dots are a component where they are a segment. -/
theorem parent_mem_components_iff (path : Path) :
    .parent ∈ path.components ↔ ['.', '.'] ∈ path.segments := by
  have named : ∀ segment, componentOf segment = .parent ↔ segment = ['.', '.'] := by
    intro segment
    unfold componentOf
    split <;> simp [*]
  obtain ⟨head, tail, cut⟩ := path.exists_segments
  have first : .parent ∈ headOf head tail ↔ head = ['.', '.'] := by
    unfold headOf
    split
    · rename_i empty
      split <;> simp [empty]
    · split
      · rename_i dot
        simp [dot]
      · rw [List.mem_singleton, eq_comm, named]
  have later : .parent ∈ (loud tail).map componentOf ↔ ['.', '.'] ∈ tail := by
    rw [List.mem_map]
    constructor
    · rintro ⟨segment, isLoud, up⟩
      exact (named segment).mp up ▸ List.mem_of_mem_filter isLoud
    · exact fun member => ⟨_, List.mem_filter.mpr ⟨member, rfl⟩, rfl⟩
  rw [components_eq cut, cut, List.mem_append, first, later, List.mem_cons, eq_comm]

theorem parent_notMem_join {base path : Path} (straight : .parent ∉ base.components)
    (straight' : .parent ∉ path.components) : .parent ∉ (base.join path).components := by
  cases given : path.isAbsolute with
  | true => rwa [join_absolute given]
  | false =>
    rw [parent_mem_components_iff] at straight straight' ⊢
    rw [segments_join given, List.mem_append, not_or]
    refine ⟨fun member => straight ?_, straight'⟩
    rcases base.segments_eq_trunk with whole | ⟨whole, -⟩
    · rw [whole]
      exact List.mem_append_left _ member
    · rwa [whole]

/-- **An absolute path without two dots spells out where it leads.** -/
theorem spells_of_straight {path : Path} (absolute : path.isAbsolute = true)
    (straight : .parent ∉ path.components) : path.Spells (placeFrom [] path.components) := by
  have named : ∀ segment ∈ loud path.segments, IsNameSegment segment := by
    intro segment member
    obtain ⟨listed, isLoud⟩ := List.mem_filter.mp member
    refine ⟨slash_notMem_segments listed, by simpa using isLoud, ?_⟩
    rintro rfl
    exact straight ((parent_mem_components_iff path).mpr listed)
  have place : placeFrom [] path.components = (loud path.segments).map String.ofList := by
    rw [placeFrom_components, if_pos absolute]
    have whole : (loud path.segments).map componentOf =
        ((loud path.segments).map String.ofList).map .name := by
      rw [List.map_map]
      exact List.map_congr_left fun segment member => (named segment member).componentOf_eq
    rw [whole, placeFrom_names, List.nil_append]
  rw [place]
  refine ⟨absolute, ?_, ?_⟩
  · intro name member
    obtain ⟨segment, listed, rfl⟩ := List.mem_map.mp member
    rw [String.toList_ofList]
    exact named segment listed
  · rw [List.map_map]
    exact (List.map_id'' (fun segment => String.toList_ofList) _).symm

namespace Spells

variable {path : Path} {place : Place}

/-- A path that spells out a place leads there. -/
theorem placeFrom_eq (spells : Spells path place) (start : Place) :
    placeFrom start path.components = place := by
  rw [placeFrom_components, if_pos spells.absolute, spells.names,
    map_componentOf_names spells.named, placeFrom_names, List.nil_append]

theorem components_eq (spells : Spells path place) :
    path.components = .root :: place.map .name := by
  obtain ⟨head, tail, cut⟩ := path.exists_segments
  obtain ⟨rfl, some⟩ := (isAbsolute_iff cut).mp spells.absolute
  have names := spells.names
  rw [cut, loud_cons_of_silent rfl] at names
  rw [Path.components_eq cut, names, map_componentOf_names spells.named, headOf, if_pos rfl,
    if_neg some]
  rfl

/-- A path of a place holds no character that no name may hold. -/
theorem nul_notMem (spells : Spells path place)
    (storable : ∀ other ∈ place, '\x00' ∉ other.toList) : '\x00' ∉ path.text.toList := by
  rw [toList_text]
  intro inside
  rcases Text.mem_intercalate inside with wrong | ⟨segment, member, inside⟩
  · cases List.mem_singleton.mp wrong
  by_cases silent : isSilent segment = true
  · exact nul_notMem_of_isSilent silent inside
  · have named : segment ∈ loud path.segments := List.mem_filter.mpr ⟨member, by simp [silent]⟩
    rw [spells.names] at named
    obtain ⟨other, listed, rfl⟩ := List.mem_map.mp named
    exact storable other listed inside

/-- A name in a directory. -/
theorem child (spells : Spells path place) {name : String} (named : IsNameSegment name.toList) :
    Spells (path.child name) (place ++ [name]) where
  absolute := (isAbsolute_child path named.noSlash).trans spells.absolute
  named := by
    intro other listed
    rcases List.mem_append.mp listed with front | last
    · exact spells.named other front
    · rwa [List.mem_singleton.mp last]
  names := by
    rw [segments_child path named.noSlash, loud_append, loud_trunk, spells.names, List.map_append]
    congr 1
    exact loud_of_named (by simpa using named)

/-- A directory is where every path of it leads that is not too long. -/
theorem locate {tree : FileTree} (proper : tree.IsProper) (spells : Spells path place)
    (found : tree.get? place = some .directory)
    (short : path.text.utf8ByteSize ≤ FileTree.longestPath) (start : Place) :
    tree.locate start path = .ok (place, .directory) := by
  refine FileTree.locate_eq_ok_iff.mpr
    ⟨text_ne_empty_of_isAbsolute spells.absolute, ?_, short, ?_, found⟩
  · exact spells.nul_notMem fun other listed => (proper.storable_of_get? found other listed).1
  · rw [if_pos spells.absolute]
    exact proper.follow_of_loud found spells.names

/-- An entry of a directory is where every path of the directory leads. -/
theorem locate_child {tree : FileTree} (proper : tree.IsProper) (spells : Spells path place)
    {name : String} {entry : Entry} (found : tree.get? (place ++ [name]) = some entry)
    (short : (path.child name).text.utf8ByteSize ≤ FileTree.longestPath) (start : Place) :
    tree.locate start (path.child name) = .ok (place ++ [name], entry) := by
  have named := proper.named_of_get? found name List.mem_concat_self
  have storable := proper.storable_of_get? found
  have absolute := (spells.child named).absolute
  refine FileTree.locate_eq_ok_iff.mpr ⟨text_ne_empty_of_isAbsolute absolute, ?_, short, ?_, found⟩
  · exact (spells.child named).nul_notMem fun other listed => (storable other listed).1
  · rw [if_pos absolute, segments_child path named.noSlash, FileTree.follow_append,
      proper.follow_of_loud (proper.get?_above found) ((loud_trunk path).trans spells.names)]
    exact proper.follow_name found

/-- **A file is found by every path of its directory** that is not too long to be opened. -/
theorem isFile_child_iff {tree : FileTree} (proper : tree.IsProper) (spells : Spells path place)
    {name : String} (named : IsNameSegment name.toList) (start : Place) :
    tree.isFile start (path.child name) = true ↔
      tree.holdsFile (place ++ [name]) = true ∧
        (path.child name).text.utf8ByteSize ≤ FileTree.longestPath := by
  unfold FileTree.holdsFile
  constructor
  · intro found
    obtain ⟨bytes, located⟩ := FileTree.locate_child_of_isFile spells.absolute named found
    obtain ⟨-, -, short, -, file⟩ := FileTree.locate_eq_ok_iff.mp located
    rw [spells.placeFrom_eq] at file
    rw [file]
    exact ⟨rfl, short⟩
  · rintro ⟨found, short⟩
    split at found
    · rename_i bytes file
      unfold FileTree.isFile
      rw [spells.locate_child proper file short]
    · cases found

end Spells

end Path

/-! ### The directories above -/

namespace Path.Spells

variable {path front : Path} {place directory : Place} {name : String}

/-- A path spells out one place only. -/
theorem unique (spells : path.Spells place) (spells' : path.Spells directory) :
    place = directory :=
  (spells.placeFrom_eq []).symm.trans (spells'.placeFrom_eq [])

/-- There is nothing above the root. -/
theorem parent?_root (spells : path.Spells []) : path.parent? = none := by
  by_contra some
  obtain ⟨parent, found⟩ := Option.ne_none_iff_exists'.mp some
  have absolute := isAbsolute_parent? spells.absolute found
  have nothing : parent.components = [] := by
    rw [components_parent? found, spells.components_eq]
    rfl
  obtain ⟨head, tail, cut⟩ := parent.exists_segments
  obtain ⟨empty, more⟩ := (isAbsolute_iff cut).mp absolute
  rw [Path.components_eq cut, headOf, if_pos empty, if_neg more] at nothing
  cases nothing

/-- Above a name is the directory in which it lies. -/
theorem exists_parent? (spells : path.Spells (place ++ [name])) :
    ∃ parent, path.parent? = some parent ∧ parent.Spells place := by
  have whole : path.components = (.root :: place.map .name) ++ [.name name] := by
    rw [spells.components_eq, List.map_append]
    rfl
  obtain ⟨parent, found⟩ := exists_parent?_of_name whole
  have above : parent.components = .root :: place.map .name := by
    rw [components_parent? found, whole, List.dropLast_concat]
  have spelled := spells_of_straight (isAbsolute_parent? spells.absolute found) (by simp [above])
  have reached : placeFrom [] parent.components = place := by
    rw [above]
    exact (placeFrom_names [] place).trans (List.nil_append place)
  exact ⟨parent, found, reached ▸ spelled⟩

/-- Every ancestor spells out a directory above. -/
theorem exists_of_mem_ancestors (spells : path.Spells place) (member : front ∈ path.ancestors) :
    ∃ directory, directory <+: place ∧ front.Spells directory := by
  refine ancestors_induction
    (motive := fun front => ∃ directory, directory <+: place ∧ front.Spells directory)
    ⟨place, List.prefix_rfl, spells⟩ ?_ front member
  rintro below parent ⟨directory, above, there⟩ found
  rcases List.eq_nil_or_concat directory with rfl | ⟨higher, name, rfl⟩
  · rw [there.parent?_root] at found
    cases found
  · rw [List.concat_eq_append] at above there
    obtain ⟨parent', found', spelled⟩ := there.exists_parent?
    cases found.symm.trans found'
    exact ⟨higher, (List.prefix_append _ _).trans above, spelled⟩

theorem isPrefix_of_mem_ancestors (spells : path.Spells place) (member : front ∈ path.ancestors)
    (there : front.Spells directory) : directory <+: place := by
  obtain ⟨other, above, there'⟩ := spells.exists_of_mem_ancestors member
  rwa [there.unique there']

/-- Of the ancestors, only the path itself spells out its place. -/
theorem eq_of_mem_ancestors (spells : path.Spells place) (member : front ∈ path.ancestors)
    (there : front.Spells place) : front = path := by
  rcases mem_ancestors_iff.mp member with same | ⟨parent, found, member⟩
  · exact same
  · rcases List.eq_nil_or_concat place with rfl | ⟨higher, name, rfl⟩
    · rw [spells.parent?_root] at found
      cases found
    · rw [List.concat_eq_append] at spells there
      obtain ⟨parent', found', spelled⟩ := spells.exists_parent?
      cases found.symm.trans found'
      have longer := (spelled.isPrefix_of_mem_ancestors member there).length_le
      rw [List.length_append, List.length_singleton] at longer
      omega

/-- **Each directory above has exactly one path** among the ancestors. -/
theorem existsUnique_front (spells : path.Spells place) (above : directory <+: place) :
    ∃! front, front ∈ path.ancestors ∧ front.Spells directory := by
  induction place using List.reverseRecOn generalizing path with
  | nil =>
    obtain rfl := List.prefix_nil.mp above
    exact ⟨path, ⟨mem_ancestors_iff.mpr (.inl rfl), spells⟩,
      fun front ⟨member, there⟩ => spells.eq_of_mem_ancestors member there⟩
  | append_singleton place name ih =>
    rcases List.prefix_concat_iff.mp above with rfl | higher
    · exact ⟨path, ⟨mem_ancestors_iff.mpr (.inl rfl), spells⟩,
        fun front ⟨member, there⟩ => spells.eq_of_mem_ancestors member there⟩
    · obtain ⟨parent, found, spelled⟩ := spells.exists_parent?
      obtain ⟨front, ⟨member, there⟩, only⟩ := ih spelled higher
      refine ⟨front, ⟨mem_ancestors_iff.mpr (.inr ⟨parent, found, member⟩), there⟩, ?_⟩
      rintro other ⟨member', there'⟩
      -- the path itself has one name too many
      rcases mem_ancestors_iff.mp member' with rfl | ⟨parent', found', member'⟩
      · have longer := higher.length_le
        rw [← spells.unique there', List.length_append, List.length_singleton] at longer
        omega
      · cases found.symm.trans found'
        exact only other ⟨member', there'⟩

end Path.Spells

/-! ### The search -/

namespace ConfigSource

/-- The search looks into a directory and then goes on above it. -/
theorem find?_projectPaths (path : Path) (test : Path → Bool) :
    (projectPaths path).find? test =
      ((projectNames.map path.child).find? test).or
        (path.parent?.bind fun parent => (projectPaths parent).find? test) := by
  unfold projectPaths
  rw [Path.ancestors_eq, List.flatMap_cons, List.find?_append]
  cases path.parent? <;> rfl

/-- In a directory the first of the project files is taken that can be opened. -/
theorem find?_child {tree : FileTree} {path : Path} {place : Place} (proper : tree.IsProper)
    (spells : path.Spells place) (start : Place) :
    (projectNames.map path.child).find? (tree.isFile start) =
      (projectNames.find? fun name => tree.holdsFile (place ++ [name]) &&
        decide ((path.child name).text.utf8ByteSize ≤ FileTree.longestPath)).map path.child := by
  rw [List.find?_map]
  congr 1
  refine List.find?_congr fun name listed => ?_
  rw [Bool.eq_iff_iff, Bool.and_eq_true, decide_eq_true_iff]
  exact spells.isFile_child_iff proper (isNameSegment_of_mem_projectNames name listed) start

end ConfigSource

end CheckerFixtures
