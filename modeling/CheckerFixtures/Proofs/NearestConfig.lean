/-
**Which fixtures a project file is for.**

The search for a project file goes up the path of the fixtures as it is written. Its steps are the
directories above the fixtures as long as no two dots take back a name; otherwise it may pass
through directories that do not hold the fixtures, and a file there is taken.

* `placeFrom_isPrefix`: where no name is taken back, every front of a path leads above its end;
* `exists_ancestor_of_nearest?`: the file that is found lies in an ancestor, as the path is written;
* `isPrefix_of_find_project`: so it lies above the fixtures, if no name is taken back;
* `find_project_sideways`: and it may lie elsewhere, if one is.
-/

import CheckerFixtures.ConfigSource
import CheckerFixtures.Proofs.Parents
import CheckerFixtures.Proofs.Places

namespace CheckerFixtures

open CheckerFixtures.Path (Component IsNameSegment placeFrom)

/-! ### Paths that take nothing back -/

namespace Path

def Component.isName : Component → Bool
  | name _ => true
  | _ => false

/-- There are no two dots behind a name. -/
def TakesNothingBack (path : Path) : Prop :=
  .parent ∉ path.components.dropWhile fun component => !component.isName

instance (path : Path) : Decidable path.TakesNothingBack :=
  inferInstanceAs (Decidable (¬ _))

/-- No segment names the root. -/
theorem root_notMem_map_componentOf (segments : List (List Char)) :
    .root ∉ segments.map componentOf := by
  intro member
  obtain ⟨segment, -, same⟩ := List.mem_map.mp member
  unfold componentOf at same
  split at same <;> cases same

/-- The root is passed through at the start only. -/
theorem root_notMem_tail (path : Path) : .root ∉ path.components.tail := by
  obtain ⟨head, tail, cut⟩ := path.exists_segments
  have below := root_notMem_map_componentOf (loud tail)
  rw [components_eq cut]
  by_cases some : head ≠ [] ∨ tail ≠ []
  · obtain ⟨first, single⟩ := List.length_eq_one_iff.mp (length_headOf some)
    rw [single]
    exact below
  · rw [not_or, not_not, not_not] at some
    rw [some.1, some.2]
    exact List.not_mem_nil

/-- Only an absolute path passes through the root. -/
theorem isAbsolute_of_root_mem {path : Path} (member : .root ∈ path.components) :
    path.isAbsolute = true := by
  obtain ⟨head, tail, cut⟩ := path.exists_segments
  rw [components_eq cut] at member
  rcases List.mem_append.mp member with first | later
  · rw [isAbsolute_iff cut]
    unfold headOf at first
    split at first
    · rename_i empty
      split at first
      · cases first
      · rename_i some
        exact ⟨empty, some⟩
    · split at first
      · cases List.mem_singleton.mp first
      · exact absurd first (root_notMem_map_componentOf [head])
  · exact absurd later (root_notMem_map_componentOf (loud tail))

/-- The root does not come behind a name. -/
theorem root_notMem_dropWhile (path : Path) :
    .root ∉ path.components.dropWhile fun component => !component.isName := by
  have below := root_notMem_tail path
  cases components : path.components with
  | nil => exact List.not_mem_nil
  | cons first rest =>
    rw [components, List.tail_cons] at below
    cases named : first.isName with
    | true =>
      rw [List.dropWhile_cons_of_neg (by simp [named])]
      intro member
      rcases List.mem_cons.mp member with rfl | later
      · cases named
      · exact below later
    | false =>
      rw [List.dropWhile_cons_of_pos (by simp [named])]
      exact fun member => below (List.dropWhile_subset _ member)

/-- Without a name in front, everything leads to the root. -/
theorem placeFrom_eq_nil {components : List Component}
    (unnamed : ∀ component ∈ components, component.isName = false) :
    placeFrom [] components = [] := by
  induction components with
  | nil => rfl
  | cons component components ih =>
    have first : component.step [] = [] := by
      cases component with
      | name text => cases unnamed _ List.mem_cons_self
      | _ => rfl
    rw [placeFrom, List.foldl_cons, first]
    exact ih fun other member => unnamed other (List.mem_cons_of_mem _ member)

/-- Without the root and without two dots, everything leads down. -/
theorem isPrefix_placeFrom (place : Place) {components : List Component}
    (down : ∀ component ∈ components, component ≠ .root ∧ component ≠ .parent) :
    place <+: placeFrom place components := by
  induction components generalizing place with
  | nil => exact List.prefix_rfl
  | cons component components ih =>
    have first : place <+: component.step place := by
      cases component with
      | root => exact absurd rfl (down _ List.mem_cons_self).1
      | current => exact List.prefix_rfl
      | parent => exact absurd rfl (down _ List.mem_cons_self).2
      | name text => exact List.prefix_append _ _
    rw [placeFrom, List.foldl_cons]
    exact first.trans (ih _ fun other member => down other (List.mem_cons_of_mem _ member))

/-- **Where no name is taken back, every front of a path leads above its end.** -/
theorem placeFrom_isPrefix {path : Path} (straight : path.TakesNothingBack)
    {front : List Component} (before : front <+: path.components) :
    placeFrom [] front <+: placeFrom [] path.components := by
  have cut := List.takeWhile_append_dropWhile (l := path.components)
    (p := fun component => !component.isName)
  have unnamed : ∀ component ∈ path.components.takeWhile fun component => !component.isName,
      component.isName = false := by
    intro component member
    simpa using List.mem_takeWhile_imp member
  rcases List.prefix_or_prefix_of_prefix before
    (List.takeWhile_prefix fun component => !component.isName) with inside | ⟨more, longer⟩
  · rw [placeFrom_eq_nil fun component member => unnamed component (inside.subset member)]
    exact List.nil_prefix
  · obtain ⟨behind, whole⟩ := before
    have last : path.components.dropWhile (fun component => !component.isName) =
        more ++ behind := by
      rw [← List.append_cancel_left_eq, cut, ← List.append_assoc, longer, whole]
    rw [← whole, placeFrom_append]
    refine isPrefix_placeFrom _ fun component member => ?_
    have there := last ▸ List.mem_append_right more member
    constructor
    · rintro rfl
      exact root_notMem_dropWhile path there
    · rintro rfl
      exact straight there

end Path

/-! ### The search -/

namespace ConfigSource

/-- The directory of some fixtures, a file or a directory. -/
def fixtureDirectory (place : Place) : Entry → Place
  | .directory => place
  | .file _ => place.dropLast

theorem isAbsolute_searchStart (surroundings : Surroundings) (fixtures : Path) :
    (searchStart surroundings fixtures).isAbsolute = true :=
  Path.isAbsolute_join_of_isAbsolute (FileTree.isAbsolute_pathOf _) _

theorem isNameSegment_of_mem_projectNames :
    ∀ name ∈ projectNames, IsNameSegment name.toList := by
  decide

/-- The place in which the search starts: the one of the fixtures, or the one above a file. -/
def startPlace (surroundings : Surroundings) (fixtures : Path) : Place :=
  let place := placeFrom surroundings.workingDirectory fixtures.components
  if surroundings.isFile fixtures then place.dropLast else place

/-- The path with which the search starts leads there. -/
theorem placeFrom_searchStart_eq_startPlace {surroundings : Surroundings}
    (proper : surroundings.tree.IsProper)
    (working : surroundings.tree.get? surroundings.workingDirectory = some .directory)
    (fixtures : Path) :
    placeFrom [] (searchStart surroundings fixtures).components =
      startPlace surroundings fixtures := by
  have absolute := isAbsolute_searchStart surroundings fixtures
  rw [Path.placeFrom_of_isAbsolute absolute [] surroundings.workingDirectory]
  unfold searchStart startPlace Surroundings.workingPath
  rw [Path.placeFrom_join, FileTree.placeFrom_pathOf _ (proper.named_of_get? working)]
  by_cases file : surroundings.isFile fixtures = true
  · rw [if_pos file, if_pos file]
    obtain ⟨place, bytes, located⟩ := FileTree.exists_locate_of_isFile file
    obtain ⟨front, name, whole⟩ := proper.name_of_locate located
    obtain ⟨parent, found⟩ := Path.exists_parent?_of_name whole
    have above : parent.components = front := by
      rw [Path.components_parent? found, whole, List.dropLast_concat]
    rw [found, Option.getD_some, above, whole, Path.placeFrom_append]
    exact (List.dropLast_concat ..).symm
  · rw [if_neg file, if_neg file]

/-- The search starts in the directory of the fixtures, if they exist. -/
theorem placeFrom_searchStart {surroundings : Surroundings} {fixtures : Path} {place : Place}
    {entry : Entry} (proper : surroundings.tree.IsProper)
    (working : surroundings.tree.get? surroundings.workingDirectory = some .directory)
    (there : surroundings.tree.locate surroundings.workingDirectory fixtures =
      .ok (place, entry)) :
    placeFrom [] (searchStart surroundings fixtures).components = fixtureDirectory place entry := by
  rw [placeFrom_searchStart_eq_startPlace proper working]
  unfold startPlace Surroundings.isFile FileTree.isFile
  rw [there, ← FileTree.place_of_locate there]
  cases entry <;> rfl

/-- **The file that is found lies in an ancestor**, as the path of the fixtures is written. -/
theorem exists_ancestor_of_nearest? {surroundings : Surroundings} {fixtures file : Path}
    (nearest : nearest? surroundings fixtures = some file) :
    ∃ ancestor ∈ (searchStart surroundings fixtures).ancestors, ∃ name ∈ projectNames, ∃ bytes,
      file = ancestor.child name ∧
      surroundings.tree.locate surroundings.workingDirectory file =
        .ok (placeFrom [] ancestor.components ++ [name], .file bytes) := by
  obtain ⟨ancestor, above, listed⟩ := List.mem_flatMap.mp (List.mem_of_find?_eq_some nearest)
  obtain ⟨name, isProjectName, rfl⟩ := List.mem_map.mp listed
  have absolute := Path.isAbsolute_of_mem_ancestors (isAbsolute_searchStart _ _) above
  obtain ⟨bytes, located⟩ := FileTree.locate_child_of_isFile absolute
    (isNameSegment_of_mem_projectNames name isProjectName) (isFile_of_nearest? nearest)
  exact ⟨ancestor, above, name, isProjectName, bytes, rfl, located⟩

/-- A project file is the nearest one. -/
theorem find_eq_project_iff {surroundings : Surroundings} {fixtures file : Path} :
    find surroundings fixtures none = .project file ↔
      nearest? surroundings fixtures = some file := by
  unfold find
  generalize globalFile? surroundings = global
  cases nearest? surroundings fixtures with
  | none => cases global <;> simp
  | some path => simp

/-- **A project file is for the fixtures below it**, if no two dots take back a name on the way to
them: then it lies in the directory of the fixtures or in one above that. -/
theorem isPrefix_of_find_project {surroundings : Surroundings} {fixtures file : Path}
    {place : Place} {entry : Entry} (proper : surroundings.tree.IsProper)
    (working : surroundings.tree.get? surroundings.workingDirectory = some .directory)
    (there : surroundings.tree.locate surroundings.workingDirectory fixtures =
      .ok (place, entry))
    (straight : (searchStart surroundings fixtures).TakesNothingBack)
    (found : find surroundings fixtures none = .project file) :
    ∃ directory name bytes, name ∈ projectNames ∧
      surroundings.tree.locate surroundings.workingDirectory file =
        .ok (directory ++ [name], .file bytes) ∧
      directory <+: fixtureDirectory place entry := by
  obtain ⟨ancestor, above, name, isProjectName, bytes, -, located⟩ :=
    exists_ancestor_of_nearest? (find_eq_project_iff.mp found)
  refine ⟨_, name, bytes, isProjectName, located, ?_⟩
  rw [← placeFrom_searchStart proper working there]
  exact Path.placeFrom_isPrefix straight (Path.components_of_mem_ancestors above)

/-- A project file above the fixtures, which are named with dots at harmless places. -/
def projectAbove : Surroundings where
  tree := (FileTree.empty.addFile ["w", ".scatr.toml"] []).addFile ["w", "a", "x.go"] []
  workingDirectory := ["w", "a"]
  home? := none
  configDirectory? := none

theorem isPrefix_of_find_projectAbove :
    projectAbove.tree.IsProper ∧
      find projectAbove ⟨"/../w/./a/x.go"⟩ none = .project ⟨"/../w/.scatr.toml"⟩ ∧
      ∃ directory name bytes, name ∈ projectNames ∧
        projectAbove.tree.locate ["w", "a"] ⟨"/../w/.scatr.toml"⟩ =
          .ok (directory ++ [name], .file bytes) ∧
        directory <+: ["w", "a"] := by
  have proper : projectAbove.tree.IsProper := by decide
  have there : projectAbove.tree.locate ["w", "a"] ⟨"/../w/./a/x.go"⟩ =
      .ok (["w", "a", "x.go"], .file []) := by decide
  have straight : (searchStart projectAbove ⟨"/../w/./a/x.go"⟩).TakesNothingBack := by
    decide
  have found : find projectAbove ⟨"/../w/./a/x.go"⟩ none = .project ⟨"/../w/.scatr.toml"⟩ := by
    decide
  exact ⟨proper, found, isPrefix_of_find_project proper (by decide) there straight found⟩

/-- A project file in the working directory, and fixtures in a directory beside that. -/
def projectBeside : Surroundings where
  tree := (FileTree.empty.addFile ["w", "a", "scatr.toml"] []).addFile ["w", "b", "q.go"] []
  workingDirectory := ["w", "a"]
  home? := none
  configDirectory? := none

/-- **Two dots can lead past a project file that is not for the fixtures**: it is taken all the
same, though no directory above the fixtures has one. -/
theorem find_project_sideways :
    projectBeside.tree.IsProper ∧
      projectBeside.tree.locate projectBeside.workingDirectory ⟨"../b"⟩ =
        .ok (["w", "b"], .directory) ∧
      find projectBeside ⟨"../b"⟩ none = .project ⟨"/w/a/scatr.toml"⟩ ∧
      projectBeside.tree.locate projectBeside.workingDirectory ⟨"/w/a/scatr.toml"⟩ =
        .ok (["w", "a", "scatr.toml"], .file []) ∧
      ¬ ["w", "a"] <+: fixtureDirectory ["w", "b"] .directory := by
  refine ⟨by decide, by decide, by decide, by decide, by decide⟩

end ConfigSource

end CheckerFixtures
