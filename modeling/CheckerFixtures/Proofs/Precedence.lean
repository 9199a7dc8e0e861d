/-
**Which configuration counts.**

A file that was given wins. Otherwise the directories count from the one of the fixtures up to the
root, and the deepest one that holds a project file has the say; of two files in one directory the
preferred name is taken. Without a project file the global file counts, and without that the
built-in settings. A project file is looked for by a path that begins as the path of the fixtures
is written; where that gets too long to be opened, the file is passed over.

* `counts_iff`: what counts lies in the first directory or counts from its parent on;
* `isAnswer_step`: one step of the search;
* `isAnswer_find?`: the search finds the nearest file that counts;
* `find_congr`: the answer depends on the directories above and the global directory alone;
* `find_precedence`: which configuration counts;
* `find_projectHere`: a project file is passed over if its path is too long.
-/

import CheckerFixtures.Proofs.DirectoryFiles

namespace CheckerFixtures

open CheckerFixtures.Path (IsNameSegment placeFrom)

namespace ConfigSource

/-! ### Files that count -/

/-- A project file that counts for a search: it lies in a directory from the start up to the root,
and its path, which begins as the start is written, is not too long to be opened. -/
structure Counts (tree : FileTree) (start : Path) (directory : Place) (name : String)
    (file : Path) : Prop where
  isProjectName : name ∈ projectNames
  isFile : tree.holdsFile (directory ++ [name]) = true
  written : ∃ front ∈ start.ancestors, front.Spells directory ∧ file = front.child name
  openable : file.text.utf8ByteSize ≤ FileTree.longestPath

/-- The project file in the deepest directory that has one; there, the preferred one. -/
def IsNearest (tree : FileTree) (start file : Path) : Prop :=
  ∃ directory name, Counts tree start directory name file ∧
    (∀ other name' file', Counts tree start other name' file' → other <+: directory) ∧
    ∀ file', Counts tree start directory "scatr.toml" file' → name = "scatr.toml"

variable {tree : FileTree} {path file file' : Path} {place directory : Place} {name : String}

theorem Counts.isPrefix (counts : Counts tree path directory name file)
    (spells : path.Spells place) : directory <+: place := by
  obtain ⟨front, member, there, -⟩ := counts.written
  exact spells.isPrefix_of_mem_ancestors member there

/-- The directory and the name tell the file. -/
theorem Counts.unique (counts : Counts tree path directory name file)
    (counts' : Counts tree path directory name file') (spells : path.Spells place) :
    file = file' := by
  obtain ⟨front, member, there, rfl⟩ := counts.written
  obtain ⟨front', member', there', rfl⟩ := counts'.written
  rw [(spells.existsUnique_front (counts.isPrefix spells)).unique ⟨member, there⟩
    ⟨member', there'⟩]

/-- What counts in the directory of the start. -/
theorem counts_here_iff (spells : path.Spells place) :
    Counts tree path place name file ↔
      file = path.child name ∧ name ∈ projectNames ∧ tree.holdsFile (place ++ [name]) = true ∧
        (path.child name).text.utf8ByteSize ≤ FileTree.longestPath := by
  constructor
  · rintro ⟨isProjectName, isFile, ⟨front, member, there, rfl⟩, openable⟩
    cases spells.eq_of_mem_ancestors member there
    exact ⟨rfl, isProjectName, isFile, openable⟩
  · rintro ⟨rfl, isProjectName, isFile, openable⟩
    exact ⟨isProjectName, isFile, ⟨path, Path.mem_ancestors_iff.mpr (.inl rfl), spells, rfl⟩,
      openable⟩

/-- **What counts** lies in the directory of the start or counts from its parent on. -/
theorem counts_iff (spells : path.Spells place) :
    Counts tree path directory name file ↔
      directory = place ∧ Counts tree path place name file ∨
        ∃ parent, path.parent? = some parent ∧ Counts tree parent directory name file := by
  constructor
  · rintro ⟨isProjectName, isFile, ⟨front, member, there, written⟩, openable⟩
    rcases Path.mem_ancestors_iff.mp member with rfl | ⟨parent, found, member'⟩
    · obtain rfl := there.unique spells
      exact .inl ⟨rfl, isProjectName, isFile, ⟨front, member, there, written⟩, openable⟩
    · exact .inr ⟨parent, found, isProjectName, isFile, ⟨front, member', there, written⟩, openable⟩
  · rintro (⟨rfl, counts⟩ | ⟨parent, found, isProjectName, isFile, ⟨front, member, written⟩,
      openable⟩)
    · exact counts
    · exact ⟨isProjectName, isFile, ⟨front, Path.mem_ancestors_iff.mpr (.inr ⟨parent, found,
        member⟩), written⟩, openable⟩

/-- What a search answers: the nearest file that counts, if any counts. -/
inductive IsAnswer (tree : FileTree) (start : Path) : Option Path → Prop
  | nearest {file : Path} (nearest : IsNearest tree start file) : IsAnswer tree start (some file)
  | bare (bare : ∀ directory name file, ¬ Counts tree start directory name file) :
      IsAnswer tree start none

/-- Where nothing counts in the first directory, the answer is that of the parent. -/
theorem IsAnswer.of_parent {parent : Path} {answer : Option Path}
    (isAnswer : IsAnswer tree parent answer) (spells : path.Spells place)
    (found : path.parent? = some parent)
    (bare : ∀ name file, ¬ Counts tree path place name file) : IsAnswer tree path answer := by
  have same : ∀ directory name file,
      Counts tree path directory name file ↔ Counts tree parent directory name file := by
    intro directory name file
    rw [counts_iff spells, found]
    simp [bare]
  cases isAnswer with
  | nearest nearest => exact .nearest (by simpa only [IsNearest, same] using nearest)
  | bare bare =>
    exact .bare fun directory name file => mt (same directory name file).mp (bare _ _ _)

theorem IsNearest.exists_counts (nearest : IsNearest tree path file) :
    ¬ ∀ directory name file, ¬ Counts tree path directory name file := by
  obtain ⟨directory, name, counts, -⟩ := nearest
  exact fun bare => bare directory name file counts

/-- At most one file is the nearest. -/
theorem IsNearest.unique (nearest : IsNearest tree path file)
    (nearest' : IsNearest tree path file') (spells : path.Spells place) : file = file' := by
  obtain ⟨directory, name, counts, deepest, preferred⟩ := nearest
  obtain ⟨directory', name', counts', deepest', preferred'⟩ := nearest'
  obtain rfl : directory = directory' :=
    (deepest' _ _ _ counts).eq_of_length_le (deepest _ _ _ counts').length_le
  have same : name = name' := by
    have listed := counts.isProjectName
    have listed' := counts'.isProjectName
    unfold projectNames at listed listed'
    rw [List.mem_pair] at listed listed'
    rcases listed with rfl | rfl
    · exact (preferred' _ counts).symm
    · rcases listed' with rfl | rfl
      · exact preferred _ counts'
      · rfl
  subst same
  exact counts.unique counts' spells

/-! ### The search -/

/-- What the search finds in one directory. -/
theorem counts_of_find?_child (proper : tree.IsProper) (spells : path.Spells place)
    {start : Place} (found : (projectNames.map path.child).find? (tree.isFile start) = some file) :
    ∃ name, Counts tree path place name file ∧
      ∀ file', Counts tree path place "scatr.toml" file' → name = "scatr.toml" := by
  rw [find?_child proper spells] at found
  obtain ⟨name, first, rfl⟩ := Option.map_eq_some_iff.mp found
  have holds := List.find?_some first
  rw [Bool.and_eq_true, decide_eq_true_iff] at holds
  refine ⟨name, (counts_here_iff spells).mpr ⟨rfl, List.mem_of_find?_eq_some first, holds⟩, ?_⟩
  intro file' counts
  obtain ⟨-, -, holds'⟩ := (counts_here_iff spells).mp counts
  rw [projectNames, List.find?_cons_of_pos (by simpa using holds')] at first
  exact (Option.some.inj first).symm

/-- Where the search finds nothing in a directory, nothing counts there. -/
theorem not_counts_of_find?_child (proper : tree.IsProper) (spells : path.Spells place)
    {start : Place} (nothing : (projectNames.map path.child).find? (tree.isFile start) = none)
    (name : String) (file : Path) : ¬ Counts tree path place name file := by
  intro counts
  obtain ⟨-, listed, holds⟩ := (counts_here_iff spells).mp counts
  rw [find?_child proper spells, Option.map_eq_none_iff] at nothing
  exact List.find?_eq_none.mp nothing name listed (by simpa using holds)

/-- One step of the search: it looks into a directory, and if nothing counts there, it answers
what the search from the parent answers. -/
theorem isAnswer_step (proper : tree.IsProper) {start : Place} (spells : path.Spells place)
    (above : ∀ parent, path.parent? = some parent →
      IsAnswer tree parent ((projectPaths parent).find? (tree.isFile start))) :
    IsAnswer tree path ((projectPaths path).find? (tree.isFile start)) := by
  rw [find?_projectPaths]
  cases here : (projectNames.map path.child).find? (tree.isFile start) with
  | some file =>
    obtain ⟨name, counts, preferred⟩ := counts_of_find?_child proper spells here
    exact .nearest ⟨place, name, counts, fun _ _ _ other => other.isPrefix spells, preferred⟩
  | none =>
    have bare := not_counts_of_find?_child proper spells here
    rw [Option.none_or]
    cases found : path.parent? with
    | none =>
      refine .bare fun directory name file counts => ?_
      rcases (counts_iff spells).mp counts with ⟨-, counts⟩ | ⟨parent, found', -⟩
      · exact bare name file counts
      · cases found.symm.trans found'
    | some parent => exact (above parent found).of_parent spells found bare

/-- **The search finds the nearest file that counts**, if any counts. -/
theorem isAnswer_find? (proper : tree.IsProper) (start : Place) (spells : path.Spells place) :
    IsAnswer tree path ((projectPaths path).find? (tree.isFile start)) := by
  -- the parent of a path has its place without the last name
  induction place using List.reverseRecOn generalizing path with
  | nil =>
    refine isAnswer_step proper spells fun parent found => ?_
    rw [spells.parent?_root] at found
    cases found
  | append_singleton place name ih =>
    refine isAnswer_step proper spells fun parent found => ?_
    obtain ⟨parent', found', spelled⟩ := spells.exists_parent?
    cases found.symm.trans found'
    exact ih spelled

/-! ### What the search depends on -/

variable {surroundings : Surroundings} {fixtures : Path}

theorem parent_notMem_searchStart (proper : surroundings.tree.IsProper)
    (working : surroundings.tree.get? surroundings.workingDirectory = some .directory)
    (straight : .parent ∉ fixtures.components) :
    .parent ∉ (searchStart surroundings fixtures).components := by
  refine Path.parent_notMem_join ?_ ?_
  · rw [Surroundings.workingPath, FileTree.components_pathOf (proper.named_of_get? working)]
    simp
  · split
    · cases found : fixtures.parent? with
      | none => exact List.not_mem_nil
      | some parent =>
        rw [Option.getD_some, Path.components_parent? found]
        exact fun member => straight (List.dropLast_subset _ member)
    · exact straight

/-- The search starts with a path of the directory in which it starts. -/
theorem spells_searchStart (proper : surroundings.tree.IsProper)
    (working : surroundings.tree.get? surroundings.workingDirectory = some .directory)
    (straight : .parent ∉ fixtures.components) :
    (searchStart surroundings fixtures).Spells (startPlace surroundings fixtures) := by
  rw [← placeFrom_searchStart_eq_startPlace proper working]
  exact Path.spells_of_straight (isAbsolute_searchStart _ _)
    (parent_notMem_searchStart proper working straight)

theorem dropLast_isPrefix_dropLast {first second : Place} (before : first <+: second) :
    first.dropLast <+: second.dropLast := by
  rcases List.eq_nil_or_concat second with rfl | ⟨front, name, rfl⟩
  · rw [List.prefix_nil.mp before]
  · rw [List.concat_eq_append] at before ⊢
    rcases List.prefix_concat_iff.mp before with rfl | before
    · exact List.prefix_rfl
    · rw [List.dropLast_concat]
      exact (List.dropLast_prefix _).trans before

/-- A path without two dots passes only what is above its end. -/
theorem isPrefix_of_mem_passed {start place : Place} {path : Path}
    (straight : .parent ∉ path.components) (passed : place ∈ path.passed start) :
    place <+: placeFrom start path.components := by
  obtain ⟨front, before, rfl⟩ := Path.mem_passed_iff.mp passed
  by_cases absolute : path.isAbsolute = true
  · rw [if_pos absolute, Path.placeFrom_of_isAbsolute absolute start []]
    exact Path.placeFrom_isPrefix
      (fun member => straight (List.dropWhile_subset _ member)) before
  · rw [if_neg absolute]
    obtain ⟨behind, whole⟩ := before
    rw [← whole, Path.placeFrom_append]
    refine Path.isPrefix_placeFrom _ fun component member => ?_
    have listed : component ∈ path.components := whole ▸ List.mem_append_right front member
    constructor
    · rintro rfl
      exact absolute (Path.isAbsolute_of_root_mem listed)
    · rintro rfl
      exact straight listed

/-- The same lies directly in the directories above some fixtures and directly in the global
directory, and the path of the global directory leads through the same directories. -/
structure SameAround (surroundings : Surroundings) (fixtures : Path) (tree : FileTree) : Prop where
  above : ∀ directory, directory <+: startPlace surroundings fixtures → ∀ name,
    tree.get? (directory ++ [name]) = surroundings.tree.get? (directory ++ [name])
  way : ∀ directory, surroundings.globalDirectory? = some directory →
    ∀ place ∈ directory.passed surroundings.workingDirectory,
      (tree.get? place = some .directory ↔ surroundings.tree.get? place = some .directory)
  inGlobal : ∀ directory, surroundings.globalDirectory? = some directory → ∀ name,
    tree.get? (placeFrom surroundings.workingDirectory directory.components ++ [name]) =
      surroundings.tree.get? (placeFrom surroundings.workingDirectory directory.components ++ [name])

/-- A file may be written anywhere else. -/
theorem sameAround_write {bytes : List UInt8}
    (noDirectory : surroundings.tree.get? place ≠ some .directory)
    (apart : ¬ place.dropLast <+: startPlace surroundings fixtures)
    (notGlobal : ∀ directory, surroundings.globalDirectory? = some directory →
      place.dropLast ≠ placeFrom surroundings.workingDirectory directory.components) :
    SameAround surroundings fixtures (surroundings.tree.write place bytes) where
  above := by
    intro directory above name
    refine FileTree.get?_write_of_ne ?_ _ _
    rintro rfl
    rw [List.dropLast_concat] at apart
    exact apart above
  way := by
    intro directory set other passed
    by_cases here : other = place
    · have named : place ≠ [] := by
        rintro rfl
        exact noDirectory (FileTree.get?_root _)
      rw [here, FileTree.get?_write_self named]
      simp [noDirectory]
    · rw [FileTree.get?_write_of_ne here]
  inGlobal := by
    intro directory set name
    refine FileTree.get?_write_of_ne ?_ _ _
    rintro rfl
    exact notGlobal directory set (List.dropLast_concat ..)

namespace SameAround

theorem get?_eq (same : SameAround surroundings fixtures tree)
    (above : place.dropLast <+: startPlace surroundings fixtures) :
    tree.get? place = surroundings.tree.get? place := by
  rcases List.eq_nil_or_concat place with rfl | ⟨directory, name, rfl⟩
  · rfl
  · rw [List.concat_eq_append, List.dropLast_concat] at *
    exact same.above directory above name

/-- What ends in a directory above the fixtures, without two dots on the way, is the same file. -/
theorem isFile_eq (same : SameAround surroundings fixtures tree) {start : Place}
    (straight : .parent ∉ path.components)
    (above : (placeFrom start path.components).dropLast <+: startPlace surroundings fixtures) :
    tree.isFile start path = surroundings.tree.isFile start path := by
  -- all that is passed lies directly in a directory above the fixtures
  have onWay : ∀ place, place <+: placeFrom start path.components →
      tree.get? place = surroundings.tree.get? place :=
    fun place before => same.get?_eq ((dropLast_isPrefix_dropLast before).trans above)
  refine FileTree.isFile_congr (fun place passed => ?_) (onWay _ List.prefix_rfl)
  rw [onWay place (isPrefix_of_mem_passed straight passed)]

theorem nearest?_eq (same : SameAround surroundings fixtures tree)
    (proper : surroundings.tree.IsProper)
    (working : surroundings.tree.get? surroundings.workingDirectory = some .directory)
    (straight : .parent ∉ fixtures.components) :
    nearest? { surroundings with tree := tree } fixtures = nearest? surroundings fixtures := by
  have given : tree.isFile surroundings.workingDirectory fixtures =
      surroundings.tree.isFile surroundings.workingDirectory fixtures := by
    refine same.isFile_eq straight ?_
    unfold startPlace
    dsimp only
    split
    · exact List.prefix_rfl
    · exact List.dropLast_prefix _
  have start : searchStart { surroundings with tree := tree } fixtures =
      searchStart surroundings fixtures := by
    unfold searchStart Surroundings.isFile
    rw [given]
    rfl
  have spells := spells_searchStart proper working straight
  unfold nearest?
  rw [start]
  refine List.find?_congr fun file listed => ?_
  obtain ⟨front, member, listed⟩ := List.mem_flatMap.mp listed
  obtain ⟨name, isProjectName, rfl⟩ := List.mem_map.mp listed
  obtain ⟨directory, above, there⟩ := spells.exists_of_mem_ancestors member
  have named := isNameSegment_of_mem_projectNames name isProjectName
  refine same.isFile_eq ?_ ?_
  · rw [Path.components_child front named, there.components_eq]
    simp
  · rw [Path.components_child front named, Path.placeFrom_append, there.placeFrom_eq]
    exact (List.dropLast_concat ..).symm ▸ above

theorem globalFile?_eq (same : SameAround surroundings fixtures tree) :
    globalFile? { surroundings with tree := tree } = globalFile? surroundings := by
  unfold globalFile?
  change Option.filter _ (surroundings.globalDirectory?.map _) = _
  cases set : surroundings.globalDirectory? with
  | none => rfl
  | some directory =>
    have named : IsNameSegment "config.toml".toList := by decide
    have file : tree.isFile surroundings.workingDirectory (directory.child "config.toml") =
        surroundings.tree.isFile surroundings.workingDirectory
          (directory.child "config.toml") := by
      have last := same.inGlobal directory set "config.toml"
      refine FileTree.isFile_congr (fun place passed => ?_) ?_
      · obtain ⟨front, before, rfl⟩ := Path.mem_passed_iff.mp passed
        rw [Path.components_child directory named] at before
        rw [Path.isAbsolute_child directory named.noSlash]
        rcases List.prefix_concat_iff.mp before with rfl | before
        · rw [Path.placeFrom_append, Path.placeFrom_begin]
          exact Eq.congr_left last
        · exact same.way directory set _ (Path.mem_passed_iff.mpr ⟨front, before, rfl⟩)
      · rw [Path.components_child directory named, Path.placeFrom_append]
        exact last
    rw [Option.map_some, Option.filter_some, Option.filter_some]
    unfold Surroundings.isFile
    dsimp only
    rw [file]

end SameAround

/-- **Files elsewhere change nothing**: the answer depends on the directories above the fixtures
and on the global directory alone. -/
theorem find_congr (same : SameAround surroundings fixtures tree)
    (proper : surroundings.tree.IsProper)
    (working : surroundings.tree.get? surroundings.workingDirectory = some .directory)
    (straight : .parent ∉ fixtures.components) (given? : Option Path) :
    find { surroundings with tree := tree } fixtures given? = find surroundings fixtures given? := by
  unfold find
  rw [same.nearest?_eq proper working straight, same.globalFile?_eq]

/-! ### The order of precedence -/

/-- Which configuration counts for some fixtures, if perhaps a file was given. -/
inductive Answers (surroundings : Surroundings) (fixtures : Path) :
    Option Path → ConfigSource → Prop
  | given (file : Path) : Answers surroundings fixtures (some file) (.given file)
  | project {file : Path}
      (nearest : IsNearest surroundings.tree (searchStart surroundings fixtures) file) :
      Answers surroundings fixtures none (.project file)
  | global {directory : Path}
      (bare : ∀ place name file,
        ¬ Counts surroundings.tree (searchStart surroundings fixtures) place name file)
      (set : surroundings.globalDirectory? = some directory)
      (isFile : surroundings.isFile (directory.child "config.toml") = true) :
      Answers surroundings fixtures none (.global (directory.child "config.toml"))
  | builtIn
      (bare : ∀ place name file,
        ¬ Counts surroundings.tree (searchStart surroundings fixtures) place name file)
      (noGlobal : ∀ directory, surroundings.globalDirectory? = some directory →
        surroundings.isFile (directory.child "config.toml") = false) :
      Answers surroundings fixtures none .builtIn

theorem globalFile?_eq_some_iff {file : Path} :
    globalFile? surroundings = some file ↔
      ∃ directory, surroundings.globalDirectory? = some directory ∧
        surroundings.isFile (directory.child "config.toml") = true ∧
          directory.child "config.toml" = file := by
  unfold globalFile?
  rw [Option.filter_eq_some_iff, Option.map_eq_some_iff]
  constructor
  · rintro ⟨⟨directory, set, rfl⟩, isFile⟩
    exact ⟨directory, set, isFile, rfl⟩
  · rintro ⟨directory, set, isFile, rfl⟩
    exact ⟨⟨directory, set, rfl⟩, isFile⟩

/-- What is found is what counts. -/
theorem answers_find (surroundings : Surroundings) (fixtures : Path)
    (isAnswer : IsAnswer surroundings.tree (searchStart surroundings fixtures)
      (nearest? surroundings fixtures)) (given? : Option Path) :
    Answers surroundings fixtures given? (find surroundings fixtures given?) := by
  unfold find
  generalize nearest? surroundings fixtures = answer at isAnswer ⊢
  cases given? with
  | some file => exact .given file
  | none =>
    cases isAnswer with
    | nearest nearest => exact .project nearest
    | bare bare =>
      cases global : globalFile? surroundings with
      | some file =>
        obtain ⟨directory, set, isFile, rfl⟩ := globalFile?_eq_some_iff.mp global
        exact .global bare set isFile
      | none =>
        refine .builtIn bare fun directory set => ?_
        rw [Bool.eq_false_iff]
        intro isFile
        cases global.symm.trans (globalFile?_eq_some_iff.mpr ⟨directory, set, isFile, rfl⟩)

/-- At most one configuration counts. -/
theorem Answers.unique {given? : Option Path} {first second : ConfigSource}
    (answers : Answers surroundings fixtures given? first)
    (answers' : Answers surroundings fixtures given? second)
    (spells : (searchStart surroundings fixtures).Spells place) : first = second := by
  cases answers with
  | given file =>
    cases answers'
    rfl
  | project nearest =>
    cases answers' with
    | project nearest' => exact congrArg _ (nearest.unique nearest' spells)
    | global bare | builtIn bare => exact absurd bare nearest.exists_counts
  | global bare set isFile =>
    cases answers' with
    | project nearest' => exact absurd bare nearest'.exists_counts
    | global bare' set' =>
      cases set.symm.trans set'
      rfl
    | builtIn bare' noGlobal => simp [noGlobal _ set] at isFile
  | builtIn bare noGlobal =>
    cases answers' with
    | project nearest' => exact absurd bare nearest'.exists_counts
    | global bare' set' isFile => simp [noGlobal _ set'] at isFile
    | builtIn => rfl

/-- **Which configuration counts**, for fixtures whose path has no two dots: a given file, else the
nearest project file, else the global file, else the built-in settings. The search has one path for
each directory from the start up to the root, and nothing outside these directories and the global
one matters. -/
theorem find_precedence (proper : surroundings.tree.IsProper)
    (working : surroundings.tree.get? surroundings.workingDirectory = some .directory)
    (straight : .parent ∉ fixtures.components) (given? : Option Path) :
    (∀ source, find surroundings fixtures given? = source ↔
        Answers surroundings fixtures given? source) ∧
      (∀ front ∈ (searchStart surroundings fixtures).ancestors,
        ∃ directory, directory <+: startPlace surroundings fixtures ∧ front.Spells directory) ∧
      (∀ directory, directory <+: startPlace surroundings fixtures →
        ∃! front, front ∈ (searchStart surroundings fixtures).ancestors ∧
          front.Spells directory) ∧
      ∀ tree, SameAround surroundings fixtures tree →
        find { surroundings with tree := tree } fixtures given? =
          find surroundings fixtures given? := by
  have spells := spells_searchStart proper working straight
  have found : Answers surroundings fixtures given? (find surroundings fixtures given?) :=
    answers_find surroundings fixtures
      (isAnswer_find? proper surroundings.workingDirectory spells) given?
  refine ⟨fun source => ⟨fun same => same ▸ found, fun answers => ?_⟩, ?_, ?_, ?_⟩
  · exact found.unique answers spells
  · exact fun front => spells.exists_of_mem_ancestors
  · exact fun directory => spells.existsUnique_front
  · exact fun tree same => find_congr same proper working straight given?

/-- A directory with the preferred name beside a project file, with another one above, and a
global directory. -/
def directoryInWay : Surroundings where
  tree :=
    ((((FileTree.empty.addDirectory ["w", "scatr.toml"]).addFile ["w", ".scatr.toml"] []).addFile
      ["scatr.toml"] []).addFile ["g", "config.toml"] []).addDirectory ["w", "d"]
  workingDirectory := ["w"]
  home? := none
  configDirectory? := some ⟨"d/../../g"⟩

theorem find_precedence_directoryInWay :
    directoryInWay.tree.IsProper ∧
      Answers directoryInWay ⟨"./missing/x.go"⟩ none (.project ⟨"/w/.scatr.toml"⟩) ∧
      find { directoryInWay with tree := directoryInWay.tree.write ["w", "d", "scatr.toml"] [] }
          ⟨"./missing/x.go"⟩ none =
        .project ⟨"/w/.scatr.toml"⟩ := by
  have proper : directoryInWay.tree.IsProper := by decide
  have working : directoryInWay.tree.get? directoryInWay.workingDirectory = some .directory := by
    decide
  have straight : .parent ∉ Path.components ⟨"./missing/x.go"⟩ := by decide
  have found : find directoryInWay ⟨"./missing/x.go"⟩ none = .project ⟨"/w/.scatr.toml"⟩ := by
    decide
  have aside : SameAround directoryInWay ⟨"./missing/x.go"⟩
      (directoryInWay.tree.write ["w", "d", "scatr.toml"] []) := by
    refine sameAround_write (by decide) (by decide) fun directory set => ?_
    cases set
    decide
  obtain ⟨answers, -, -, same⟩ := find_precedence proper working straight none
  exact ⟨proper, (answers _).mp found, (same _ aside).trans found⟩

/-! ### Paths that are too long -/

/-- A joined path is not shorter than both together. -/
theorem utf8ByteSize_le_join (base : Path) {path : Path} (relative : path.isAbsolute = false) :
    base.text.utf8ByteSize + path.text.utf8ByteSize ≤ (base.join path).text.utf8ByteSize := by
  unfold Path.join
  rw [if_neg (by simp [relative])]
  split
  · rw [String.utf8ByteSize_append]
  · rw [String.utf8ByteSize_append, String.utf8ByteSize_append]
    omega

/-- In the directory of the start a file counts only if the path of the start leaves room for the
name. -/
theorem Counts.utf8ByteSize_le (counts : Counts tree path place name file)
    (spells : path.Spells place) :
    path.text.utf8ByteSize + name.utf8ByteSize ≤ FileTree.longestPath := by
  obtain ⟨-, isProjectName, -, openable⟩ := (counts_here_iff spells).mp counts
  have noSlash := (isNameSegment_of_mem_projectNames name isProjectName).noSlash
  exact (utf8ByteSize_le_join path (Path.isAbsolute_name noSlash)).trans openable

/-- A dot with slashes behind it. -/
def dotAndSlashes (slashes : Nat) : Path :=
  ⟨String.ofList ('.' :: List.replicate slashes '/')⟩

theorem segments_dotAndSlashes (slashes : Nat) :
    (dotAndSlashes slashes).segments = ['.'] :: List.replicate slashes [] := by
  have made : dotAndSlashes slashes = Path.ofSegments (['.'] :: List.replicate slashes []) := by
    unfold dotAndSlashes Path.ofSegments
    congr 2
    induction slashes with
    | zero => rfl
    | succ slashes ih =>
      rw [List.replicate_succ', List.replicate_succ', ← List.cons_append, ← List.cons_append,
        Path.intercalate_concat (List.cons_ne_nil _ _), ← ih]
  rw [made, Path.segments_ofSegments (List.cons_ne_nil _ _)]
  intro segment member
  rcases List.mem_cons.mp member with rfl | member
  · decide
  · rw [List.eq_of_mem_replicate member]
    exact List.not_mem_nil

theorem components_dotAndSlashes (slashes : Nat) :
    (dotAndSlashes slashes).components = [.current] := by
  have silent : Path.loud (List.replicate slashes []) = [] := by
    refine List.filter_eq_nil_iff.mpr fun segment member => ?_
    rw [List.eq_of_mem_replicate member]
    decide
  rw [Path.components_eq (segments_dotAndSlashes slashes), silent]
  rfl

theorem isAbsolute_dotAndSlashes (slashes : Nat) : (dotAndSlashes slashes).isAbsolute = false := by
  rw [Bool.eq_false_iff]
  intro absolute
  cases ((Path.isAbsolute_iff (segments_dotAndSlashes slashes)).mp absolute).1

theorem utf8ByteSize_dotAndSlashes (slashes : Nat) :
    (dotAndSlashes slashes).text.utf8ByteSize = slashes + 1 := by
  unfold dotAndSlashes
  induction slashes with
  | zero => rfl
  | succ slashes ih =>
    have grown : String.ofList ('.' :: List.replicate (slashes + 1) '/') =
        String.ofList ('.' :: List.replicate slashes '/') ++ "/" := by
      rw [List.replicate_succ', ← List.cons_append, String.ofList_append]
    rw [grown, String.utf8ByteSize_append]
    dsimp only at ih
    rw [ih]
    rfl

/-- It is never taken for a file. -/
theorem isFile_dotAndSlashes (proper : surroundings.tree.IsProper) (slashes : Nat) :
    surroundings.isFile (dotAndSlashes slashes) = false := by
  rw [Bool.eq_false_iff]
  intro file
  obtain ⟨place, bytes, located⟩ := FileTree.exists_locate_of_isFile file
  obtain ⟨front, name, whole⟩ := proper.name_of_locate located
  rw [components_dotAndSlashes] at whole
  cases front with
  | nil => cases whole
  | cons first front => simp at whole

/-- So the search starts in the working directory, with a path that is as long. -/
theorem searchStart_dotAndSlashes (proper : surroundings.tree.IsProper) (slashes : Nat) :
    startPlace surroundings (dotAndSlashes slashes) = surroundings.workingDirectory ∧
      slashes < (searchStart surroundings (dotAndSlashes slashes)).text.utf8ByteSize := by
  have joined := utf8ByteSize_le_join surroundings.workingPath (isAbsolute_dotAndSlashes slashes)
  rw [utf8ByteSize_dotAndSlashes] at joined
  rw [startPlace, searchStart, isFile_dotAndSlashes proper, components_dotAndSlashes,
    if_neg Bool.false_ne_true, if_neg Bool.false_ne_true]
  exact ⟨rfl, by omega⟩

/-- A working directory with a project file. -/
def projectHere : Surroundings where
  tree := FileTree.empty.addFile ["w", "scatr.toml"] []
  workingDirectory := ["w"]
  home? := none
  configDirectory? := none

/-- **A project file is passed over if its path is too long**, though it lies in the directory of
the fixtures. -/
theorem find_projectHere :
    projectHere.tree.IsProper ∧
      .parent ∉ (dotAndSlashes 4090).components ∧
      startPlace projectHere (dotAndSlashes 4090) = ["w"] ∧
      projectHere.tree.holdsFile ["w", "scatr.toml"] = true ∧
      find projectHere (dotAndSlashes 4090) none = .builtIn := by
  have proper : projectHere.tree.IsProper := by decide
  have straight : .parent ∉ (dotAndSlashes 4090).components := by
    rw [components_dotAndSlashes]
    decide
  obtain ⟨start, long⟩ := searchStart_dotAndSlashes proper 4090
  refine ⟨proper, straight, start, by decide, ?_⟩
  have spells := spells_searchStart proper (by decide) straight
  rw [start] at spells
  have longNames : ∀ name ∈ projectNames, 5 ≤ name.utf8ByteSize := by decide
  have noneAbove : ∀ name ∈ projectNames, ¬ projectHere.tree.holdsFile ([] ++ [name]) = true := by
    decide
  have bare : ∀ place name file,
      ¬ Counts projectHere.tree (searchStart projectHere (dotAndSlashes 4090)) place name file := by
    intro place name file counts
    -- in the root there is no project file, and in the working directory no path is short enough
    rcases List.prefix_cons_iff.mp (counts.isPrefix spells) with rfl | ⟨below, rfl, nothing⟩
    · exact noneAbove name counts.isProjectName counts.isFile
    · rw [List.prefix_nil.mp nothing] at counts
      have short := counts.utf8ByteSize_le spells
      have long' := longNames name counts.isProjectName
      rw [FileTree.longestPath] at short
      omega
  exact (answers_find _ _ (isAnswer_find? proper _ spells) none).unique
    (.builtIn bare fun directory set => by cases set) spells

end ConfigSource

end CheckerFixtures
