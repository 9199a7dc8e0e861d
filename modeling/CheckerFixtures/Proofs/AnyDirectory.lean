/-
**Standing anywhere in a project.**

A run without a path searches for a project file from the working directory upwards. From the
directory of the file and from all directories below, as long as no other project file lies on the
way, the same file is found, though its path may be written with a dot. The root in it is read
relative to its directory, so a report is the same wherever in the project one stands. Two things
depend on where that is: the dot may make the path of the file too long to be opened, and the
ignore rules of the user are read in the working directory.

* `exists_find_of_standsIn`: the project file is found from everywhere in the project;
* `reportPragmas_congr`: a report depends on the configuration and the rules of the user alone;
* `run_eq_of_standsIn`: so a run without a path is the same everywhere in a project;
* `run_ne_in_project`: but not without a bound on paths, nor whatever the rules of the user.
-/

import CheckerFixtures.Proofs.BuiltTrees
import CheckerFixtures.Proofs.DottedPaths
import CheckerFixtures.Run

namespace CheckerFixtures

open CheckerFixtures.Path (IsNameSegment isSilent loud)

/-! ### Standing in a project -/

/-- The surroundings as they are seen from a directory. -/
def Surroundings.standingIn (surroundings : Surroundings) (directory : Place) : Surroundings :=
  { surroundings with workingDirectory := directory }

namespace ConfigSource

/-- The directory of a project file as a run writes it that stands there or below. In the directory
itself the file is looked for behind a dot. -/
def projectPath (project place : Place) : Path :=
  if place = project then (FileTree.pathOf project).child "." else FileTree.pathOf project

/-- A directory in a project: the directory of a project file or one below it, without another
project file on the way. The path of the project file, as a run writes it, is not too long to be
opened. -/
structure StandsIn (tree : FileTree) (project : Place) (name : String) (place : Place) : Prop where
  isDirectory : tree.get? place = some .directory
  below : project <+: place
  bare : ∀ other, project <+: other → other ≠ project → other <+: place →
    projectName? tree other = none
  openable : ((projectPath project place).child name).text.utf8ByteSize ≤ FileTree.longestPath

instance (tree : FileTree) (project : Place) (name : String) (place : Place) :
    Decidable (StandsIn tree project name place) :=
  decidable_of_iff
    (tree.get? place = some .directory ∧ project <+: place ∧
      (∀ other ∈ place.inits, project <+: other → other ≠ project →
        projectName? tree other = none) ∧
      ((projectPath project place).child name).text.utf8ByteSize ≤ FileTree.longestPath)
    ⟨fun ⟨isDirectory, below, bare, openable⟩ => ⟨isDirectory, below,
        fun other behind differ front => bare other ((List.mem_inits ..).mpr front) behind differ,
        openable⟩,
      fun stands => ⟨stands.isDirectory, stands.below, fun other front behind differ =>
        stands.bare other behind differ ((List.mem_inits ..).mp front), stands.openable⟩⟩

/-- The working directory is never taken for a file. -/
theorem searchStart_dot (surroundings : Surroundings) :
    searchStart surroundings ⟨"."⟩ = surroundings.workingPath.child "." := by
  have noFile : surroundings.isFile ⟨"."⟩ = false := by
    unfold Surroundings.isFile FileTree.isFile
    split
    · rename_i place bytes located
      obtain ⟨-, -, -, followed, file⟩ := FileTree.locate_eq_ok_iff.mp located
      have cut : Path.segments ⟨"."⟩ = [['.']] := by decide
      rw [if_neg (by decide), cut, FileTree.follow] at followed
      split at followed
      · cases followed
      · cases followed
      · rename_i isDirectory
        cases followed
        rw [isDirectory] at file
        cases file
    · rfl
  rw [searchStart, noFile]
  rfl

/-- **The project file is found from everywhere in the project**, by some path of its directory. -/
theorem exists_find_of_standsIn {surroundings : Surroundings} {project place : Place}
    {name : String} (proper : surroundings.tree.IsProper)
    (holds : projectName? surroundings.tree project = some name)
    (stands : StandsIn surroundings.tree project name place) :
    ∃ directory : Path, directory.IsPathOf project ∧
      find (surroundings.standingIn place) ⟨"."⟩ none = .project (directory.child name) ∧
      (surroundings.standingIn place).isFile (directory.child name) = true := by
  have named := proper.named_of_get? stands.isDirectory
  have isProjectName : name ∈ projectNames := List.mem_of_find?_eq_some holds
  have noSlash := (isNameSegment_of_mem_projectNames name isProjectName).noSlash
  obtain ⟨below, rfl⟩ := stands.below
  have start := Path.isPathOf_pathOf named
  have top := Path.isPathOf_pathOf fun other listed =>
    named other (List.mem_append_left below listed)
  have bare : ∀ more, more ≠ [] → more <+: below →
      projectName? surroundings.tree (project ++ more) = none := by
    intro more filled front
    refine stands.bare _ (List.prefix_append _ _) (by simpa using filled) ?_
    exact (List.prefix_append_right_inj project).mpr front
  have openable := stands.openable
  -- only a run in the project directory itself sees the dot
  have dotted : below = [] → (((FileTree.pathOf (project ++ below)).child ".").child
      name).text.utf8ByteSize ≤ FileTree.longestPath := by
    rintro rfl
    rwa [projectPath, if_pos (List.append_nil project), ← List.append_nil project] at openable
  have plain : ((FileTree.pathOf project).child name).text.utf8ByteSize ≤
      FileTree.longestPath := by
    unfold projectPath at openable
    split at openable
    · exact (top.utf8ByteSize_child_le noSlash).trans openable
    · exact openable
  obtain ⟨directory, there, found⟩ :=
    find?_projectPaths_of_isPathOf proper start.dot bare holds dotted plain
  have nearest : nearest? (surroundings.standingIn (project ++ below)) ⟨"."⟩ =
      some (directory.child name) := by
    rw [nearest?, searchStart_dot]
    exact found
  exact ⟨directory, there, find_eq_project_iff.mpr nearest, isFile_of_nearest? nearest⟩

/-- What the project file with some bytes says, with its root read relative to its directory. -/
def projectConfig? (project : Place) (bytes : List UInt8) : Option Config :=
  (Utf8.decode? bytes).bind fun text => (Config.parse text).toOption.map fun config =>
    { config with root := (FileTree.pathOf project).join config.root }

theorem isAbsolute_root_of_projectConfig? {project : Place} {bytes : List UInt8} {config : Config}
    (read : projectConfig? project bytes = some config) : config.root.isAbsolute = true := by
  obtain ⟨text, -, parsed⟩ := Option.bind_eq_some_iff.mp read
  obtain ⟨found, -, rfl⟩ := Option.map_eq_some_iff.mp parsed
  exact Path.isAbsolute_join_of_isAbsolute (FileTree.isAbsolute_pathOf project) found.root

/-- **What is loaded does not depend on how the path of the project file is written.** -/
theorem toOption_load_project {surroundings : Surroundings} {file : Path} {project place : Place}
    {bytes : List UInt8} (above : file.parent? = some (FileTree.pathOf project))
    (located : surroundings.tree.locate surroundings.workingDirectory file =
      .ok (place, .file bytes)) :
    (load surroundings (.project file)).toOption = projectConfig? project bytes := by
  unfold load path? Config.ofFile FileTree.readText FileTree.read anchored projectConfig?
  simp only [located, above]
  cases Utf8.decode? bytes with
  | none => rfl
  | some text =>
    dsimp only [Option.bind_some]
    cases Config.parse text <;> rfl

theorem exists_of_projectName? {tree : FileTree} {project : Place} {name : String}
    (holds : projectName? tree project = some name) :
    ∃ bytes, tree.get? (project ++ [name]) = some (.file bytes) := by
  have file := List.find?_some holds
  unfold FileTree.holdsFile at file
  split at file
  · rename_i bytes there
    exact ⟨bytes, there⟩
  · cases file

/-- **Everywhere in a project the same is loaded.** -/
theorem toOption_load_of_standsIn {surroundings : Surroundings} {project place : Place}
    {name : String} {bytes : List UInt8} (proper : surroundings.tree.IsProper)
    (holds : projectName? surroundings.tree project = some name)
    (there : surroundings.tree.get? (project ++ [name]) = some (.file bytes))
    (stands : StandsIn surroundings.tree project name place) :
    ((find (surroundings.standingIn place) ⟨"."⟩ none).load
      (surroundings.standingIn place)).toOption = projectConfig? project bytes := by
  obtain ⟨directory, isPath, found, isFile⟩ := exists_find_of_standsIn proper holds stands
  have named := isNameSegment_of_mem_projectNames name
    (List.mem_of_find?_eq_some holds)
  obtain ⟨bytes', located⟩ := FileTree.locate_child_of_isFile isPath.absolute named isFile
  have file := (FileTree.locate_eq_ok_iff.mp located).2.2.2.2
  rw [isPath.spells.placeFrom_eq] at file
  cases there.symm.trans file
  rw [found]
  exact toOption_load_project (isPath.parent?_child named) located

end ConfigSource

/-! ### Runs -/

/-- The ignore rules of the user say the same from two directories about all that is below the
root, unless a configuration leaves ignore rules aside. -/
def Surroundings.IgnoresAlike (first second : Surroundings) (config : Config) : Prop :=
  config.useIgnoreFiles = true → ∀ (names : Place) (isDirectory : Bool), names ≠ [] →
    first.userRules.verdict? (names.foldl Path.child config.root) isDirectory =
      second.userRules.verdict? (names.foldl Path.child config.root) isDirectory

/-- Of the ignore rules of the user only what they say about paths below the root matters. -/
theorem Loader.candidates_congr (loader : Loader) (tree : FileTree)
    {rules rules' : Ignore.UserRules}
    (alike : loader.useIgnoreFiles = true → ∀ (names : Place) (isDirectory : Bool), names ≠ [] →
      rules.verdict? (loader.walkedPath names) isDirectory =
        rules'.verdict? (loader.walkedPath names) isDirectory) :
    ({ loader with userRules := rules } : Loader).candidates tree =
      ({ loader with userRules := rules' } : Loader).candidates tree := by
  have visible : ({ loader with userRules := rules } : Loader).visible tree =
      ({ loader with userRules := rules' } : Loader).visible tree :=
    Ignore.visibleFiles_congr tree loader.useIgnoreFiles alike
  unfold candidates
  rw [visible]
  rfl

namespace Command

theorem reportLoaded_congr (tree : FileTree) (loader : Loader) {rules rules' : Ignore.UserRules}
    (alike : loader.useIgnoreFiles = true → ∀ (names : Place) (isDirectory : Bool), names ≠ [] →
      rules.verdict? (loader.walkedPath names) isDirectory =
        rules'.verdict? (loader.walkedPath names) isDirectory)
    (format : Report.Format) (log log' : List Notice) :
    (reportLoaded tree { loader with userRules := rules } format log).output =
        (reportLoaded tree { loader with userRules := rules' } format log').output ∧
      (reportLoaded tree { loader with userRules := rules } format log).exitCode =
        (reportLoaded tree { loader with userRules := rules' } format log').exitCode := by
  unfold reportLoaded
  dsimp only
  rw [loader.candidates_congr tree alike]
  cases ({ loader with userRules := rules' } : Loader).candidates tree <;> exact ⟨rfl, rfl⟩

/-- **A report depends on the configuration and the rules of the user alone**, once the root is
absolute. -/
theorem reportPragmas_congr {first second : Surroundings} {source other : ConfigSource}
    (tree : first.tree = second.tree)
    (same : (source.load first).toOption = (other.load second).toOption)
    (absolute : ∀ config, (source.load first).toOption = some config →
      config.root.isAbsolute = true)
    (alike : ∀ config, (source.load first).toOption = some config →
      first.IgnoresAlike second config)
    (format : Report.Format) (exclude : List String) :
    (reportPragmas first source none format exclude).output =
        (reportPragmas second other none format exclude).output ∧
      (reportPragmas first source none format exclude).exitCode =
        (reportPragmas second other none format exclude).exitCode := by
  unfold reportPragmas
  cases read : source.load first with
  | error cause =>
    cases read' : other.load second with
    | error cause' => exact ⟨rfl, rfl⟩
    | ok config' =>
      rw [read, read'] at same
      cases same
  | ok config =>
    cases read' : other.load second with
    | error cause' =>
      rw [read, read'] at same
      cases same
    | ok config' =>
      rw [read, read'] at same
      cases same
      have anywhere := absolute config (congrArg Except.toOption read)
      have loader : Loader.ofConfig config none exclude first.workingPath =
          Loader.ofConfig config none exclude second.workingPath := by
        unfold Loader.ofConfig
        rw [Option.getD_none, Path.join_absolute anywhere, Path.join_absolute anywhere]
      dsimp only
      rw [loader, tree]
      cases built : Loader.ofConfig config none exclude second.workingPath with
      | error cause => exact ⟨rfl, rfl⟩
      | ok loader =>
        obtain ⟨patterns, -, rfl⟩ := Loader.ofConfig_eq_ok_iff.mp built
        refine reportLoaded_congr second.tree _ (fun counts names isDirectory => ?_) format _ _
        rw [Loader.walkedPath, Option.getD_none, Path.join_absolute anywhere]
        exact alike config (congrArg Except.toOption read) counts names isDirectory

end Command

/-- What is printed and how a run ends depends on what it would print and how it would end. -/
theorem Outcome.printed_congr {first second : Outcome} (storage : Storage)
    (output : first.output = second.output) (exitCode : first.exitCode = second.exitCode) :
    (first.printed storage).output = (second.printed storage).output ∧
      (first.printed storage).exitCode = (second.printed storage).exitCode := by
  unfold printed
  dsimp only
  rw [output]
  split
  · exact ⟨output, exitCode⟩
  · exact ⟨rfl, rfl⟩

theorem run_pragmas {surroundings : Surroundings} {arguments exclude : List String}
    {format : Report.Format}
    (asked : Request.ofArguments arguments = .run none (.pragmas none format exclude)) :
    run surroundings arguments =
      (Command.reportPragmas surroundings (ConfigSource.find surroundings ⟨"."⟩ none) none format
        exclude).printed surroundings.storage := by
  unfold run
  rw [asked]
  rfl

/-- A project with fixtures in one directory, and another directory beside them. -/
def smallProject : Surroundings where
  tree :=
    ((FileTree.empty.addFile ["w", "scatr.toml"]
      (Utf8.encode "[fixtures]\nroot = \"t\"".toList)).addFile ["w", "t", "x.go"]
        (Utf8.encode "f() // [E1]".toList)).addDirectory ["w", "d"]
  workingDirectory := ["w"]
  home? := none
  configDirectory? := none

/-- A project, and a user whose settings name the file with ignore rules by a relative name. There
is such a file in the project directory. -/
def ruledProject : Surroundings where
  tree :=
    ((((FileTree.empty.addFile ["h", ".gitconfig"]
      (Utf8.encode "[core]\nexcludesfile = mine".toList)).addFile ["w", "mine"]
        (Utf8.encode "x.go".toList)).addFile ["w", "scatr.toml"]
          (Utf8.encode "[fixtures]\nroot = \"t\"".toList)).addFile ["w", "t", "x.go"]
            (Utf8.encode "f() // [E1]".toList)).addDirectory ["w", "d"]
  workingDirectory := ["w"]
  home? := some ⟨"/h"⟩
  configDirectory? := none

/-- A configuration with a broken pattern. -/
def brokenConfig : List Char := "[fixtures]\nroot = \"t\"\nexclude = [\"[\"]".toList

/-- A tree with nothing but a project file that says so, and a directory beside it. -/
def loneProject (project : Place) : Surroundings where
  tree := (FileTree.empty.addDirectory (project ++ ["s"])).write (project ++ ["scatr.toml"])
    (Utf8.encode brokenConfig)
  workingDirectory := project
  home? := none
  configDirectory? := none

namespace LoneProject

open FileTree (IsFileName)

variable {project place : Place}

theorem get?_tree (filled : place ≠ []) :
    (loneProject project).tree.get? place =
      if place = project ++ ["scatr.toml"] then some (.file (Utf8.encode brokenConfig))
      else if place <+: project ++ ["s"] then some .directory else none := by
  rw [loneProject, FileTree.get?_write _ _ _ _ filled, FileTree.get?_addDirectory _ _ filled,
    FileTree.get?_empty filled, Option.none_or]

theorem isDirectory (filled : place ≠ []) (front : place <+: project ++ ["s"]) :
    (loneProject project).tree.get? place = some .directory := by
  rw [get?_tree filled, if_neg, if_pos front]
  rintro rfl
  rw [List.prefix_append_right_inj] at front
  exact absurd front (by decide)

theorem isProper (filled : project ≠ []) (named : ∀ name ∈ project, IsFileName name) :
    (loneProject project).tree.IsProper := by
  have called : ∀ last, IsFileName last → ∀ name ∈ project ++ [last], IsFileName name := by
    intro last isFileName name inside
    rcases List.mem_append.mp inside with front | last
    · exact named name front
    · rwa [List.mem_singleton.mp last]
  have beside : ¬ project ++ ["scatr.toml"] <+: project ++ ["s"] := by
    rw [List.prefix_append_right_inj]
    decide
  have proper := FileTree.IsProper.empty.addDirectory
    (called "s" ⟨by decide, by decide, by decide⟩) fun front _ => FileTree.get?_empty_ne_file front
  refine proper.write (by simp) (called "scatr.toml" ⟨by decide, by decide, by decide⟩) ?_ ?_ _
  · have above : project <+: project ++ ["s"] := List.prefix_append _ _
    rw [List.dropLast_concat, FileTree.get?_addDirectory _ _ filled, FileTree.get?_empty filled,
      Option.none_or, if_pos above]
  · rw [FileTree.get?_addDirectory _ _ (by simp), FileTree.get?_empty (by simp), Option.none_or,
      if_neg beside]
    rintro ⟨⟩

theorem holdsFile_iff :
    (loneProject project).tree.holdsFile place = true ↔ place = project ++ ["scatr.toml"] := by
  by_cases top : place = []
  · rw [top, FileTree.holdsFile, FileTree.get?_root]
    simp
  · rw [FileTree.holdsFile, get?_tree top]
    by_cases here : place = project ++ ["scatr.toml"]
    · simp [here]
    · by_cases front : place <+: project ++ ["s"] <;> simp [here, front]

theorem projectName?_eq_some (project : Place) :
    ConfigSource.projectName? (loneProject project).tree project = some "scatr.toml" :=
  List.find?_cons_of_pos (holdsFile_iff.mpr rfl)

/-- There is no other project file. -/
theorem projectName?_eq_none (aside : place ≠ project) :
    ConfigSource.projectName? (loneProject project).tree place = none := by
  refine List.find?_eq_none.mpr fun name _ file => aside ?_
  exact (List.append_inj' (holdsFile_iff.mp file) rfl).1

/-- What the project file says. -/
theorem projectConfig?_eq (project : Place) :
    ConfigSource.projectConfig? project (Utf8.encode brokenConfig) =
      some { root := (FileTree.pathOf project).join ⟨"t"⟩, exclude := ["["] } := by
  have decoded : Utf8.decode? (Utf8.encode brokenConfig) = some brokenConfig := by decide +kernel
  have parsed : (Config.parse brokenConfig).toOption =
      some { root := ⟨"t"⟩, exclude := ["["] } := by
    decide +kernel
  rw [ConfigSource.projectConfig?, decoded, Option.bind_some, parsed]
  rfl

variable (named : ∀ name ∈ project, IsFileName name)
  (length : Path.spelledSize project = 4083)

include named length

/-- From the directory below, the project file can be opened. -/
theorem standsIn : ConfigSource.StandsIn (loneProject project).tree project "scatr.toml"
    (project ++ ["s"]) where
  isDirectory := isDirectory (by simp) List.prefix_rfl
  below := List.prefix_append _ _
  bare := fun _ _ aside _ => projectName?_eq_none aside
  openable := by
    rw [ConfigSource.projectPath, if_neg (by simp), Path.utf8ByteSize_child_pathOf
      (fun name inside => (named name inside).isSegment) (by decide), length]
    decide

/-- There, a run fails for the pattern. -/
theorem exitCode_below (filled : project ≠ []) :
    (run ((loneProject project).standingIn (project ++ ["s"])) ["pragmas"]).exitCode = 1 := by
  have asked : Request.ofArguments ["pragmas"] = .run none (.pragmas none .text []) := by decide
  have file : (loneProject project).tree.get? (project ++ ["scatr.toml"]) =
      some (.file (Utf8.encode brokenConfig)) :=
    FileTree.get?_write_self (by simp) _ _
  have loaded := (ConfigSource.toOption_load_of_standsIn (isProper filled named)
    (projectName?_eq_some project) file (standsIn named length)).trans (projectConfig?_eq project)
  have broken : (["["].mapM ExcludePattern.parse).toOption = none := by decide +kernel
  rw [run_pragmas asked, Outcome.printed_of_open rfl]
  unfold Command.reportPragmas
  cases read : (ConfigSource.find ((loneProject project).standingIn (project ++ ["s"])) ⟨"."⟩
      none).load ((loneProject project).standingIn (project ++ ["s"])) with
  | error cause =>
    rw [read] at loaded
    cases loaded
  | ok config =>
    rw [read] at loaded
    cases loaded
    dsimp only
    rw [Loader.ofConfig_eq, List.nil_append]
    cases parsed : ["["].mapM ExcludePattern.parse with
    | error cause => rfl
    | ok patterns =>
      rw [parsed] at broken
      cases broken

/-- From the directory of the project file, it is passed over. -/
theorem find_eq_builtIn (filled : project ≠ []) :
    ConfigSource.find ((loneProject project).standingIn project) ⟨"."⟩ none = .builtIn := by
  have passed : ConfigSource.nearest? ((loneProject project).standingIn project) ⟨"."⟩ = none := by
    rcases List.eq_nil_or_concat project with rfl | ⟨front, last, rfl⟩
    · exact absurd rfl filled
    rw [List.concat_eq_append] at named length ⊢
    have segments := fun name inside => (named name inside).isSegment
    have here : ((loneProject (front ++ [last])).standingIn (front ++ [last])).workingPath =
        FileTree.pathOf (front ++ [last]) := rfl
    rw [ConfigSource.nearest?, ConfigSource.searchStart_dot, here]
    refine ConfigSource.find?_projectPaths_of_long (isProper (by simp) named)
      (Path.isPathOf_pathOf segments).dot (fun name listed => ?_)
      fun above inside => projectName?_eq_none ?_
    · have noSlash := (ConfigSource.isNameSegment_of_mem_projectNames name listed).noSlash
      have long : ∀ name ∈ ConfigSource.projectNames, 10 ≤ name.utf8ByteSize := by decide
      have long := long name listed
      rw [Path.utf8ByteSize_child_dot segments noSlash, length, FileTree.longestPath]
      omega
    · rintro rfl
      have short := inside.length_le
      rw [List.length_append, List.length_singleton] at short
      omega
  have noGlobal : ConfigSource.globalFile? ((loneProject project).standingIn project) = none := rfl
  unfold ConfigSource.find
  rw [passed, noGlobal]

omit named length in
/-- A directory that is found is reported. -/
theorem exitCode_reportLoaded {tree : FileTree} {loader : Loader}
    (located : tree.locate [] loader.root = .ok (place, .directory)) (format : Report.Format)
    (log : List Notice) : (Command.reportLoaded tree loader format log).exitCode = 0 := by
  unfold Command.reportLoaded Loader.candidates Loader.candidatesBy
  rw [located]
  rfl

/-- There, a run goes by the built-in settings and finds its root. -/
theorem exitCode_here (filled : project ≠ []) :
    (run ((loneProject project).standingIn project) ["pragmas"]).exitCode = 0 := by
  have asked : Request.ofArguments ["pragmas"] = .run none (.pragmas none .text []) := by decide
  have segments := fun name inside => (named name inside).isSegment
  have located : (loneProject project).tree.locate [] ((FileTree.pathOf project).child ".") =
      .ok (project, .directory) := by
    refine (Path.isPathOf_pathOf segments).dot.spells.locate (isProper filled named) ?_ ?_ []
    · exact isDirectory filled (List.prefix_append _ _)
    · rw [Path.utf8ByteSize_child_pathOf segments (by decide), length]
      decide
  have patterns : ((Config.exclude {}).mapM ExcludePattern.parse).isOk = true := by decide +kernel
  rw [run_pragmas asked, Outcome.printed_of_open rfl, find_eq_builtIn named length filled]
  unfold Command.reportPragmas
  rw [show ConfigSource.load ((loneProject project).standingIn project) .builtIn = .ok {} from rfl]
  dsimp only
  rw [Loader.ofConfig_eq, List.nil_append]
  cases parsed : (Config.exclude {}).mapM ExcludePattern.parse with
  | error cause =>
    rw [parsed] at patterns
    cases patterns
  | ok patterns =>
    exact exitCode_reportLoaded located .text _

end LoneProject

/-- A directory whose path is almost too long. -/
def farPlace : Place := List.replicate 16 (String.ofList (List.replicate 254 'd')) ++ ["dd"]

theorem isFileName_of_mem_farPlace {name : String} (inside : name ∈ farPlace) :
    FileTree.IsFileName name := by
  rcases List.mem_append.mp inside with long | last
  · rw [List.eq_of_mem_replicate long]
    refine ⟨?_, ?_, ?_⟩ <;> rw [String.toList_ofList] <;> decide +kernel
  · rw [List.mem_singleton.mp last]
    exact ⟨by decide, by decide, by decide⟩

theorem spelledSize_farPlace : Path.spelledSize farPlace = 4083 := by
  have long : (String.ofList (List.replicate 254 'd')).utf8ByteSize = 254 := by decide +kernel
  rw [farPlace, Path.spelledSize_append, Path.spelledSize_replicate, long]
  decide

end CheckerFixtures
