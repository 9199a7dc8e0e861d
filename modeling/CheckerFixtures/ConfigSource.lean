/-
**Where a configuration comes from.**

A configuration file that was given wins. Otherwise the nearest project file in the directory of
the fixtures or above it counts, then the global file, then the built-in settings. A relative
fixture root in a file is read relative to the directory of that file.

* `find_given`: a given file wins over every other;
* `isFile_of_nearest?`: a directory is never taken for a project file;
* `anchored_absolute`: an absolute fixture root stays as it is.
-/

import CheckerFixtures.Config
import CheckerFixtures.Storage

namespace CheckerFixtures

/-- What can be seen from where one works. -/
structure Surroundings where
  tree : FileTree
  workingDirectory : Place
  home? : Option Path
  /-- The directory of the global configuration, if one is set. -/
  configDirectory? : Option Path
  /-- The directory for the settings of other programs, if one is set. -/
  settingsDirectory? : Option Path := none
  /-- What becomes of what is written. -/
  storage : Storage := {}

namespace Surroundings

def workingPath (surroundings : Surroundings) : Path :=
  FileTree.pathOf surroundings.workingDirectory

def isFile (surroundings : Surroundings) (path : Path) : Bool :=
  surroundings.tree.isFile surroundings.workingDirectory path

/-- The directory of the global configuration. -/
def globalDirectory? (surroundings : Surroundings) : Option Path :=
  surroundings.configDirectory?.or (surroundings.home?.map fun home => home.child ".scatr")

end Surroundings

/-- Where a configuration comes from. -/
inductive ConfigSource where
  | given (path : Path)
  | project (path : Path)
  | global (path : Path)
  | builtIn
deriving DecidableEq, Repr

/-- A configuration file that cannot be used, and why. -/
structure UnusableConfig where
  path : Path
  cause : ConfigError
deriving DecidableEq, Repr

/-- The text of the failure and of what caused it. -/
def UnusableConfig.chain (failure : UnusableConfig) : List String :=
  ("Failed to load config: " ++ failure.path.text) :: failure.cause.chain

namespace ConfigSource

/-! ### Finding -/

def name : ConfigSource → String
  | given _ => "explicit"
  | project _ => "project"
  | global _ => "global"
  | builtIn => "built-in"

def path? : ConfigSource → Option Path
  | given path | project path | global path => some path
  | builtIn => none

/-- The names of project files, the preferred one first. -/
def projectNames : List String := ["scatr.toml", ".scatr.toml"]

/-- The directory in which the search for a project file starts. -/
def searchStart (surroundings : Surroundings) (fixtures : Path) : Path :=
  surroundings.workingPath.join
    (if surroundings.isFile fixtures then fixtures.parent?.getD ⟨""⟩ else fixtures)

/-- The places for a project file, nearest first. -/
def projectPaths (start : Path) : List Path :=
  start.ancestors.flatMap fun directory => projectNames.map directory.child

def nearest? (surroundings : Surroundings) (fixtures : Path) : Option Path :=
  (projectPaths (searchStart surroundings fixtures)).find? surroundings.isFile

/-- The global file, if there is one. -/
def globalFile? (surroundings : Surroundings) : Option Path :=
  (surroundings.globalDirectory?.map fun directory => directory.child "config.toml").filter
    surroundings.isFile

/-- The source for some fixtures, a file or a directory. -/
def find (surroundings : Surroundings) (fixtures : Path) (given? : Option Path) : ConfigSource :=
  match given?, nearest? surroundings fixtures, globalFile? surroundings with
  | some path, _, _ => given path
  | none, some path, _ => project path
  | none, none, some path => global path
  | none, none, none => builtIn

/-! ### Reading -/

/-- The configuration of a file, with its root read relative to the directory of the file. -/
def anchored (config : Config) (file : Path) : Config :=
  match file.parent? with
  | none => config
  | some directory => { config with root := directory.join config.root }

def load (surroundings : Surroundings) (source : ConfigSource) : Except UnusableConfig Config :=
  match source.path? with
  | none => .ok {}
  | some path =>
    match Config.ofFile surroundings.tree surroundings.workingDirectory path with
    | .error cause => .error ⟨path, cause⟩
    | .ok config => .ok (anchored config path)

/-! ### Laws -/

/-- A given file wins over every other. -/
theorem find_given (surroundings : Surroundings) (fixtures path : Path) :
    find surroundings fixtures (some path) = given path := rfl

/-- A directory is never taken for a project file. -/
theorem isFile_of_nearest? {surroundings : Surroundings} {fixtures path : Path}
    (nearest : nearest? surroundings fixtures = some path) : surroundings.isFile path = true :=
  List.find?_some nearest

/-- An absolute fixture root stays as it is. -/
theorem anchored_absolute {config : Config} (file : Path)
    (absolute : config.root.isAbsolute = true) : anchored config file = config := by
  unfold anchored
  split
  · rfl
  · rw [Path.join_absolute absolute]

end ConfigSource

end CheckerFixtures
