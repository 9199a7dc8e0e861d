/-
**Collections of fixtures.**

A loader takes the files that a walk below a root yields, leaves out those that exclude patterns
describe, and reads the rest as fixtures. A file of no known language is skipped and counted.

* `Loader.loadBy`: loads what a walk yields, in whatever order;
* `Loader.load`: loads the files that no ignore rule says to skip;
* `loadBy_directory`: loading a directory collects what the walk yields;
* `length_add_skipped`: every file that is not left out becomes a fixture or is counted.
-/

import CheckerFixtures.Config
import CheckerFixtures.ExcludePattern
import CheckerFixtures.Fixture.Scan
import CheckerFixtures.Ignore.UserRules

namespace CheckerFixtures

/-! ### Fixtures with their paths -/

/-- A fixture that was found. -/
structure FoundFixture where
  /-- The path below the root. -/
  path : Path
  /-- The language whose comment tokens were used. -/
  language : String
  fixture : Fixture
deriving DecidableEq, Inhabited

/-- The fixtures of a root. -/
structure Collection where
  /-- The fixtures in the order of their paths. -/
  fixtures : List FoundFixture
  /-- The number of files of no known language. -/
  skipped : Nat
deriving DecidableEq, Inhabited

/-- The number of lines with expectations. -/
def Collection.pragmaCount (collection : Collection) : Nat :=
  (collection.fixtures.flatMap fun found => found.fixture.pragmas.keys).length

/-! ### Errors -/

/-- Why nothing can be loaded. -/
inductive LoadError where
  | missingRoot (path : Path)
  | invalidPattern (cause : PatternError)
deriving DecidableEq, Repr

namespace LoadError

def message : LoadError → String
  | missingRoot path => "Fixture root does not exist: " ++ path.text
  | invalidPattern cause => "Invalid exclude pattern: " ++ cause.message

/-- The text of an error and of what caused it. -/
def chain (error : LoadError) : List String :=
  match error with
  | missingRoot _ => [error.message]
  | invalidPattern cause => [error.message, cause.message]

/-- The identifier of a kind of error. -/
def code : LoadError → String
  | missingRoot _ => "scatr::load::missing_root"
  | invalidPattern _ => "scatr::load::glob"

/-- What to do about an error. -/
def help? : LoadError → Option String
  | missingRoot _ => some "check the path argument or `[fixtures] root` in scatr.toml"
  | invalidPattern _ => none

end LoadError

/-! ### Loaders -/

/-- What to load, and how. -/
structure Loader where
  /-- An absolute path, of a directory or a single file. -/
  root : Path
  /-- Patterns of paths to leave out. -/
  exclude : List ExcludePattern
  languages : LanguageTable
  /-- Whether ignore files count. -/
  useIgnoreFiles : Bool
  /-- The ignore rules of the user, which count if ignore files do. -/
  userRules : Ignore.UserRules := {}

/-- The files that are found below a place, by the names that lead to them. -/
abbrev Walk := Place → List (Place × List UInt8)

/-- A file that was walked to. -/
structure WalkedFile where
  path : Path
  bytes : List UInt8
deriving DecidableEq, Inhabited

namespace Loader

/-- A loader for a configuration. A root may be given besides; it is read relative to a working
directory. The given patterns come before the configured ones, and the first broken one is
reported. -/
def ofConfig (config : Config) (root? : Option Path) (patterns : List String)
    (workingDirectory : Path) : Except LoadError Loader := do
  let exclude ← ((patterns ++ config.exclude).mapM ExcludePattern.parse).mapError .invalidPattern
  return {
    root := workingDirectory.join (root?.getD config.root)
    exclude
    languages := config.languageTable
    useIgnoreFiles := config.useIgnoreFiles }

/-- A path as seen from the root. The root itself is seen as its file name. -/
def relative (loader : Loader) (path : Path) : Path :=
  if path.components = loader.root.components then
    match path.fileName? with
    | some name => ⟨name⟩
    | none => path
  else (path.relativeTo? loader.root).getD path

/-- Whether some exclude pattern describes a path, as it was walked or as seen from the root. -/
def excludes (loader : Loader) (path : Path) : Bool :=
  loader.exclude.any fun pattern =>
    pattern.accepts path.text || pattern.accepts (loader.relative path).text

/-- The fixture of a file, if its language is known. -/
def found? (loader : Loader) (file : WalkedFile) : Option FoundFixture :=
  (loader.languages.forPath? file.path).map fun language =>
    { path := loader.relative file.path
      language := language.name
      fixture :=
        Fixture.ofBytes (file.path.fileName?.getD file.path.text) file.bytes language.tokens }

/-- Whether the order of paths puts the first of two fixtures first, or treats them alike. -/
def inOrder (first second : FoundFixture) : Bool := !second.path.before first.path

/-- The collection of files that are not left out. -/
def gather (loader : Loader) (files : List WalkedFile) : Collection where
  fixtures := (files.filterMap loader.found?).mergeSort inOrder
  skipped := (files.filter fun file => (loader.found? file).isNone).length

/-- The files that no exclude pattern describes. -/
def kept (loader : Loader) (files : List WalkedFile) : List WalkedFile :=
  files.filter fun file => !loader.excludes file.path

/-- The collection of the files that a walk below the root yields. -/
def collect (loader : Loader) (files : List WalkedFile) : Collection :=
  loader.gather (loader.kept files)

/-- The path by which a walk gets from the root to a file. -/
def walkedPath (loader : Loader) (names : Place) : Path := names.foldl Path.child loader.root

/-- The files that a walk yields, with the paths by which it gets to them. -/
def walked (loader : Loader) (found : List (Place × List UInt8)) : List WalkedFile :=
  found.map fun (names, bytes) => ⟨loader.walkedPath names, bytes⟩

/-- The files to load if a walk yields those of a directory. A root that is a file is loaded in any
case. -/
def candidatesBy (loader : Loader) (tree : FileTree) (walk : Walk) :
    Except LoadError (List WalkedFile) :=
  match tree.locate [] loader.root with
  | .error _ => .error (.missingRoot loader.root)
  | .ok (_, .file bytes) => .ok [⟨loader.root, bytes⟩]
  | .ok (place, .directory) => .ok (loader.kept (loader.walked (walk place)))

/-- Loads the files that a walk yields. -/
def loadBy (loader : Loader) (tree : FileTree) (walk : Walk) : Except LoadError Collection :=
  (loader.candidatesBy tree walk).map loader.gather

/-- The files that no ignore rule says to skip. -/
def visible (loader : Loader) (tree : FileTree) : Walk :=
  Ignore.visibleFiles tree loader.useIgnoreFiles fun names isDirectory =>
    loader.userRules.verdict? (loader.walkedPath names) isDirectory

/-- Those files, with the paths by which a walk gets to them. -/
def walk (loader : Loader) (tree : FileTree) (place : Place) : List WalkedFile :=
  loader.walked (loader.visible tree place)

def candidates (loader : Loader) (tree : FileTree) : Except LoadError (List WalkedFile) :=
  loader.candidatesBy tree (loader.visible tree)

def load (loader : Loader) (tree : FileTree) : Except LoadError Collection :=
  loader.loadBy tree (loader.visible tree)

/-- The fixtures of which only a part is text, by name, with the number of lines before the first
that is not. -/
def cutShort (loader : Loader) (files : List WalkedFile) : List (String × Nat) :=
  files.filterMap fun file => do
    let found ← loader.found? file
    let lines ← Fixture.stoppedAfter? file.bytes
    return (found.fixture.name, lines)

/-! ### Laws -/

/-- There is a loader for every configuration unless a pattern is broken. -/
theorem ofConfig_eq (config : Config) (root? : Option Path) (patterns : List String)
    (workingDirectory : Path) :
    ofConfig config root? patterns workingDirectory =
      match (patterns ++ config.exclude).mapM ExcludePattern.parse with
      | .error cause => .error (.invalidPattern cause)
      | .ok exclude => .ok {
          root := workingDirectory.join (root?.getD config.root)
          exclude
          languages := config.languageTable
          useIgnoreFiles := config.useIgnoreFiles } := by
  unfold ofConfig
  cases (patterns ++ config.exclude).mapM ExcludePattern.parse <;> rfl

/-- What a loader for a configuration is made of. -/
theorem ofConfig_eq_ok_iff {config : Config} {root? : Option Path} {patterns : List String}
    {workingDirectory : Path} {loader : Loader} :
    ofConfig config root? patterns workingDirectory = .ok loader ↔
      ∃ exclude, (patterns ++ config.exclude).mapM ExcludePattern.parse = .ok exclude ∧
        loader = {
          root := workingDirectory.join (root?.getD config.root)
          exclude
          languages := config.languageTable
          useIgnoreFiles := config.useIgnoreFiles } := by
  rw [ofConfig_eq]
  cases (patterns ++ config.exclude).mapM ExcludePattern.parse with
  | error cause => simp
  | ok exclude => simp [eq_comm]

/-- Loading gathers the candidates. -/
theorem load_eq (loader : Loader) (tree : FileTree) :
    loader.load tree = (loader.candidates tree).map loader.gather := rfl

/-- A directory is loaded by collecting what a walk yields. -/
theorem loadBy_directory (loader : Loader) {tree : FileTree} {place : Place} (walk : Walk)
    (found : tree.locate [] loader.root = .ok (place, .directory)) :
    loader.loadBy tree walk = .ok (loader.collect (loader.walked (walk place))) := by
  simp [loadBy, candidatesBy, found, collect, Except.map]

theorem load_directory (loader : Loader) (tree : FileTree) (place : Place)
    (found : tree.locate [] loader.root = .ok (place, .directory)) :
    loader.load tree = .ok (loader.collect (loader.walk tree place)) :=
  loader.loadBy_directory (loader.visible tree) found

/-- Every file that is not left out becomes a fixture or is counted as skipped. -/
theorem length_add_skipped (loader : Loader) (files : List WalkedFile) :
    (loader.gather files).fixtures.length + (loader.gather files).skipped = files.length := by
  simp only [gather, List.length_mergeSort]
  induction files with
  | nil => rfl
  | cons file files ih =>
    cases known : loader.found? file <;>
      simp only [List.filterMap_cons, List.filter_cons, known, Option.isNone_none,
        Option.isNone_some, if_true, Bool.false_eq_true, if_false, List.length_cons] <;>
      omega

end Loader

end CheckerFixtures
