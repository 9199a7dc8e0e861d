/-
**Runs of the program.**

A run turns arguments and surroundings into an output, a log, and the files as they are afterwards;
it may have failed. One command writes a file and then prints, the others only print. A write can
break off, and so can the output, which ends the run in whatever state it is.

* `Command.run`: what a command does;
* `Outcome.printed`: what is left of its outcome if the output breaks off;
* `tree_reportPragmas`, `tree_reportLanguages`: reports change no file.
-/

import CheckerFixtures.Collection
import CheckerFixtures.CommandLine
import CheckerFixtures.Notice
import CheckerFixtures.Report.Languages
import CheckerFixtures.UserSettings

namespace CheckerFixtures

/-! ### Failures -/

/-- Why a run fails. -/
inductive Failure where
  /-- The arguments cannot be understood. -/
  | misuse
  | config (cause : UnusableConfig)
  /-- There is no loader for the settings. -/
  | loader (cause : LoadError)
  | load (cause : LoadError)
  /-- There is a configuration file already. -/
  | configured (file : Path)
  | unwritable (cause : FileError)
  /-- The output was closed before all was printed. -/
  | unprintable
deriving DecidableEq, Repr

namespace Failure

/-- The text of a failure and of what caused it. -/
def chain : Failure → List String
  | misuse => ["Invalid arguments. For more information, try '--help'."]
  | config cause => cause.chain
  | loader cause => "Failed to build fixture loader" :: cause.chain
  | load cause => "Failed to load fixtures" :: cause.chain
  | configured file =>
    ["Configuration file already exists at " ++ file.text ++ ". Use --force to overwrite."]
  | unwritable cause => [cause.message]
  | unprintable => ["failed printing to stdout"]

/-- The exit code. A closed output is no failure of a command but ends it. -/
def exitCode : Failure → Nat
  | misuse => 2
  | unprintable => 101
  | _ => 1

/-- A text with something in front of its first line and blanks in front of the others. -/
def hanging (front : List Char) (text : String) : List Char :=
  List.intercalate ('\n' :: List.replicate front.length ' ')
    ((front ++ (text.toList.splitOn '\n').headD []) :: (text.toList.splitOn '\n').tail)

/-- The causes, numbered if there are several. -/
def causeLines (causes : List String) : List (List Char) :=
  match causes with
  | [cause] => [hanging "    ".toList cause]
  | _ => causes.zipIdx.map fun (cause, index) =>
    hanging (Report.alignRight 5 (Report.decimal index) ++ ": ".toList) cause

def report (failure : Failure) : List Char :=
  (if failure = unprintable then [] else "Error: ".toList) ++
    match failure.chain with
    | [] => []
    | [top] => top.toList
    | top :: causes =>
      Report.joinLines ([top.toList, [], "Caused by:".toList] ++ causeLines causes)

end Failure

/-! ### Outcomes -/

/-- What a run leads to. -/
structure Outcome where
  /-- What was printed. -/
  output : List Char
  /-- Why the run failed, if it did. -/
  failure? : Option Failure
  log : List Notice
  /-- The files afterwards. -/
  tree : FileTree

namespace Outcome

def exitCode (outcome : Outcome) : Nat := outcome.failure?.elim 0 Failure.exitCode

/-- The outcome of a run that fails before it prints anything. -/
def failed (failure : Failure) (log : List Notice) (tree : FileTree) : Outcome :=
  ⟨[], some failure, log, tree⟩

/-- The outcome of a run that prints some lines. -/
def written (lines : List (List Char)) (log : List Notice) (tree : FileTree) : Outcome :=
  ⟨Report.endLines lines, none, log, tree⟩

/-- The outcome as far as the output takes what is printed. A run whose output breaks off fails. -/
def printed (storage : Storage) (outcome : Outcome) : Outcome :=
  let output := storage.print outcome.output
  if output = outcome.output then outcome
  else { outcome with output, failure? := some .unprintable }

end Outcome

namespace Command

/-! ### Reporting -/

/-- Reports the expectations that a loader finds. -/
def reportLoaded (tree : FileTree) (loader : Loader) (format : Report.Format)
    (log : List Notice) : Outcome :=
  let log := log ++ [.ready loader.root loader.languages.size, .loading loader.root]
  match loader.candidates tree with
  | .error cause => .failed (.load cause) log tree
  | .ok files =>
    let collection := loader.gather files
    let stops := (loader.cutShort files).map fun (fixture, lines) =>
      Notice.cutShort fixture lines
    let last := Notice.loaded collection.fixtures.length collection.pragmaCount
      collection.skipped
    .written [Report.render collection format] (log ++ stops ++ [last]) tree

/-- Reports the expectations below a path, or below the configured root. -/
def reportPragmas (surroundings : Surroundings) (source : ConfigSource) (path? : Option Path)
    (format : Report.Format) (exclude : List String) : Outcome :=
  match source.load surroundings with
  | .error cause => .failed (.config cause) [] surroundings.tree
  | .ok config =>
    let log := Notice.ofSource source
    match Loader.ofConfig config path? exclude surroundings.workingPath with
    | .error cause => .failed (.loader cause) log surroundings.tree
    | .ok loader =>
      reportLoaded surroundings.tree { loader with userRules := surroundings.userRules } format log

def reportLanguages (surroundings : Surroundings) (source : ConfigSource) : Outcome :=
  match source.load surroundings with
  | .error cause => .failed (.config cause) [] surroundings.tree
  | .ok config =>
    .written (Report.languageLines config.languageTable) (Notice.ofSource source)
      surroundings.tree

/-! ### A first configuration -/

/-- The name of the configuration file that is written. -/
def configName : String := "scatr.toml"

/-- The lines of a first configuration file. -/
def firstConfig : List (List Char) :=
  ["# scatr configuration".toList,
    [],
    "[fixtures]".toList,
    "# Directory holding checker fixtures (default: current directory)".toList,
    "# root = \"testdata\"".toList,
    [],
    "# Glob patterns to exclude from discovery".toList,
    "exclude = [".toList,
    "    \"**/target/**\",".toList,
    "    \"**/node_modules/**\",".toList,
    "]".toList,
    [],
    "# Respect .gitignore files".toList,
    "respect_gitignore = true".toList,
    [],
    "# Language overrides".toList,
    "# Built-in languages can be replaced, new ones added by extension".toList,
    [],
    "# [languages.nix]".toList,
    "# extensions = [\"nix\"]".toList,
    "# comment_prefixes = [\"#\"]".toList]

/-- What to do once the file is written. -/
def nextSteps : List (List Char) :=
  ["Created scatr.toml".toList,
    [],
    "Next steps:".toList,
    "  1. Point [fixtures] root at your checker fixtures".toList,
    "  2. Run: scatr pragmas".toList]

/-- The place of a first configuration. -/
def configPlace (surroundings : Surroundings) : Place :=
  surroundings.workingDirectory ++ [configName]

/-- Whether there is something at that place, or where it leads. -/
def hasConfig (surroundings : Surroundings) : Bool :=
  (surroundings.tree.get? (surroundings.storage.target (configPlace surroundings))).isSome

/-- Writes a first configuration file, over an existing one only if told to. -/
def writeFirstConfig (surroundings : Surroundings) (force : Bool) : Outcome :=
  if hasConfig surroundings && !force then
    .failed (.configured ⟨configName⟩) [] surroundings.tree
  else
    let (tree, problem?) := surroundings.storage.write surroundings.tree
      (configPlace surroundings) (Utf8.encode (Report.endLines firstConfig))
    match problem? with
    | some problem => .failed (.unwritable problem) [] tree
    | none => .written nextSteps [] tree

/-! ### Commands -/

/-- The fixtures that a command is about, for which a configuration is looked up. -/
def fixtures : Command → Path
  | pragmas (some path) _ _ => path
  | _ => ⟨"."⟩

def run (surroundings : Surroundings) (config? : Option Path) (command : Command) : Outcome :=
  let source := ConfigSource.find surroundings command.fixtures config?
  match command with
  | pragmas path? format exclude => reportPragmas surroundings source path? format exclude
  | languages => reportLanguages surroundings source
  | init force => writeFirstConfig surroundings force

end Command

/-! ### Whole runs -/

/-- The line that names the program and its version. -/
def versionLine : List Char := "scatr 0.3.1".toList

/-- How the program is used. -/
def usageLines : List (List Char) :=
  ["Inspect the expectations declared in checker test fixtures".toList,
    [],
    "Usage: scatr [--verbose] [--config FILE] COMMAND".toList,
    [],
    "Commands:".toList,
    "  pragmas [--format text|json|compact] [--exclude PATTERN]... [PATH]".toList,
    "  languages".toList,
    "  init [--force]".toList]

/-- Runs the program with some arguments. -/
def run (surroundings : Surroundings) (arguments : List String) : Outcome :=
  match Request.ofArguments arguments with
  | .misuse => .failed .misuse [] surroundings.tree
  | .help => .written usageLines [] surroundings.tree
  | .version => .written [versionLine] [] surroundings.tree
  | .run config? command => (command.run surroundings config?).printed surroundings.storage

/-! ### Laws -/

namespace Outcome

/-- An output that is never closed takes all that is printed. -/
theorem printed_of_open {storage : Storage} (openEnded : storage.outputRoom? = none)
    (outcome : Outcome) : outcome.printed storage = outcome := by
  unfold printed Storage.print
  rw [openEnded]
  exact if_pos rfl

/-- Printing changes no file. -/
theorem tree_printed (storage : Storage) (outcome : Outcome) :
    (outcome.printed storage).tree = outcome.tree := by
  unfold printed
  dsimp only
  split <;> rfl

end Outcome

namespace Command

/-- Reporting expectations changes no file. -/
theorem tree_reportPragmas (surroundings : Surroundings) (source : ConfigSource)
    (path? : Option Path) (format : Report.Format) (exclude : List String) :
    (reportPragmas surroundings source path? format exclude).tree = surroundings.tree := by
  unfold reportPragmas
  split
  · rfl
  · dsimp only
    split
    · rfl
    · unfold reportLoaded
      dsimp only
      split <;> rfl

/-- Listing the languages changes no file. -/
theorem tree_reportLanguages (surroundings : Surroundings) (source : ConfigSource) :
    (reportLanguages surroundings source).tree = surroundings.tree := by
  unfold reportLanguages
  split <;> rfl

end Command

end CheckerFixtures
