/-
**The program.**

Takes from the disk what a run can look at, runs on it, and puts back what has changed.
-/

import CheckerFixtures.Run

namespace CheckerFixtures.Disk

/-! ### Taking from the disk -/

def kindAt? (place : Place) : IO (Option IO.FS.FileType) := do
  try
    return some (← (System.mkFilePath ("" :: place)).metadata).type
  catch _ =>
    return none

def bytesAt (place : Place) : IO (List UInt8) := do
  return (← IO.FS.readBinFile (System.mkFilePath ("" :: place))).toList

/-- Adds to a tree what is at a place. -/
def take (tree : FileTree) (place : Place) : IO FileTree := do
  match ← kindAt? place with
  | some .dir => return tree.addDirectory place
  | some .file => return tree.addFile place (← bytesAt place)
  | _ => return tree

/-- Adds to a tree what a path leads along, from a place on if it is relative. -/
def takeAlong (tree : FileTree) (start : Place) (path : Path) : IO FileTree := do
  let mut tree := tree
  let mut place := if path.isAbsolute then [] else start
  for segment in path.segments do
    if segment = ['.', '.'] then
      place := place.dropLast
    else if !Path.isSilent segment then
      place := place ++ [String.ofList segment]
      tree ← take tree place
  return tree

/-- Adds to a tree everything below a place. Links are left out. -/
partial def takeBelow (tree : FileTree) (place : Place) : IO FileTree := do
  let mut tree := tree
  for entry in ← (System.mkFilePath ("" :: place)).readDir do
    let inner := place ++ [entry.fileName]
    match (← entry.path.symlinkMetadata).type with
    | .dir => tree ← takeBelow (tree.addDirectory inner) inner
    | .file => tree := tree.addFile inner (← bytesAt inner)
    | _ => continue
  return tree

/-- Adds to a tree the ignore files above a place. -/
def takeIgnoreFiles (tree : FileTree) (place : Place) : IO FileTree := do
  let mut tree := tree
  for (directory, _) in Ignore.above place do
    for kind in Ignore.kinds do
      tree ← take tree (directory ++ kind)
  return tree

/-- Adds to a tree everything below the root of a loader, and the ignore files above it. -/
def takeRoot (tree : FileTree) (root : Path) : IO FileTree := do
  let tree ← takeAlong tree [] root
  match tree.locate [] root with
  | .ok (place, .directory) => takeBelow (← takeIgnoreFiles tree place) place
  | _ => return tree

/-! ### Surroundings -/

/-- The place of a path from the root, whose names lead through no links. -/
def placeOf (path : Path) : Place :=
  (path.segments.filter fun segment => !Path.isSilent segment).map String.ofList

/-- The surroundings as far as every run can look. -/
def surroundings : IO Surroundings := do
  let workingDirectory := placeOf ⟨(← IO.currentDir).toString⟩
  let tree := FileTree.empty.addDirectory workingDirectory
  return {
    tree := ← take tree (workingDirectory ++ [Command.configName])
    workingDirectory
    home? := (← IO.getEnv "HOME").map Path.mk
    configDirectory? := (← IO.getEnv "SCATR_CONFIG_DIR").map Path.mk
    settingsDirectory? :=
      ((← IO.getEnv "XDG_CONFIG_HOME").filter (· ≠ "")).map Path.mk }

/-- The paths at which a run looks for a configuration. -/
def configPaths (surroundings : Surroundings) (config? : Option Path) (command : Command) :
    List Path :=
  config?.toList ++
    ConfigSource.projectPaths (ConfigSource.searchStart surroundings command.fixtures) ++
    (surroundings.globalDirectory?.map fun directory => directory.child "config.toml").toList

/-- Adds to the surroundings the settings of the user and the ignore rules that they name. -/
def takeUserSettings (surroundings : Surroundings) : IO Surroundings := do
  let mut seen := surroundings
  for path in seen.gitSettings do
    seen := { seen with tree := ← takeAlong seen.tree seen.workingDirectory path }
  match seen.excludesFile? with
  | some path => return { seen with tree := ← takeAlong seen.tree seen.workingDirectory path }
  | none => return seen

/-- The surroundings as far as a command can look. -/
def surroundingsOf (config? : Option Path) (command : Command) : IO Surroundings := do
  let start ← surroundings
  let mut seen := { start with
    tree := ← takeAlong start.tree start.workingDirectory command.fixtures }
  for path in configPaths seen config? command do
    seen := { seen with tree := ← takeAlong seen.tree seen.workingDirectory path }
  match command with
  | .pragmas path? _ exclude =>
    let config := (ConfigSource.find seen command.fixtures config?).load seen
    match config.toOption.map fun config =>
        Loader.ofConfig config path? exclude seen.workingPath with
    | some (.ok loader) =>
      takeUserSettings { seen with tree := ← takeRoot seen.tree loader.root }
    | _ => return seen
  | _ => return seen

/-! ### Putting back -/

/-- Writes the files of a tree that are new or changed. -/
def save (before after : FileTree) : IO Unit := do
  for (place, entry) in after.entries.entries do
    match entry with
    | .file bytes =>
      if before.get? place ≠ some entry then
        IO.FS.writeBinFile (System.mkFilePath ("" :: place)) ⟨bytes.toArray⟩
    | .directory => continue

end CheckerFixtures.Disk

open CheckerFixtures in
/-- Runs the program with its arguments and answers the exit code. -/
def main (arguments : List String) : IO UInt32 := do
  let surroundings ← match Request.ofArguments arguments with
    | .run config? command => Disk.surroundingsOf config? command
    | _ => Disk.surroundings
  let outcome := run surroundings arguments
  for notice in outcome.log do
    IO.eprintln (notice.severity ++ " " ++ notice.message)
  Disk.save surroundings.tree outcome.tree
  IO.print (String.ofList outcome.output)
  if let some cause := outcome.failure? then
    IO.eprintln (String.ofList cause.report)
  return UInt32.ofNat outcome.exitCode
