/-
**Notices.**

What is logged while fixtures are loaded.
-/

import CheckerFixtures.ConfigSource

namespace CheckerFixtures

/-- An entry of the log. -/
inductive Notice where
  /-- A configuration file is used. -/
  | configured (kind : String) (file : Path)
  | ready (root : Path) (languages : Nat)
  | loading (root : Path)
  /-- A fixture was read up to a line that is no text. -/
  | cutShort (fixture : String) (lines : Nat)
  /-- Loading is over. -/
  | loaded (fixtures lines skipped : Nat)
deriving DecidableEq, Repr

namespace Notice

/-- How much an entry matters. -/
def severity : Notice → String
  | cutShort _ _ => "WARN"
  | _ => "INFO"

def message : Notice → String
  | configured kind file => s!"Using {kind} config: {file}"
  | ready root languages => s!"Loading fixtures from {root} ({languages} languages)"
  | loading root => s!"Loading fixtures from {root}"
  | cutShort fixture lines =>
    s!"Stopped reading fixture {fixture} after line {lines}: {FileError.notText.message}"
  | loaded fixtures lines skipped =>
    s!"Loaded {fixtures} fixture(s) with {lines} annotated line(s), skipped {skipped}"

/-- The entry of a configuration file that is used. -/
def ofSource (source : ConfigSource) : List Notice :=
  (source.path?.map fun file => configured source.name file).toList

end Notice

end CheckerFixtures
