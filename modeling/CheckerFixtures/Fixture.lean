/-
**Annotated fixtures.**

A fixture is a source file together with what is expected on its lines.

* `checks_of_no_directive`: without a directive every code is checked.
-/

import CheckerFixtures.Directive
import CheckerFixtures.Pragma

namespace CheckerFixtures

/-- A source file with its expectations. -/
structure Fixture where
  /-- The file name without its extension. -/
  name : String
  /-- The text as it was read. -/
  content : String
  /-- The comment tokens that were looked for. -/
  tokens : List String
  /-- The expectations by line, counted from one. -/
  pragmas : SortedMap Nat Pragma
  /-- The directive of the first line. -/
  directive : Option Directive
deriving DecidableEq, Inhabited

namespace Fixture

/-- How the listed codes are meant. -/
def checkMode (fixture : Fixture) : CheckMode :=
  match fixture.directive with
  | none => .all
  | some directive => directive.mode

/-- The codes that the directive lists. -/
def issueCodes (fixture : Fixture) : List String :=
  match fixture.directive with
  | none => []
  | some directive => directive.codes

/-- Whether issues with a code take part in checking the fixture. -/
def checks (fixture : Fixture) (code : String) : Bool :=
  fixture.checkMode.allows fixture.issueCodes code

/-- The expectations on one line. -/
def pragmaAt? (fixture : Fixture) (line : Nat) : Option Pragma := fixture.pragmas.get? line

/-- The fixture with the expectations of one line replaced, if it has some. -/
def setPragma (fixture : Fixture) (line : Nat) (pragma : Pragma) : Fixture :=
  if fixture.pragmas.contains line then
    { fixture with pragmas := fixture.pragmas.insert line pragma }
  else fixture

/-- Without a directive every code is checked. -/
theorem checks_of_no_directive {fixture : Fixture} (none : fixture.directive = none)
    (code : String) : fixture.checks code = true := by
  simp [checks, checkMode, none, CheckMode.allows]

end Fixture

end CheckerFixtures
