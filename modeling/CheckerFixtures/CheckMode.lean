/-
**Which issue codes take part.**

A fixture checks all codes, only the listed ones, or all but the listed ones.

* `allows_iff`: the three cases.
-/

namespace CheckerFixtures

/-- How the list of codes of a fixture is read. -/
inductive CheckMode where
  /-- Every code takes part. -/
  | all
  /-- Only the listed codes take part. -/
  | onlyListed
  /-- Every code but the listed ones takes part. -/
  | allButListed
deriving DecidableEq, Repr, Inhabited

namespace CheckMode

/-- The word for a mode in reports. -/
def name : CheckMode → String
  | all => "all"
  | onlyListed => "include"
  | allButListed => "exclude"

def ofName? (word : String) : Option CheckMode :=
  [all, onlyListed, allButListed].find? fun mode => mode.name == word

/-- Whether a code takes part under a mode and a list of codes. -/
def allows (mode : CheckMode) (codes : List String) (code : String) : Bool :=
  match mode with
  | all => true
  | onlyListed => codes.contains code
  | allButListed => !codes.contains code

/-- The list decides, except that every code takes part when all do. -/
theorem allows_iff (mode : CheckMode) (codes : List String) (code : String) :
    mode.allows codes code = true ↔
      mode = all ∨ (mode = onlyListed ∧ code ∈ codes) ∨ (mode = allButListed ∧ code ∉ codes) := by
  cases mode <;> simp [allows]

/-- Every mode has a word of its own. -/
theorem ofName?_name (mode : CheckMode) : ofName? mode.name = some mode := by
  cases mode <;> decide

end CheckMode

end CheckerFixtures
