/-
**Check-mode directives.**

The first line of a fixture may say which codes are checked: only those it lists, or all but
those.

    // scatr-check: E001, E002
    // scatr-ignore: E003

* `mode_ne_all_of_parse?`: a directive never asks for all codes;
* `codes_ne_nil_of_parse?`: it lists at least one.
-/

import CheckerFixtures.CheckMode
import CheckerFixtures.Text.Blank
import CheckerFixtures.Text.Search

namespace CheckerFixtures

/-- A mode and the codes that it is about. -/
structure Directive where
  mode : CheckMode
  /-- The listed codes in order. -/
  codes : List String
deriving DecidableEq, Repr, Inhabited

namespace Directive

/-- The word that begins a list of the only codes to check. -/
def checkWord : List Char := "scatr-check:".toList

/-- The word that begins a list of codes to leave out. -/
def ignoreWord : List Char := "scatr-ignore:".toList

/-- The entries of a comma-separated list, trimmed, without the empty ones. -/
def entries (list : List Char) : List String :=
  (((list.splitOn ',').map Text.trim).filter (· ≠ [])).map String.ofList

/-- A directive of a mode, unless its list is empty. -/
def ofList? (mode : CheckMode) (list : List Char) : Option Directive :=
  if entries list = [] then none else some ⟨mode, entries list⟩

/-- Reads what follows a comment token as a directive. -/
def parse? (body : List Char) : Option Directive :=
  match Text.stripLead? checkWord (Text.trim body) with
  | some list => ofList? .onlyListed list
  | none => (Text.stripLead? ignoreWord (Text.trim body)).bind (ofList? .allButListed)

theorem ofList?_eq_some {mode : CheckMode} {list : List Char} {directive : Directive}
    (read : ofList? mode list = some directive) :
    directive.mode = mode ∧ directive.codes = entries list ∧ entries list ≠ [] := by
  rw [ofList?] at read
  split at read
  · cases read
  · rename_i listed
    cases read
    exact ⟨rfl, rfl, listed⟩

/-- A directive never asks for all codes. -/
theorem mode_ne_all_of_parse? {body : List Char} {directive : Directive}
    (read : parse? body = some directive) : directive.mode ≠ .all := by
  rw [parse?] at read
  split at read
  · simp [(ofList?_eq_some read).1]
  · obtain ⟨list, _, read⟩ := Option.bind_eq_some_iff.mp read
    simp [(ofList?_eq_some read).1]

/-- A directive lists at least one code. -/
theorem codes_ne_nil_of_parse? {body : List Char} {directive : Directive}
    (read : parse? body = some directive) : directive.codes ≠ [] := by
  rw [parse?] at read
  split at read
  · rw [(ofList?_eq_some read).2.1]
    exact (ofList?_eq_some read).2.2
  · obtain ⟨list, _, read⟩ := Option.bind_eq_some_iff.mp read
    rw [(ofList?_eq_some read).2.1]
    exact (ofList?_eq_some read).2.2

end Directive

end CheckerFixtures
