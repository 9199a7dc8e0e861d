/-
**Reading records from JSON.**

A record is an object with its fields by name, where unknown members are passed over, or an array
of its fields in order of declaration. All fields are required, except that an expected issue may
leave out whether it was hit.

* `reportedIssue?_ofReportedIssue`: what is written as JSON is read back.
-/

import CheckerFixtures.CheckMode
import CheckerFixtures.Json
import CheckerFixtures.Pragma

namespace CheckerFixtures.Json

/-! ### Single values -/

def text? : Json → Option String
  | str text => some text
  | _ => none

def truth? : Json → Option Bool
  | bool value => some value
  | _ => none

/-- A natural number that fits a machine word. -/
def word? : Json → Option Nat
  | int (.ofNat value) => if value < wordBound then some value else none
  | _ => none

/-- An array with items of one kind. -/
def list? {α : Type} (item? : Json → Option α) : Json → Option (List α)
  | arr items => items.mapM item?
  | _ => none

/-- An object with values of one kind. -/
def map? {α : Type} (value? : Json → Option α) : Json → Option (SortedMap String α)
  | obj members => do
    let entries ← members.mapM fun (key, value) => (value? value).map fun value => (key, value)
    return .ofList entries
  | _ => none

/-! ### Records -/

/-- The fields of a record in order of declaration, each a value or missing. -/
def fields? (names : List String) : Json → Option (List (Option Json))
  | obj members => some (names.map fun name => member? name members)
  | arr items =>
    if items.length ≤ names.length then
      some (items.map some ++ List.replicate (names.length - items.length) none)
    else none
  | _ => none

def issue? (value : Json) : Option Issue := do
  match ← fields? ["column", "message", "hit"] value with
  | [column, message, hit] =>
    let hit ← match hit with
      | none => some false
      | some hit => truth? hit
    return ⟨← word? (← column), ← text? (← message), hit⟩
  | _ => none

def pragma? (value : Json) : Option Pragma := do
  match ← fields? ["issues", "hit"] value with
  | [issues, hit] => return ⟨← map? (list? issue?) (← issues), ← map? truth? (← hit)⟩
  | _ => none

def reportedIssue? (value : Json) : Option ReportedIssue := do
  match ← fields? ["line", "column", "code", "message"] value with
  | [line, column, code, message] =>
    return ⟨← word? (← line), ← word? (← column), ← text? (← code), ← text? (← message)⟩
  | _ => none

/-- A check mode: its word, or an object whose only member is that word with the value null. -/
def checkMode? : Json → Option CheckMode
  | str word => CheckMode.ofName? word
  | obj [(word, null)] => CheckMode.ofName? word
  | _ => none

/-! ### Records as JSON -/

/-- A reported issue as an object. -/
def ofReportedIssue (issue : ReportedIssue) : Json :=
  obj [("line", nat issue.line), ("column", nat issue.column), ("code", str issue.code),
    ("message", str issue.message)]

/-- Writing a reported issue and reading it back gives the issue, if its numbers fit. -/
theorem reportedIssue?_ofReportedIssue {issue : ReportedIssue} (line : issue.line < wordBound)
    (column : issue.column < wordBound) :
    reportedIssue? (ofReportedIssue issue) = some issue := by
  have lineWord : word? (nat issue.line) = some issue.line := if_pos line
  have columnWord : word? (nat issue.column) = some issue.column := if_pos column
  simp [reportedIssue?, ofReportedIssue, fields?, member?, lineWord, columnWord, text?]

end CheckerFixtures.Json
