/-
**Expected and reported issues.**

An expected issue constrains the column and the message of a diagnostic; a column of zero and an
empty message leave them open.

* `accepts_iff`: what an expectation accepts, in one line.
-/

namespace CheckerFixtures

/-- The columns and lines of a checker lie below this bound, the number of values of a machine word
of 64 bits. -/
def wordBound : Nat := 18446744073709551616

/-- One expected occurrence of a diagnostic. -/
structure Issue where
  /-- The expected column, zero when it is left open. -/
  column : Nat
  /-- The expected message, empty when it is left open. -/
  message : String
  /-- Whether a reported issue has matched this one. -/
  hit : Bool := false
deriving DecidableEq, Repr, Inhabited

namespace Issue

/-- Whether a diagnostic at a column with a text satisfies the expectation. -/
def accepts (issue : Issue) (column : Nat) (text : String) : Bool :=
  (issue.column == 0 || issue.column == column) && (issue.message == "" || issue.message == text)

/-- Each of the two constraints is open or met. -/
theorem accepts_iff (issue : Issue) (column : Nat) (text : String) :
    issue.accepts column text = true ↔
      (issue.column = 0 ∨ issue.column = column) ∧ (issue.message = "" ∨ issue.message = text) := by
  simp [accepts]

end Issue

/-- An issue that a run of a checker raised. -/
structure ReportedIssue where
  /-- The line, counted from one. -/
  line : Nat
  column : Nat
  code : String
  message : String
deriving DecidableEq, Repr, Inhabited

end CheckerFixtures
