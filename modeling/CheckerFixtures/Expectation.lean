/-
**Single expectations.**

The pragmas of a fixture, one expectation at a time: an issue on a line, or a code that is expected
on a line with any column and any message.

* `mem_ofPragma`: the expectations of a line are the issues of its codes, and the codes without one.
-/

import CheckerFixtures.Fixture

namespace CheckerFixtures

/-- What is expected on a line under a code. -/
structure Expectation where
  line : Nat
  code : String
  /-- The issue, unless anything under the code will do. -/
  issue? : Option Issue
deriving DecidableEq, Repr, Inhabited

namespace Expectation

/-- The expectations of a code on a line: one for each issue, or a single one without an issue. -/
def ofIssues (line : Nat) (code : String) : List Issue → List Expectation
  | [] => [⟨line, code, none⟩]
  | issue :: issues => (issue :: issues).map fun issue => ⟨line, code, some issue⟩

/-- The expectations of a line, by code. -/
def ofPragma (line : Nat) (pragma : Pragma) : List Expectation :=
  pragma.issues.entries.flatMap fun (code, issues) => ofIssues line code issues

/-- The expectations of a fixture, by line and code. -/
def ofFixture (fixture : Fixture) : List Expectation :=
  fixture.pragmas.entries.flatMap fun (line, pragma) => ofPragma line pragma

/-! ### Laws -/

theorem mem_ofIssues {line : Nat} {code : String} {issues : List Issue}
    {expectation : Expectation} :
    expectation ∈ ofIssues line code issues ↔
      (issues = [] ∧ expectation = ⟨line, code, none⟩) ∨
        ∃ issue ∈ issues, expectation = ⟨line, code, some issue⟩ := by
  cases issues with
  | nil => simp [ofIssues]
  | cons issue issues =>
    simp only [ofIssues, List.mem_map, reduceCtorEq, false_and, false_or]
    exact exists_congr fun _ => and_congr_right fun _ => eq_comm

/-- The expectations of a line are the issues of its codes, and the codes without an issue. -/
theorem mem_ofPragma {line : Nat} {pragma : Pragma} {expectation : Expectation} :
    expectation ∈ ofPragma line pragma ↔
      ∃ entry ∈ pragma.issues.entries,
        (entry.2 = [] ∧ expectation = ⟨line, entry.1, none⟩) ∨
          ∃ issue ∈ entry.2, expectation = ⟨line, entry.1, some issue⟩ := by
  simp only [ofPragma, List.mem_flatMap, mem_ofIssues]

end Expectation

end CheckerFixtures
