/-
**The grammar of pragmas.**

A pragma is written behind a comment token as clauses between semicolons. A clause names an issue
code in brackets; behind a colon may follow a list of issues, each a column, a quoted message, or
both:

    [E001]: 5 "bad name", 9 "also bad"; [E002]

A semicolon that belongs to a clause is written with a backslash before it. What has no such shape
is passed over, so ordinary comments expect nothing.

* `splitClauses_ne_nil`: there is always at least one clause;
* `parse?_eq_none_iff`: a text is no pragma exactly when none of its clauses can be read.
-/

import CheckerFixtures.Pragma
import CheckerFixtures.Pragma.Literal

namespace CheckerFixtures.Clause

open Literal

/-! ### Clauses -/

/-- Puts a character in front of the first part. -/
def pushFirst (c : Char) : List (List Char) → List (List Char)
  | [] => [[c]]
  | part :: parts => (c :: part) :: parts

/-- The clauses of a text: the parts between semicolons that no backslash precedes. -/
def splitClauses : List Char → List (List Char)
  | [] => [[]]
  | '\\' :: ';' :: text => pushFirst ';' (splitClauses text)
  | c :: text => if c = ';' then [] :: splitClauses text else pushFirst c (splitClauses text)

/-- A clause as it is written among others: every semicolon gets a backslash. -/
def escapeSemicolons (clause : List Char) : List Char :=
  clause.flatMap fun c => if c = ';' then ['\\', ';'] else [c]

/-- Clauses written one behind the other. -/
def joinClauses (clauses : List (List Char)) : List Char :=
  List.intercalate [';'] (clauses.map escapeSemicolons)

/-- Letters, digits, the underscore and the hyphen make up issue codes. -/
def isCodeChar (c : Char) : Bool := c.isAlphanum || c == '_' || c == '-'

/-- What stands behind a colon, if the text begins with one. -/
def afterColon : List Char → List Char
  | ':' :: rest => rest
  | _ => []

/-- The code of a clause, and what stands behind the colon right after its bracket. -/
def shape? (clause : List Char) : Option (List Char × List Char) :=
  match Text.trimStart clause with
  | '[' :: inner =>
    -- the first closing bracket counts, so a code holds no bracket
    let code := inner.takeWhile (· != ']')
    match inner.dropWhile (· != ']') with
    | [] => none
    | _ :: behind =>
      if code ≠ [] ∧ code.all isCodeChar then some (code, afterColon behind) else none
  | _ => none

/-! ### Issue lists -/

/-- Reads one issue: a column, a message, or both. -/
def issue (text : List Char) : Reading Issue :=
  let columnRead := column (skipBlanks text)
  match columnRead.outcome with
  | .error fault => ⟨.error fault, columnRead.rest⟩
  | .ok at? =>
    let messageRead := message (skipBlanks columnRead.rest)
    match messageRead.outcome with
    | .error fault => ⟨.error fault, messageRead.rest⟩
    | .ok none => ⟨.ok (at?.map fun column => ⟨column, "", false⟩), messageRead.rest⟩
    | .ok (some text) =>
      ⟨.ok (some ⟨at?.getD 0, String.ofList text, false⟩), messageRead.rest⟩

theorem length_skipBlanks (text : List Char) : (skipBlanks text).length ≤ text.length :=
  length_dropWhile_le _ text

theorem length_rest_issue (text : List Char) : (issue text).rest.length ≤ text.length := by
  have first := length_skipBlanks text
  have second := length_rest_column (skipBlanks text)
  have third := length_skipBlanks (column (skipBlanks text)).rest
  have fourth := length_rest_message (skipBlanks (column (skipBlanks text)).rest)
  simp only [issue]
  split
  · exact Nat.le_trans second first
  · split <;> simp only <;> omega

/-- What follows the comma behind the first issue. -/
def afterIssue? (text : List Char) : Option (List Char) := eat? ',' (skipBlanks (issue text).rest)

theorem length_afterIssue? {text rest : List Char} (more : afterIssue? text = some rest) :
    rest.length < text.length := by
  have := length_eat? more
  have := length_skipBlanks (issue text).rest
  have := length_rest_issue text
  omega

/-- The issues between commas, up to the first piece that is none. -/
def issueList (text : List Char) : List Issue :=
  match (issue text).outcome with
  | .ok (some first) =>
    match more : afterIssue? text with
    | some rest =>
      have := length_afterIssue? more
      first :: issueList rest
    | none => [first]
  | _ => []
termination_by text.length

/-! ### Whole texts -/

/-- What a clause expects: a code and its issues. A clause whose issue list begins with no issue
expects nothing. -/
def read? (clause : List Char) : Option (String × List Issue) :=
  match shape? clause with
  | none => none
  | some (code, rest) =>
    if Text.trim rest = [] then some (String.ofList code, [])
    else match issueList rest with
      | [] => none
      | issues => some (String.ofList code, issues)

/-- The pragma of some clauses. -/
def collect (expectations : List (String × List Issue)) : Pragma :=
  expectations.foldl (fun pragma entry => pragma.expect entry.1 entry.2) ∅

/-- Reads what follows a comment token as a pragma. -/
def parse? (body : List Char) : Option Pragma :=
  match (splitClauses body).filterMap read? with
  | [] => none
  | expectations => some (collect expectations)

theorem splitClauses_ne_nil (text : List Char) : splitClauses text ≠ [] := by
  have pushed : ∀ (c : Char) (parts : List (List Char)), pushFirst c parts ≠ [] := by
    intro c parts
    cases parts <;> simp [pushFirst]
  unfold splitClauses
  split
  · simp
  · exact pushed _ _
  · split
    · simp
    · exact pushed _ _

/-- A text is no pragma exactly when none of its clauses can be read. -/
theorem parse?_eq_none_iff (body : List Char) :
    parse? body = none ↔ ∀ clause ∈ splitClauses body, read? clause = none := by
  rw [parse?, ← List.filterMap_eq_nil_iff]
  split <;> simp_all

end CheckerFixtures.Clause
