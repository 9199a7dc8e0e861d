/-
**A semicolon merges.**

What stands on the two sides of a semicolon is read side by side: the pragma of the whole is the
merge of the pragmas of both sides, whatever is written on either. So a clause that cannot be read
adds nothing, and one that can adds to the codes that it names.

* `extend_expect`: expecting more and merging may change places;
* `extend_assoc`: of three pragmas either two may be merged first;
* `collect_append`: the pragma of two lists of clauses is the merge of theirs;
* `parse?_semicolon`: reading turns semicolons into merges.
-/

import CheckerFixtures.Proofs.ClauseGrammar

namespace CheckerFixtures

namespace Pragma

/-! ### Merging and expecting -/

/-- Merging with the empty pragma changes nothing. -/
theorem extend_empty (pragma : Pragma) : pragma.extend ∅ = pragma := rfl

/-- An expectation of the lower pragma comes last in the merge, too. -/
theorem extend_expect (pragma later : Pragma) (code : String) (issues : List Issue) :
    pragma.extend (later.expect code issues) = (pragma.extend later).expect code issues := by
  refine ext_get? (fun probe => ?_) (fun probe => ?_)
  · rw [get?_issues_extend, get?_issues_expect, get?_issues_expect, get?_issues_extend,
      get?_issues_extend]
    by_cases same : probe = code
    · subst same
      cases pragma.issues.get? probe <;> cases later.issues.get? probe <;> simp [combine]
    · rw [if_neg same, if_neg same]
  · rw [get?_hit_extend, get?_hit_expect, get?_hit_expect, get?_hit_extend, get?_hit_extend]
    by_cases same : probe = code
    · subst same
      cases pragma.hit.get? probe <;> cases later.hit.get? probe <;> simp [combine]
    · rw [if_neg same, if_neg same]

/-! ### Pragmas that may be missing -/

theorem combine_none_left {α : Type} (join : α → α → α) (second : Option α) :
    combine join none second = second := by
  cases second <;> rfl

theorem isSome_combine {α : Type} (join : α → α → α) (first second : Option α) :
    (combine join first second).isSome = (first.isSome || second.isSome) := by
  cases first <;> cases second <;> rfl

theorem combine_assoc {α : Type} {join : α → α → α}
    (assoc : ∀ first second third,
      join (join first second) third = join first (join second third))
    (first second third : Option α) :
    combine join (combine join first second) third =
      combine join first (combine join second third) := by
  cases first with
  | none => rw [combine_none_left, combine_none_left]
  | some first =>
    cases second with
    | none => rw [combine_none_left]; rfl
    | some second =>
      cases third with
      | none => rfl
      | some third => exact congrArg some (assoc first second third)

/-- **Of three pragmas either two may be merged first.** -/
theorem extend_assoc (first second third : Pragma) :
    (first.extend second).extend third = first.extend (second.extend third) := by
  apply ext_get?
  · intro code
    rw [get?_issues_extend, get?_issues_extend, get?_issues_extend, get?_issues_extend]
    exact combine_assoc List.append_assoc _ _ _
  · intro code
    rw [get?_hit_extend, get?_hit_extend, get?_hit_extend, get?_hit_extend]
    exact combine_assoc Bool.or_assoc _ _ _

/-- What is read of two values at once is what is read of each, combined. -/
theorem bind_combine {α β : Type} {join : α → α → α} {joinRead : β → β → β} {read : α → Option β}
    (homomorphic : ∀ first second,
      read (join first second) = combine joinRead (read first) (read second))
    (first second : Option α) :
    (combine join first second).bind read =
      combine joinRead (first.bind read) (second.bind read) := by
  cases first with
  | none => rw [combine_none_left, Option.bind_none, combine_none_left]
  | some first =>
    cases second with
    | none => cases found : read first <;> simp [combine, found]
    | some second => exact homomorphic first second

/-- The issues of a code, if the pragma is there and declares it. -/
def issuesOf? (code : String) (pragma? : Option Pragma) : Option (List Issue) :=
  pragma?.bind fun pragma => pragma.issues.get? code

/-- The flag of a code, if the pragma is there and declares it. -/
def hitOf? (code : String) (pragma? : Option Pragma) : Option Bool :=
  pragma?.bind fun pragma => pragma.hit.get? code

theorem issuesOf?_combine (code : String) (first second : Option Pragma) :
    issuesOf? code (combine extend first second) =
      combine (· ++ ·) (issuesOf? code first) (issuesOf? code second) :=
  bind_combine (fun first second => get?_issues_extend first second code) first second

theorem hitOf?_combine (code : String) (first second : Option Pragma) :
    hitOf? code (combine extend first second) =
      combine (· || ·) (hitOf? code first) (hitOf? code second) :=
  bind_combine (fun first second => get?_hit_extend first second code) first second

end Pragma

namespace Clause

open Pragma

/-! ### Clauses side by side -/

/-- The pragma of two lists of clauses is the merge of theirs. -/
theorem collect_append (first second : List (String × List Issue)) :
    collect (first ++ second) = (collect first).extend (collect second) := by
  induction second using List.reverseRecOn with
  | nil => rw [List.append_nil, show collect [] = ∅ from rfl, extend_empty]
  | append_singleton second entry ih =>
    rw [← List.append_assoc, collect_concat, collect_concat, extend_expect, ih]

/-- A text is a pragma as soon as one of its clauses can be read. -/
theorem parse?_eq (body : List Char) :
    parse? body =
      if (splitClauses body).filterMap read? = [] then none
      else some (collect ((splitClauses body).filterMap read?)) :=
  pragmaOf?_eq (splitClauses body)

/-- The two sides of a semicolon are read for themselves. -/
theorem parse?_append_semicolon {first : List Char} (closed : Closed first)
    (second : List Char) :
    parse? (first ++ ';' :: second) = combine extend (parse? first) (parse? second) := by
  rw [parse?_eq, parse?_eq first, parse?_eq second, splitClauses_append closed,
    List.filterMap_append]
  by_cases noFirst : (splitClauses first).filterMap read? = []
  · rw [noFirst, List.nil_append, if_pos rfl, combine_none_left]
  · rw [if_neg noFirst, if_neg (by simp [noFirst]), collect_append]
    by_cases noSecond : (splitClauses second).filterMap read? = []
    · rw [noSecond, if_pos rfl]
      rfl
    · rw [if_neg noSecond]
      rfl

/-- A pragma that was read has a flag for the codes that it declares, and for no others. -/
theorem hitOf?_parse?_eq_none {body : List Char} {code : String}
    (undeclared : issuesOf? code (parse? body) = none) : hitOf? code (parse? body) = none := by
  rw [parse?_eq] at undeclared ⊢
  split
  · rfl
  · rename_i some
    rw [if_neg some] at undeclared
    have absent : code ∉ codesOf ((splitClauses body).filterMap read?) := by
      intro named
      have found := get?_issues_collect ((splitClauses body).filterMap read?) code
      rw [if_pos named] at found
      have none : (collect ((splitClauses body).filterMap read?)).issues.get? code = none :=
        undeclared
      rw [found] at none
      cases none
    exact (get?_hit_collect _ code).trans (if_neg absent)

/-- **A semicolon merges**: a text with a semicolon in it is the merge of what its two sides are,
each read for itself. So a part between semicolons that is no pragma changes nothing, and one that
is changes nothing for the codes that it does not declare. -/
theorem parse?_semicolon {first : List Char} (closed : Closed first) (second : List Char) :
    parse? (first ++ ';' :: second) = combine extend (parse? first) (parse? second) ∧
      ∀ part, Closed part →
        (parse? part = none →
          parse? (first ++ ';' :: (part ++ ';' :: second)) = parse? (first ++ ';' :: second)) ∧
        ∀ code, issuesOf? code (parse? part) = none →
          issuesOf? code (parse? (first ++ ';' :: (part ++ ';' :: second))) =
            issuesOf? code (parse? (first ++ ';' :: second)) ∧
          hitOf? code (parse? (first ++ ';' :: (part ++ ';' :: second))) =
            hitOf? code (parse? (first ++ ';' :: second)) := by
  refine ⟨parse?_append_semicolon closed second, ?_⟩
  intro part partClosed
  rw [parse?_append_semicolon closed, parse?_append_semicolon partClosed,
    parse?_append_semicolon closed]
  constructor
  · intro unreadable
    rw [unreadable, combine_none_left]
  · intro code undeclared
    have noFlag : hitOf? code (parse? part) = none := hitOf?_parse?_eq_none undeclared
    rw [issuesOf?_combine, issuesOf?_combine, issuesOf?_combine, undeclared, combine_none_left,
      hitOf?_combine, hitOf?_combine, hitOf?_combine, noFlag, combine_none_left]
    exact ⟨rfl, rfl⟩

/-- The text in front has a quote that is not closed, and the part between a bracket. -/
theorem parse?_semicolon_unclosed :
    Closed "[A]: 1, \"x".toList ∧ Closed "[A".toList ∧
      parse? ("[A]: 1, \"x".toList ++ ';' :: ("[A".toList ++ ';' :: "[A]: 2; [B]".toList)) =
        some ((collect [("A", [⟨1, "", false⟩])]).extend
          (collect [("A", [⟨2, "", false⟩]), ("B", [])])) := by
  have front : Closed "[A]: 1, \"x".toList := by unfold Closed; decide
  have between : Closed "[A".toList := by unfold Closed; decide
  have unreadable : parse? "[A".toList = none := by decide +kernel
  have first : parse? "[A]: 1, \"x".toList = some (collect [("A", [⟨1, "", false⟩])]) := by
    decide +kernel
  have second : parse? "[A]: 2; [B]".toList =
      some (collect [("A", [⟨2, "", false⟩]), ("B", [])]) := by decide +kernel
  obtain ⟨merged, parts⟩ := parse?_semicolon front "[A]: 2; [B]".toList
  refine ⟨front, between, ?_⟩
  rw [(parts _ between).1 unreadable, merged, first, second]
  rfl

end Clause

end CheckerFixtures
