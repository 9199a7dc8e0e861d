/-
**What clauses add up to.**

The pragma of some clauses holds the codes that they name, and for each code the issues of all its
clauses in order.

* `get?_issues_collect`: the issues of each code;
* `get?_hit_collect`: no flag is raised;
* `collect_eq`: a pragma with these issues and flags is the pragma of the clauses;
* `pragmaOf?_eq`: clauses are a pragma as soon as one of them can be read.
-/

import CheckerFixtures.Pragma.Clause
import Mathlib.Data.List.Induction

namespace CheckerFixtures

/-- The codes that some expectations name. -/
def codesOf (expectations : List (String × List Issue)) : List String := expectations.map Prod.fst

/-- The issues that some expectations list for a code, in order. -/
def issuesFor (code : String) (expectations : List (String × List Issue)) : List Issue :=
  (expectations.filter fun entry => entry.1 = code).flatMap Prod.snd

namespace Clause

variable (expectations : List (String × List Issue)) (entry : String × List Issue) (code : String)

theorem collect_concat :
    collect (expectations ++ [entry]) = (collect expectations).expect entry.1 entry.2 := by
  unfold collect
  rw [List.foldl_append]
  rfl

theorem mem_codesOf_concat :
    code ∈ codesOf (expectations ++ [entry]) ↔ code ∈ codesOf expectations ∨ code = entry.1 := by
  unfold codesOf
  rw [List.map_append, List.mem_append, List.map_singleton, List.mem_singleton]

theorem issuesFor_concat :
    issuesFor code (expectations ++ [entry]) =
      issuesFor code expectations ++ if code = entry.1 then entry.2 else [] := by
  have single : issuesFor code [entry] = if code = entry.1 then entry.2 else [] := by
    unfold issuesFor
    by_cases same : code = entry.1
    · simp [same]
    · simp [same, Ne.symm same]
  rw [← single]
  unfold issuesFor
  rw [List.filter_append, List.flatMap_append]

theorem issuesFor_cons :
    issuesFor code (entry :: expectations) =
      (if code = entry.1 then entry.2 else []) ++ issuesFor code expectations := by
  unfold issuesFor
  by_cases same : code = entry.1
  · rw [if_pos same, List.filter_cons_of_pos (by simpa using same.symm), List.flatMap_cons]
  · rw [if_neg same, List.filter_cons_of_neg (by simpa using Ne.symm same), List.nil_append]

/-- A code that is not named has no issues. -/
theorem issuesFor_eq_nil {code : String} {expectations : List (String × List Issue)}
    (absent : code ∉ codesOf expectations) : issuesFor code expectations = [] := by
  have none : expectations.filter (fun entry => entry.1 = code) = [] := by
    refine List.filter_eq_nil_iff.mpr ?_
    intro entry member same
    exact absent (List.mem_map.mpr ⟨entry, member, of_decide_eq_true same⟩)
  rw [issuesFor, none]
  rfl

/-- **The issues of each code** are those of all its clauses, in order. -/
theorem get?_issues_collect :
    (collect expectations).issues.get? code =
      if code ∈ codesOf expectations then some (issuesFor code expectations) else none := by
  induction expectations using List.reverseRecOn with
  | nil => rfl
  | append_singleton expectations entry ih =>
    have before : ((collect expectations).issues.get? code).getD [] =
        issuesFor code expectations := by
      rw [ih]
      split
      · rfl
      · rename_i absent
        exact (issuesFor_eq_nil absent).symm
    rw [collect_concat, Pragma.get?_issues_expect, issuesFor_concat]
    by_cases same : code = entry.1
    · rw [if_pos same, if_pos ((mem_codesOf_concat ..).mpr (.inr same)), if_pos same, ← same,
        before]
    · have there : code ∈ codesOf (expectations ++ [entry]) ↔ code ∈ codesOf expectations := by
        rw [mem_codesOf_concat, or_iff_left same]
      simp only [if_neg same, ih, there, List.append_nil]

/-- **No flag of a new pragma is raised**, and the codes with a flag are those with issues. -/
theorem get?_hit_collect :
    (collect expectations).hit.get? code =
      if code ∈ codesOf expectations then some false else none := by
  induction expectations using List.reverseRecOn with
  | nil => rfl
  | append_singleton expectations entry ih =>
    have lowered : ((collect expectations).hit.get? code).getD false = false := by
      rw [ih]
      split <;> rfl
    rw [collect_concat, Pragma.get?_hit_expect]
    by_cases same : code = entry.1
    · rw [if_pos same, if_pos ((mem_codesOf_concat ..).mpr (.inr same)), ← same, lowered]
    · have there : code ∈ codesOf (expectations ++ [entry]) ↔ code ∈ codesOf expectations := by
        rw [mem_codesOf_concat, or_iff_left same]
      simp only [if_neg same, ih, there]

/-- A pragma with the issues and the flags of some clauses is theirs. -/
theorem collect_eq {pragma : Pragma}
    (issues : ∀ code, pragma.issues.get? code =
      if code ∈ codesOf expectations then some (issuesFor code expectations) else none)
    (hit : ∀ code, pragma.hit.get? code = if code ∈ codesOf expectations then some false else none) :
    collect expectations = pragma := by
  refine Pragma.ext_get? (fun code => ?_) (fun code => ?_)
  · exact (get?_issues_collect expectations code).trans (issues code).symm
  · exact (get?_hit_collect expectations code).trans (hit code).symm

/-! ### Pragmas of clauses -/

/-- The pragma of some clauses, unless none of them can be read. -/
def pragmaOf? (clauses : List (List Char)) : Option Pragma :=
  match clauses.filterMap read? with
  | [] => none
  | expectations => some (collect expectations)

/-- A text is read clause by clause. -/
theorem parse?_eq_pragmaOf? (body : List Char) : parse? body = pragmaOf? (splitClauses body) := rfl

/-- Clauses are a pragma as soon as one of them can be read. -/
theorem pragmaOf?_eq (clauses : List (List Char)) :
    pragmaOf? clauses =
      if clauses.filterMap read? = [] then none
      else some (collect (clauses.filterMap read?)) := by
  rw [pragmaOf?]
  split
  · rename_i empty
    rw [if_pos empty]
  · rename_i some
    rw [if_neg some]

end Clause

end CheckerFixtures
