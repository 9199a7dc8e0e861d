/-
**Cutting a text into clauses undoes putting them together.**

Clauses that are put together have a backslash in front of each semicolon of their own, so only the
semicolons between them cut. One thing can go wrong: a backslash at the end of a clause would escape
the semicolon behind it. Apart from that a list of clauses and its text determine each other: every
text is cut into clauses of which only the last may end with a backslash, and is their text.

* `joinClauses_splitClauses`: a text is what its clauses are put together to;
* `separable_splitClauses`: none of them but the last ends with a backslash;
* `splitClauses_joinClauses`: such clauses are cut apart as they were;
* `splitClauses_inverse`: all three together.
-/

import CheckerFixtures.Proofs.ClauseGrammar

namespace CheckerFixtures.Clause

/-! ### Clauses that semicolons separate -/

/-- Some clauses of which only the last may end with a backslash. -/
inductive Separable : List (List Char) → Prop
  | last (clause : List Char) : Separable [clause]
  | cons {clause : List Char} {clauses : List (List Char)} : Closed clause → Separable clauses →
      Separable (clause :: clauses)

theorem Separable.ne_nil {clauses : List (List Char)} (separable : Separable clauses) :
    clauses ≠ [] := by
  cases separable <;> exact List.cons_ne_nil _ _

theorem separable_iff {clauses : List (List Char)} :
    Separable clauses ↔ clauses ≠ [] ∧ ∀ clause ∈ clauses.dropLast, Closed clause := by
  induction clauses with
  | nil => exact iff_of_false (fun separable => separable.ne_nil rfl) (fun both => both.1 rfl)
  | cons clause clauses ih =>
    cases clauses with
    | nil => exact iff_of_true (.last clause) ⟨List.cons_ne_nil _ _, by simp⟩
    | cons next clauses =>
      rw [List.dropLast_cons_of_ne_nil (List.cons_ne_nil next clauses), List.forall_mem_cons]
      constructor
      · intro separable
        cases separable with
        | cons closed later => exact ⟨List.cons_ne_nil _ _, closed, (ih.mp later).2⟩
      · rintro ⟨-, closed, later⟩
        exact .cons closed (ih.mpr ⟨List.cons_ne_nil _ _, later⟩)

/-! ### From a text to its clauses and back -/

/-- A character in front of the first clause stands in front of the text. -/
theorem joinClauses_pushFirst (c : Char) {clauses : List (List Char)} (some : clauses ≠ []) :
    joinClauses (pushFirst c clauses) =
      (if c = ';' then ['\\', ';'] else [c]) ++ joinClauses clauses := by
  cases clauses with
  | nil => exact absurd rfl some
  | cons clause clauses =>
    rw [pushFirst]
    cases clauses with
    | nil => rw [joinClauses_singleton, joinClauses_singleton, escapeSemicolons_cons]
    | cons next clauses =>
      have more := List.cons_ne_nil next clauses
      rw [joinClauses_cons _ more, joinClauses_cons _ more, escapeSemicolons_cons,
        List.append_assoc]

/-- **A text is what its clauses are put together to.** -/
theorem joinClauses_splitClauses (body : List Char) : joinClauses (splitClauses body) = body := by
  fun_induction splitClauses body with
  | case1 => rfl
  | case2 text ih =>
    rw [joinClauses_pushFirst _ (splitClauses_ne_nil text), ih]
    rfl
  | case3 text _ ih =>
    rw [joinClauses_cons _ (splitClauses_ne_nil text), ih]
    rfl
  | case4 c text _ notSemicolon ih =>
    rw [joinClauses_pushFirst _ (splitClauses_ne_nil text), if_neg notSemicolon, ih]
    rfl

/-- A character in front of the first clause keeps the clauses apart, if it does not escape the
semicolon behind an empty one. -/
theorem Separable.pushFirst {c : Char} {clauses : List (List Char)} (separable : Separable clauses)
    (escapesNone : c = '\\' → (joinClauses clauses).head? ≠ some ';') :
    Separable (pushFirst c clauses) := by
  cases separable with
  | last clause => exact .last (c :: clause)
  | @cons clause clauses closed later =>
    refine .cons ?_ later
    cases clause with
    | cons d clause => exact closed
    | nil =>
      intro backslash
      refine escapesNone (Option.some.inj backslash) ?_
      rw [joinClauses_cons _ later.ne_nil]
      rfl

/-- **Only the last clause of a text may end with a backslash.** -/
theorem separable_splitClauses (body : List Char) : Separable (splitClauses body) := by
  fun_induction splitClauses body with
  | case1 => exact .last []
  | case2 text ih => exact ih.pushFirst fun wrong => absurd wrong (by decide)
  | case3 text _ ih => exact .cons (closed_of_forall (by simp)) ih
  | case4 c text notEscape _ ih =>
    refine ih.pushFirst ?_
    -- a backslash in front of a semicolon would have been read as its escape
    rintro rfl
    rw [joinClauses_splitClauses]
    intro first
    obtain ⟨rest, rfl⟩ := List.head?_eq_some_iff.mp first
    exact notEscape rest rfl rfl

/-- **Separable clauses are cut apart as they were.** -/
theorem splitClauses_joinClauses {clauses : List (List Char)} (separable : Separable clauses) :
    splitClauses (joinClauses clauses) = clauses := by
  induction separable with
  | last clause => rw [joinClauses_singleton, splitClauses_escapeSemicolons]
  | cons closed later ih =>
    rw [joinClauses_cons _ later.ne_nil, splitClauses_append (closed_escapeSemicolons closed),
      splitClauses_escapeSemicolons, ih]
    rfl

/-- **Cutting undoes putting together, and the other way round.** Clauses come back from their text
exactly if there are some and none but perhaps the last ends with a backslash; and every text is cut
into some clauses, which put together are the text again. -/
theorem splitClauses_inverse :
    (∀ clauses : List (List Char), splitClauses (joinClauses clauses) = clauses ↔
      clauses ≠ [] ∧ ∀ clause ∈ clauses.dropLast, clause.getLast? ≠ some '\\') ∧
    ∀ body : List Char, splitClauses body ≠ [] ∧ joinClauses (splitClauses body) = body := by
  constructor
  · intro clauses
    refine Iff.trans ⟨fun same => ?_, splitClauses_joinClauses⟩ separable_iff
    rw [← same]
    exact separable_splitClauses _
  · exact fun body => ⟨splitClauses_ne_nil body, joinClauses_splitClauses body⟩

/-- A second backslash in front of a semicolon does not free it. -/
example : splitClauses "a\\\\;b;c\\".toList = ["a\\;b".toList, "c\\".toList] := rfl

end CheckerFixtures.Clause
