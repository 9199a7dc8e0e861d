/-
**What is read is fresh.**

Whatever stands behind a comment token: if it is read as a pragma, then that declares at least one
code, its codes are words of ASCII letters, digits, underscores and hyphens, each of them has a
flag and no flag is raised, and the issues are not observed yet and have columns that fit a machine
word. Merging keeps all of this, so it holds of every entry of a fixture. And nothing is read
unless a clause begins with a bracket.

* `isFresh_of_mem_issueList`: the issues of a list in any text;
* `isFresh_of_parse?`, `IsFresh.extend`, `isFresh_ofLines`: pragmas that are read, merges, entries;
* `opensClause_of_parse?`: a pragma has a clause that begins with a bracket;
* `Pragma.isFresh_of_text`: all of it.
-/

import CheckerFixtures.Proofs.Bookkeeping
import CheckerFixtures.Proofs.MergeAlgebra
import CheckerFixtures.Proofs.TrailingBlanks

namespace CheckerFixtures

/-! ### Issues -/

/-- An issue that was not observed yet, in a column that fits a machine word. -/
def Issue.IsFresh (issue : Issue) : Prop := issue.hit = false ∧ issue.column < wordBound

namespace Clause

theorem lt_of_column {text : List Char} {number : Nat}
    (read : (Literal.column text).outcome = .ok (some number)) : number < wordBound := by
  unfold Literal.column at read
  dsimp only at read
  split at read
  · cases read
  · split at read
    · rename_i small
      cases read
      exact small
    · cases read

theorem isFresh_of_issue {text : List Char} {found : Issue}
    (read : (issue text).outcome = .ok (some found)) : found.IsFresh := by
  unfold issue at read
  dsimp only at read
  split at read
  · cases read
  · rename_i column? columnRead
    have small : ∀ number, column? = some number → number < wordBound := by
      rintro number rfl
      exact lt_of_column columnRead
    split at read
    · cases read
    · obtain ⟨number, there, rfl⟩ := Option.map_eq_some_iff.mp (Except.ok.inj read)
      exact ⟨rfl, small number there⟩
    · cases read
      refine ⟨rfl, ?_⟩
      cases column? with
      | none => exact (by decide : 0 < wordBound)
      | some number => exact small number rfl

/-- **The issues of a list are fresh**, wherever the list breaks off. -/
theorem isFresh_of_mem_issueList {text : List Char} :
    ∀ issue ∈ issueList text, issue.IsFresh := by
  fun_induction issueList text with
  | case1 text first read rest more shorter ih =>
    intro issue member
    rcases List.mem_cons.mp member with rfl | later
    · exact isFresh_of_issue read
    · exact ih issue later
  | case2 text first read none =>
    intro issue member
    rw [List.mem_singleton.mp member]
    exact isFresh_of_issue read
  | case3 text unread => exact fun _ member => by cases member

theorem isFresh_of_read? {clause : List Char} {expectation : String × List Issue}
    (read : read? clause = some expectation) : ∀ issue ∈ expectation.2, issue.IsFresh := by
  unfold read? at read
  split at read
  · cases read
  · split at read
    · cases read
      exact fun _ member => by cases member
    · split at read
      · cases read
      · cases read
        exact isFresh_of_mem_issueList

end Clause

/-! ### Pragmas -/

/-- The ASCII letters and digits, the underscore and the hyphen. -/
def IsCodeLetter (c : Char) : Prop :=
  ('A' ≤ c ∧ c ≤ 'Z') ∨ ('a' ≤ c ∧ c ≤ 'z') ∨ ('0' ≤ c ∧ c ≤ '9') ∨ c = '_' ∨ c = '-'

instance (c : Char) : Decidable (IsCodeLetter c) := inferInstanceAs (Decidable (_ ∨ _))

theorem isCodeLetter_of_isCodeChar {c : Char} (holds : Clause.isCodeChar c = true) :
    IsCodeLetter c := by
  have kinds : (((c.isUpper || c.isLower) || c.isDigit) || c == '_' || c == '-') = true := holds
  simp only [Bool.or_eq_true, beq_iff_eq] at kinds
  rcases kinds with (((upper | lower) | digit) | underscore) | hyphen
  · exact .inl (of_decide_eq_true upper)
  · have range := Bool.and_eq_true_iff.mp lower
    exact .inr (.inl (range.imp of_decide_eq_true of_decide_eq_true))
  · have range := Bool.and_eq_true_iff.mp digit
    exact .inr (.inr (.inl (range.imp of_decide_eq_true of_decide_eq_true)))
  · exact .inr (.inr (.inr (.inl underscore)))
  · exact .inr (.inr (.inr (.inr hyphen)))

namespace Pragma

/-- A pragma of which nothing was observed yet, as it is found in a text. -/
structure IsFresh (pragma : Pragma) : Prop where
  declares : pragma.codes ≠ []
  codes : ∀ code ∈ pragma.codes, code ≠ "" ∧ ∀ c ∈ code.toList, IsCodeLetter c
  /-- The codes with a flag are the declared ones. -/
  flagged : pragma.hit.keys = pragma.codes
  lowered : ∀ code, pragma.isHit code = false
  issues : ∀ code, ∀ issue ∈ pragma.issuesUnder code, issue.IsFresh

theorem mem_codes_collect (expectations : List (String × List Issue)) (code : String) :
    code ∈ (Clause.collect expectations).codes ↔ code ∈ codesOf expectations := by
  rw [codes, SortedMap.mem_keys_iff, Clause.get?_issues_collect]
  split <;> simp_all

theorem isFresh_of_parse? {body : List Char} {pragma : Pragma}
    (read : Clause.parse? body = some pragma) : pragma.IsFresh := by
  have isCode := Clause.isCode_of_parse? read
  have balanced := balanced_of_parse? read
  rw [Clause.parse?_eq] at read
  split at read
  · cases read
  · rename_i some
    cases read
    refine ⟨?_, ?_, balanced, ?_, ?_⟩
    · obtain ⟨entry, listed⟩ := List.exists_mem_of_ne_nil _ some
      exact List.ne_nil_of_mem ((mem_codes_collect _ entry.1).mpr (List.mem_map_of_mem listed))
    · intro code declared
      obtain ⟨filled, letters⟩ := isCode code declared
      refine ⟨?_, fun c member => isCodeLetter_of_isCodeChar (letters c member)⟩
      rintro rfl
      exact filled rfl
    · intro code
      rw [isHit, Clause.get?_hit_collect]
      split <;> rfl
    · intro code issue member
      rw [issuesUnder, issues?, Clause.get?_issues_collect] at member
      split at member
      · obtain ⟨entry, listed, inside⟩ := List.mem_flatMap.mp member
        obtain ⟨clause, -, own⟩ := List.mem_filterMap.mp (List.mem_filter.mp listed).1
        exact Clause.isFresh_of_read? own issue inside
      · cases member

/-- **A merge of fresh pragmas is fresh.** -/
theorem IsFresh.extend {upper lower : Pragma} (first : upper.IsFresh) (second : lower.IsFresh) :
    (upper.extend lower).IsFresh := by
  refine ⟨?_, ?_, Balanced.extend first.flagged second.flagged, ?_, ?_⟩
  · obtain ⟨code, declared⟩ := List.exists_mem_of_ne_nil _ first.declares
    exact List.ne_nil_of_mem ((mem_codes_extend upper lower code).mpr (.inl declared))
  · intro code declared
    rcases (mem_codes_extend upper lower code).mp declared with above | below
    · exact first.codes code above
    · exact second.codes code below
  · intro code
    rw [isHit_extend, first.lowered, second.lowered]
    rfl
  · intro code issue member
    rw [issuesUnder_extend] at member
    rcases List.mem_append.mp member with above | below
    · exact first.issues code issue above
    · exact second.issues code issue below

/-- **Every entry of a fixture is fresh.** -/
theorem isFresh_ofLines {name : String} {content : List Char} {tokens : List String}
    {lines : List (List Char)} {line : Nat} {pragma : Pragma}
    (found : (Fixture.ofLines name content tokens lines).pragmaAt? line = some pragma) :
    pragma.IsFresh :=
  entry_induction (fun _ _ => isFresh_of_parse?) (fun _ _ => IsFresh.extend) found

end Pragma

/-! ### Brackets -/

namespace Clause

/-- The first character that is not blank is an opening bracket. -/
def Begins (text : List Char) : Prop := (Text.trimStart text).head? = some '['

/-- A clause begins with a bracket: at the front of the text, or behind a semicolon without a
backslash before it, a bracket is the first character that is not blank. -/
def OpensClause (text : List Char) : Prop :=
  Begins text ∨ ∃ before rest, text = before ++ ';' :: rest ∧ Closed before ∧ Begins rest

theorem begins_cons {c : Char} {text : List Char} :
    Begins (c :: text) ↔ c = '[' ∨ Text.isBlank c = true ∧ Begins text := by
  unfold Begins Text.trimStart
  rw [List.dropWhile_cons]
  cases blank : Text.isBlank c with
  | true =>
    have other : c ≠ '[' := ne_of_isBlank blank (by decide)
    simp [other]
  | false => simp

theorem not_begins_nil : ¬ Begins [] := by
  rintro ⟨⟩

theorem not_begins_semicolon (text : List Char) : ¬ Begins (';' :: text) := by
  rw [begins_cons]
  rintro (same | ⟨blank, -⟩)
  · cases same
  · cases blank

theorem closed_cons {c : Char} {text : List Char} (closed : Closed text)
    (single : text = [] → c ≠ '\\') : Closed (c :: text) := by
  cases text with
  | nil => exact closed_concat [] (single rfl)
  | cons d text => exact closed

/-- The first clause begins where the text begins. -/
theorem begins_of_splitClauses {text clause : List Char} {clauses : List (List Char)}
    (cut : splitClauses text = clause :: clauses) (begins : Begins clause) : Begins text := by
  fun_induction splitClauses text generalizing clause clauses with
  | case1 =>
    cases cut
    exact begins
  | case2 text ih =>
    obtain ⟨first, later, split⟩ := List.exists_cons_of_ne_nil (splitClauses_ne_nil text)
    rw [split] at cut
    cases cut
    exact absurd begins (not_begins_semicolon first)
  | case3 text _ _ =>
    cases cut
    exact absurd begins not_begins_nil
  | case4 c text _ _ ih =>
    obtain ⟨first, later, split⟩ := List.exists_cons_of_ne_nil (splitClauses_ne_nil text)
    rw [split] at cut
    cases cut
    rw [begins_cons] at begins ⊢
    exact begins.imp_right (And.imp_right (ih split))

/-- A later clause begins behind a semicolon without a backslash. -/
theorem exists_of_mem_splitClauses {text first : List Char} {clauses : List (List Char)}
    (cut : splitClauses text = first :: clauses) {clause : List Char} (listed : clause ∈ clauses)
    (begins : Begins clause) :
    ∃ before rest, text = before ++ ';' :: rest ∧ Closed before ∧ Begins rest := by
  fun_induction splitClauses text generalizing first clauses with
  | case1 =>
    cases cut
    cases listed
  | case2 text ih =>
    obtain ⟨own, later, split⟩ := List.exists_cons_of_ne_nil (splitClauses_ne_nil text)
    rw [split] at cut
    cases cut
    obtain ⟨before, rest, rfl, closed, opens⟩ := ih split listed
    have longer : Closed (';' :: before) := closed_cons closed fun _ => by decide
    exact ⟨'\\' :: ';' :: before, rest, rfl,
      closed_cons longer fun empty => absurd empty (List.cons_ne_nil _ _), opens⟩
  | case3 text _ ih =>
    cases cut
    obtain ⟨own, later, split⟩ := List.exists_cons_of_ne_nil (splitClauses_ne_nil text)
    rw [split] at listed
    rcases List.mem_cons.mp listed with rfl | listed
    · exact ⟨[], text, rfl, closed_of_forall (by simp), begins_of_splitClauses split begins⟩
    · obtain ⟨before, rest, rfl, closed, opens⟩ := ih split listed
      exact ⟨';' :: before, rest, rfl, closed_cons closed fun _ => by decide, opens⟩
  | case4 c text notEscape _ ih =>
    obtain ⟨own, later, split⟩ := List.exists_cons_of_ne_nil (splitClauses_ne_nil text)
    rw [split] at cut
    cases cut
    obtain ⟨before, rest, rfl, closed, opens⟩ := ih split listed
    refine ⟨c :: before, rest, rfl, closed_cons closed ?_, opens⟩
    -- right before the semicolon no backslash can stand, since that would escape it
    rintro rfl rfl
    exact notEscape rest rfl rfl

theorem begins_of_read? {clause : List Char} {expectation : String × List Issue}
    (read : read? clause = some expectation) : Begins clause := by
  unfold read? shape? at read
  split at read
  · cases read
  · rename_i shape
    split at shape
    · rename_i opened
      rw [Begins, opened]
      rfl
    · cases shape

/-- **Nothing is read unless a clause begins with a bracket.** -/
theorem opensClause_of_parse? {body : List Char} {pragma : Pragma}
    (read : parse? body = some pragma) : OpensClause body := by
  have some : parse? body ≠ none := by
    rw [read]
    rintro ⟨⟩
  rw [ne_eq, parse?_eq_none_iff] at some
  push Not at some
  obtain ⟨clause, listed, readable⟩ := some
  obtain ⟨expectation, own⟩ := Option.ne_none_iff_exists'.mp readable
  have begins := begins_of_read? own
  obtain ⟨first, later, cut⟩ := List.exists_cons_of_ne_nil (splitClauses_ne_nil body)
  rw [cut] at listed
  rcases List.mem_cons.mp listed with rfl | listed
  · exact .inl (begins_of_splitClauses cut begins)
  · exact .inr (exists_of_mem_splitClauses cut listed begins)

end Clause

/-- **Whatever the text, what is found in it is fresh**: the pragma behind a comment token, and every
entry of a fixture. And a text in which no clause begins with a bracket is no pragma. -/
theorem Pragma.isFresh_of_text :
    (∀ body pragma, Clause.parse? body = some pragma → pragma.IsFresh) ∧
      (∀ name content tokens line pragma,
        (Fixture.ofText name content tokens).pragmaAt? line = some pragma → pragma.IsFresh) ∧
      ∀ body, ¬ Clause.OpensClause body → Clause.parse? body = none := by
  refine ⟨fun _ _ => isFresh_of_parse?, fun _ _ _ _ _ => isFresh_ofLines, ?_⟩
  intro body unopened
  rw [Option.eq_none_iff_forall_ne_some]
  intro pragma read
  exact unopened (Clause.opensClause_of_parse? read)

/-- A code in brackets in the middle of a remark is not expected. -/
example : Clause.parse? "see [E1]: 3".toList = none := by decide +kernel

end CheckerFixtures
