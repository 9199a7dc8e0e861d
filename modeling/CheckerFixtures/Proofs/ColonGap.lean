/-
**Blanks in front of a colon.**

The colon of a clause counts only right behind the bracket. Behind blanks it is no colon: what
follows it up to the end of the clause is dropped, and the code is expected without any issue. The
two spellings of a pragma, with the blanks and without them, therefore agree only where the dropped
list adds nothing to what the rest of the pragma says.

* `splitClauses_append_front`: a text without semicolons and backslashes goes in front of the first
  clause;
* `read?_gap`, `read?_colon`: a clause with a gap, and without one;
* `parse?_gap_iff`: when the gap makes no difference;
* `parse?_gap_drops`: an expectation that it weakens.
-/

import CheckerFixtures.Proofs.BrokenIssues
import CheckerFixtures.Proofs.Merging

namespace CheckerFixtures.Clause

open Pragma

/-! ### The first clause -/

/-- The text up to the first semicolon that counts. -/
def firstClause (text : List Char) : List Char := (splitClauses text).headD []

/-- The clauses behind the first one. -/
def laterClauses (text : List Char) : List (List Char) := (splitClauses text).tail

theorem splitClauses_eq (text : List Char) :
    splitClauses text = firstClause text :: laterClauses text := by
  unfold firstClause laterClauses
  cases cut : splitClauses text with
  | nil => exact absurd cut (splitClauses_ne_nil text)
  | cons clause others => rfl

/-- A text without semicolons and backslashes goes in front of the first clause. -/
theorem splitClauses_append_front {front : List Char} (plain : ∀ c ∈ front, c ≠ ';' ∧ c ≠ '\\')
    (text : List Char) :
    splitClauses (front ++ text) = (front ++ firstClause text) :: laterClauses text := by
  induction front with
  | nil => exact splitClauses_eq text
  | cons c front ih =>
    obtain ⟨notSemicolon, notBackslash⟩ := plain c List.mem_cons_self
    rw [List.cons_append, splitClauses_of_ne notSemicolon fun same => absurd same notBackslash,
      ih fun d member => plain d (List.mem_cons_of_mem _ member)]
    rfl

theorem plain_of_isCode {code : List Char} (isCode : IsCode code) :
    ∀ c ∈ code, c ≠ ';' ∧ c ≠ '\\' := by
  intro c member
  have codeChar := isCode.2 c member
  constructor <;> rintro rfl <;> exact absurd codeChar (by decide)

theorem plain_of_blanks {blanks : List Char} (all : Blanks blanks) :
    ∀ c ∈ blanks, c ≠ ';' ∧ c ≠ '\\' :=
  fun c member => ⟨ne_of_isBlank (all c member) rfl, ne_of_isBlank (all c member) rfl⟩

/-- A code in brackets, blanks, a colon, and a text. -/
def writeGap (code gap text : List Char) : List Char :=
  '[' :: (code ++ ']' :: (gap ++ ':' :: text))

section Gap

variable {code gap : List Char} (isCode : IsCode code) (blanks : Blanks gap)

include isCode blanks in
/-- What stands behind the colon begins in the clause of the code. -/
theorem splitClauses_writeGap (text : List Char) :
    splitClauses (writeGap code gap text) =
      writeGap code gap (firstClause text) :: laterClauses text := by
  have plain : ∀ c ∈ '[' :: (code ++ ']' :: (gap ++ [':'])), c ≠ ';' ∧ c ≠ '\\' := by
    refine List.forall_mem_cons.mpr ⟨by decide, List.forall_mem_append.mpr ⟨?_, ?_⟩⟩
    · exact plain_of_isCode isCode
    · refine List.forall_mem_cons.mpr ⟨by decide, List.forall_mem_append.mpr ⟨?_, ?_⟩⟩
      · exact plain_of_blanks blanks
      · exact List.forall_mem_singleton.mpr (by decide)
  have split := splitClauses_append_front plain text
  simpa only [writeGap, List.cons_append, List.append_assoc, List.nil_append] using split

/-! ### Reading the clause -/

include isCode blanks in
/-- **Behind a gap the colon does not count**: the clause expects its code alone. -/
theorem read?_gap (some : gap ≠ []) (clause : List Char) :
    read? (writeGap code gap clause) = .some (String.ofList code, []) := by
  have shape := shape?_of_code blanks_nil isCode (gap ++ ':' :: clause)
  have uncoloned : afterColon (gap ++ ':' :: clause) = [] := by
    cases gap with
    | nil => exact absurd rfl some
    | cons c gap => exact afterColon_of_ne (ne_of_isBlank (blanks c List.mem_cons_self) rfl) _
  rw [uncoloned] at shape
  exact read?_of_shape shape (by intro c; simp)

include isCode in
/-- Right behind the bracket the colon brings the issues, if there are some. -/
theorem read?_colon {clause : List Char} (filled : ¬ Blanks clause) (whole : ¬ Broken clause) :
    read? (writeGap code [] clause) = some (String.ofList code, issueList clause) := by
  have visible : Text.trim clause ≠ [] :=
    fun blank => filled ((Text.trim_eq_nil_iff clause).mp blank)
  have shape : shape? (writeGap code [] clause) = some (code, clause) :=
    shape?_of_code blanks_nil isCode (':' :: clause)
  rw [read?, shape]
  dsimp only
  rw [if_neg visible]
  cases read : issueList clause with
  | nil => exact absurd (issueList_eq_nil_iff.mp read) whole
  | cons first issues => rfl

include isCode in
theorem read?_colon_of_blanks {clause : List Char} (blank : Blanks clause) :
    read? (writeGap code [] clause) = some (String.ofList code, []) :=
  read?_of_shape (shape?_of_code blanks_nil isCode (':' :: clause)) blank

/-! ### Both spellings -/

/-- The issues of each code in the pragma of some clauses. -/
theorem issuesOf?_pragmaOf? (clauses : List (List Char)) (code : String) :
    issuesOf? code (pragmaOf? clauses) =
      if code ∈ codesOf (clauses.filterMap read?) then
        some (issuesFor code (clauses.filterMap read?))
      else none := by
  rw [pragmaOf?_eq]
  by_cases empty : clauses.filterMap read? = []
  · rw [if_pos empty, empty]
    rfl
  · rw [if_neg empty]
    exact get?_issues_collect _ code

/-- The code of the first clause has its issues in front of those of the others. -/
theorem issuesOf?_pragmaOf?_cons {clause : List Char} {code : String} {issues : List Issue}
    (read : read? clause = some (code, issues)) (others : List (List Char)) :
    issuesOf? code (pragmaOf? (clause :: others)) =
      some (issues ++ issuesFor code (others.filterMap read?)) := by
  have both : (clause :: others).filterMap read? = (code, issues) :: others.filterMap read? :=
    List.filterMap_cons_some read
  have named : code ∈ codesOf ((code, issues) :: others.filterMap read?) := List.mem_cons_self
  rw [issuesOf?_pragmaOf?, both, if_pos named, issuesFor_cons, if_pos rfl]

/-- To name a code again without an issue changes nothing. -/
theorem collect_cons_of_mem {code : String} {expectations : List (String × List Issue)}
    (named : code ∈ codesOf expectations) :
    collect ((code, []) :: expectations) = collect expectations := by
  have sameCodes : ∀ other,
      other ∈ codesOf ((code, []) :: expectations) ↔ other ∈ codesOf expectations := by
    intro other
    refine List.mem_cons.trans (or_iff_right_of_imp ?_)
    rintro rfl
    exact named
  have sameIssues : ∀ other,
      issuesFor other ((code, []) :: expectations) = issuesFor other expectations := by
    intro other
    rw [issuesFor_cons]
    split <;> rfl
  refine collect_eq _ (fun other => ?_) (fun other => ?_)
  · rw [get?_issues_collect, sameIssues]
    simp only [sameCodes]
  · rw [get?_hit_collect]
    simp only [sameCodes]

include isCode blanks in
/-- With a gap the pragma has its code, and whatever the later clauses say. -/
theorem parse?_gap (some : gap ≠ []) (text : List Char) :
    parse? (writeGap code gap text) =
      .some (collect ((String.ofList code, []) :: (laterClauses text).filterMap read?)) := by
  rw [parse?_eq, splitClauses_writeGap isCode blanks, List.filterMap_cons,
    read?_gap isCode blanks some]
  exact if_neg (List.cons_ne_nil _ _)

include isCode blanks in
/-- A gap in front of a list that breaks off at once makes the clause count after all. -/
theorem parse?_gap_of_broken (some : gap ≠ []) {text : List Char}
    (filled : ¬ Blanks (firstClause text)) (broken : Broken (firstClause text)) :
    parse? (writeGap code gap text) = parse? (writeGap code [] text) ↔
      String.ofList code ∈ codesOf ((laterClauses text).filterMap read?) := by
  have unread : read? (writeGap code [] (firstClause text)) = none :=
    read?_of_broken blanks_nil isCode filled broken
  have without : parse? (writeGap code [] text) = pragmaOf? (laterClauses text) := by
    rw [parse?_eq_pragmaOf?, splitClauses_writeGap isCode blanks_nil]
    exact pragmaOf?_of_unread unread [] _
  rw [without]
  constructor
  · intro same
    have declared := congrArg (issuesOf? (String.ofList code)) same
    rw [parse?_eq_pragmaOf?, splitClauses_writeGap isCode blanks,
      issuesOf?_pragmaOf?_cons (read?_gap isCode blanks some _), issuesOf?_pragmaOf?] at declared
    by_contra absent
    rw [if_neg absent] at declared
    cases declared
  · intro named
    have read : (laterClauses text).filterMap read? ≠ [] := by
      intro empty
      rw [empty] at named
      exact List.not_mem_nil named
    rw [parse?_gap isCode blanks some, collect_cons_of_mem named, pragmaOf?_eq, if_neg read]

include isCode blanks in
/-- A gap in front of issues loses them. -/
theorem parse?_gap_of_issues (some : gap ≠ []) {text : List Char}
    (filled : ¬ Blanks (firstClause text)) (whole : ¬ Broken (firstClause text)) :
    parse? (writeGap code gap text) ≠ parse? (writeGap code [] text) := by
  intro same
  have listed := congrArg (issuesOf? (String.ofList code)) same
  rw [parse?_eq_pragmaOf?, parse?_eq_pragmaOf?, splitClauses_writeGap isCode blanks,
    splitClauses_writeGap isCode blanks_nil,
    issuesOf?_pragmaOf?_cons (read?_gap isCode blanks some _),
    issuesOf?_pragmaOf?_cons (read?_colon isCode filled whole)] at listed
  have none : issueList (firstClause text) = [] :=
    List.self_eq_append_left.mp (Option.some.inj listed)
  exact whole (issueList_eq_nil_iff.mp none)

end Gap

/-- **When blanks in front of a colon make no difference.** With blanks in front of its colon, a
clause expects its code alone, whatever stands behind the colon. So the blanks make no difference
exactly if there are none, if nothing but blanks stands behind the colon, or if the list there
breaks off at once and a later clause names the code anyway. -/
theorem parse?_gap_iff {code gap : List Char} (isCode : IsCode code) (blanks : Blanks gap)
    (text : List Char) :
    (gap ≠ [] → parse? (writeGap code gap text) =
      some (collect ((String.ofList code, []) :: (laterClauses text).filterMap read?))) ∧
    (parse? (writeGap code gap text) = parse? (writeGap code [] text) ↔
      gap = [] ∨ Blanks (firstClause text) ∨
        Broken (firstClause text) ∧
          String.ofList code ∈ codesOf ((laterClauses text).filterMap read?)) := by
  refine ⟨fun some => parse?_gap isCode blanks some text, ?_⟩
  by_cases none : gap = []
  · rw [none]
    exact iff_of_true rfl (.inl rfl)
  by_cases blank : Blanks (firstClause text)
  · refine iff_of_true ?_ (.inr (.inl blank))
    rw [parse?_eq_pragmaOf?, parse?_eq_pragmaOf?, splitClauses_writeGap isCode blanks,
      splitClauses_writeGap isCode blanks_nil, pragmaOf?, pragmaOf?, List.filterMap_cons,
      List.filterMap_cons, read?_gap isCode blanks none, read?_colon_of_blanks isCode blank]
  rw [or_iff_right none, or_iff_right blank]
  by_cases broken : Broken (firstClause text)
  · rw [parse?_gap_of_broken isCode blanks none blank broken, and_iff_right broken]
  · exact iff_of_false (parse?_gap_of_issues isCode blanks none blank broken)
      fun both => broken both.1

/-- A word behind the colon is lost on both spellings; a column only behind a gap. -/
theorem parse?_gap_iff_word :
    parse? "[E1] : oops; [E1]".toList = parse? "[E1]: oops; [E1]".toList ∧
      parse? "[E1] : 5; [E2]".toList = some (collect [("E1", []), ("E2", [])]) := by
  have code : IsCode "E1".toList := by decide
  have broken : Broken (firstClause " oops; [E1]".toList) := by
    refine Broken.missing blanks_space (show ∀ c, "oops".toList.head? = some c → _ from ?_)
    rintro c ⟨⟩
    decide
  have named : "E1" ∈ codesOf ((laterClauses " oops; [E1]".toList).filterMap read?) := by
    have later : (laterClauses " oops; [E1]".toList).filterMap read? = [("E1", [])] := by
      decide +kernel
    rw [later]
    exact List.mem_cons_self
  have harmless := (parse?_gap_iff code blanks_space " oops; [E1]".toList).2.mpr
  have dropped := (parse?_gap_iff code blanks_space " 5; [E2]".toList).1
  have later : (laterClauses " 5; [E2]".toList).filterMap read? = [("E2", [])] := by
    decide +kernel
  rw [later] at dropped
  exact ⟨harmless (.inr (.inr ⟨broken, named⟩)), dropped (List.cons_ne_nil _ _)⟩

/-- A space in front of the colon turns a column and a message into any issue under the code. -/
theorem parse?_gap_drops :
    IsCode "E1".toList ∧ Blanks " ".toList ∧
      parse? "[E1] : 5 \"bad\"".toList = some (collect [("E1", [])]) ∧
      parse? "[E1]: 5 \"bad\"".toList = some (collect [("E1", [⟨5, "bad", false⟩])]) ∧
      parse? "[E1] : 5 \"bad\"".toList ≠ parse? "[E1]: 5 \"bad\"".toList := by
  have behind : parse? "[E1]: 5 \"bad\"".toList =
      some (collect [("E1", [⟨5, "bad", false⟩])]) := by
    decide +kernel
  have gap : parse? "[E1] : 5 \"bad\"".toList = some (collect [("E1", [])]) := by
    decide +kernel
  refine ⟨by decide, by decide, gap, behind, ?_⟩
  rw [gap, behind]
  decide

end CheckerFixtures.Clause
