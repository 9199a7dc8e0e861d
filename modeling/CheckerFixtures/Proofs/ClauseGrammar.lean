/-
**The grammar of pragmas.**

A clause is a code in brackets, and behind a colon its issues, if it has any. Clauses stand between
semicolons; a semicolon inside a clause has a backslash before it. Every text of this grammar is
read to what it says.

* `splitClauses_append`: behind a semicolon without a backslash the clauses start afresh;
* `splitClauses_escapeSemicolons`: an escaped clause is not cut;
* `read?_of_spells`: a clause in any spelling is read;
* `parse?_of_spells`: a whole pragma is what its clauses add up to;
* `meaning_of_spells`: its issues and flags, code by code.
-/

import CheckerFixtures.Proofs.Collecting
import CheckerFixtures.Proofs.IssueGrammar

namespace CheckerFixtures

/-! ### The grammar -/

/-- An issue code: some letters, digits, underscores and hyphens. -/
def IsCode (code : List Char) : Prop := code ≠ [] ∧ ∀ c ∈ code, Clause.isCodeChar c = true

instance (code : List Char) : Decidable (IsCode code) :=
  @instDecidableAnd _ _ inferInstance (List.decidableBAll _ code)

theorem IsCode.newline_notMem {code : List Char} (isCode : IsCode code) : '\n' ∉ code :=
  fun member => absurd (isCode.2 _ member) (by decide)

/-- A clause: its code, and behind a colon nothing or some issues. -/
inductive SpellsClause : List Char → String × List Issue → Prop
  | bare {lead code tail : List Char} : Blanks lead → IsCode code → Blanks tail →
      SpellsClause (lead ++ '[' :: (code ++ ']' :: tail)) (String.ofList code, [])
  | colon {lead code tail : List Char} : Blanks lead → IsCode code → Blanks tail →
      SpellsClause (lead ++ '[' :: (code ++ ']' :: ':' :: tail)) (String.ofList code, [])
  | issues {lead code list : List Char} {issues : List Issue} : Blanks lead → IsCode code →
      SpellsIssues list issues →
      SpellsClause (lead ++ '[' :: (code ++ ']' :: ':' :: list)) (String.ofList code, issues)

/-- Clauses between semicolons; there is at least one. -/
inductive SpellsPragma : List Char → List (String × List Issue) → Prop
  | last {clause : List Char} {expectation : String × List Issue} :
      SpellsClause clause expectation →
      SpellsPragma (Clause.escapeSemicolons clause) [expectation]
  | cons {clause rest : List Char} {expectation : String × List Issue}
      {expectations : List (String × List Issue)} :
      SpellsClause clause expectation → SpellsPragma rest expectations →
      SpellsPragma (Clause.escapeSemicolons clause ++ ';' :: rest) (expectation :: expectations)

namespace Clause

open Literal

/-! ### Texts that escape nothing behind them -/

/-- The text does not end with a backslash. -/
def Closed (text : List Char) : Prop := text.getLast? ≠ some '\\'

theorem closed_append {text more : List Char} (first : Closed text) (second : Closed more) :
    Closed (text ++ more) := by
  unfold Closed at first second ⊢
  rw [List.getLast?_append]
  cases last : more.getLast? with
  | none => exact first
  | some c => rwa [last] at second

theorem closed_of_forall {text : List Char} (other : ∀ c ∈ text, c ≠ '\\') : Closed text := by
  intro last
  exact other _ (List.mem_of_getLast? last) rfl

theorem closed_concat (text : List Char) {c : Char} (other : c ≠ '\\') : Closed (text ++ [c]) := by
  unfold Closed
  rw [List.getLast?_concat]
  intro same
  exact other (Option.some.inj same)

theorem closed_of_cons {c : Char} {text : List Char} (closed : Closed (c :: text)) :
    Closed text := by
  cases text with
  | nil => exact closed_of_forall (by simp)
  | cons d text => exact closed

theorem closed_of_blanks {text : List Char} (blanks : Blanks text) : Closed text := by
  refine closed_of_forall ?_
  intro c member
  exact ne_of_isBlank (blanks c member) rfl

/-! ### Cutting at semicolons -/

theorem pushFirst_append (c : Char) {parts : List (List Char)} (some : parts ≠ [])
    (more : List (List Char)) : pushFirst c (parts ++ more) = pushFirst c parts ++ more := by
  cases parts with
  | nil => exact absurd rfl some
  | cons part parts => rfl

theorem splitClauses_of_ne {c : Char} (notSemicolon : c ≠ ';') {text : List Char}
    (notEscape : c = '\\' → text.head? ≠ some ';') :
    splitClauses (c :: text) = pushFirst c (splitClauses text) := by
  rw [splitClauses, if_neg notSemicolon]
  rintro rest rfl rfl
  exact notEscape rfl rfl

theorem splitClauses_semicolon (text : List Char) :
    splitClauses (';' :: text) = [] :: splitClauses text := by
  rw [splitClauses, if_pos rfl]
  rintro rest wrong
  cases wrong

/-- **Behind a semicolon the clauses start afresh**, unless a backslash stands before it. -/
theorem splitClauses_append {text : List Char} (closed : Closed text) (rest : List Char) :
    splitClauses (text ++ ';' :: rest) = splitClauses text ++ splitClauses rest := by
  fun_induction splitClauses text with
  | case1 => exact splitClauses_semicolon rest
  | case2 text ih =>
    have later : Closed text := closed_of_cons (closed_of_cons closed)
    rw [List.cons_append, List.cons_append, splitClauses, ih later,
      pushFirst_append _ (splitClauses_ne_nil text)]
  | case3 text _ ih =>
    have later : Closed text := closed_of_cons closed
    rw [List.cons_append, splitClauses_semicolon, ih later]
    rfl
  | case4 c text notEscape notSemicolon ih =>
    have later : Closed text := closed_of_cons closed
    rw [List.cons_append, splitClauses_of_ne notSemicolon, ih later,
      pushFirst_append _ (splitClauses_ne_nil text)]
    -- a backslash at the very end would escape the semicolon
    rintro rfl first
    cases text with
    | nil => exact closed rfl
    | cons d text =>
      cases first
      exact notEscape text rfl rfl

/-! ### Escaped clauses -/

theorem escapeSemicolons_cons (c : Char) (clause : List Char) :
    escapeSemicolons (c :: clause) =
      (if c = ';' then ['\\', ';'] else [c]) ++ escapeSemicolons clause := by
  rw [escapeSemicolons, List.flatMap_cons]
  rfl

theorem head?_escapeSemicolons (clause : List Char) :
    (escapeSemicolons clause).head? ≠ some ';' := by
  cases clause with
  | nil => simp [escapeSemicolons]
  | cons c clause =>
    rw [escapeSemicolons_cons]
    by_cases semicolon : c = ';'
    · rw [if_pos semicolon]
      simp
    · rw [if_neg semicolon]
      simpa using semicolon

/-- An escaped clause is not cut, and its semicolons are read back. -/
theorem splitClauses_escapeSemicolons (clause : List Char) :
    splitClauses (escapeSemicolons clause) = [clause] := by
  induction clause with
  | nil => rfl
  | cons c clause ih =>
    rw [escapeSemicolons_cons]
    by_cases semicolon : c = ';'
    · rw [if_pos semicolon, List.cons_append, List.cons_append, List.nil_append, splitClauses, ih,
        semicolon]
      rfl
    · rw [if_neg semicolon, List.singleton_append, splitClauses_of_ne semicolon, ih]
      · rfl
      · exact fun _ => head?_escapeSemicolons clause

theorem closed_escapeSemicolons {clause : List Char} (closed : Closed clause) :
    Closed (escapeSemicolons clause) := by
  cases clause using List.reverseRecOn with
  | nil => exact closed
  | append_singleton clause c =>
    have other : c ≠ '\\' := by
      rintro rfl
      exact closed (List.getLast?_concat ..)
    have last : escapeSemicolons [c] = (if c = ';' then ['\\'] else []) ++ [c] := by
      rw [escapeSemicolons_cons]
      by_cases semicolon : c = ';'
      · rw [if_pos semicolon, if_pos semicolon, semicolon]
        rfl
      · rw [if_neg semicolon, if_neg semicolon]
        rfl
    have whole : escapeSemicolons (clause ++ [c]) =
        escapeSemicolons clause ++ escapeSemicolons [c] := List.flatMap_append
    rw [whole, last, ← List.append_assoc]
    exact closed_concat _ other

/-! ### Clauses put together -/

theorem joinClauses_singleton (clause : List Char) :
    joinClauses [clause] = escapeSemicolons clause :=
  List.intercalate_singleton

theorem joinClauses_cons (clause : List Char) {clauses : List (List Char)} (some : clauses ≠ []) :
    joinClauses (clause :: clauses) = escapeSemicolons clause ++ ';' :: joinClauses clauses := by
  have others : clauses.map escapeSemicolons ≠ [] := by simpa using some
  rw [joinClauses, List.map_cons, List.intercalate_cons_of_ne_nil others, List.append_assoc]
  rfl

/-! ### Spelled texts are closed -/

theorem closed_of_spellsColumn {text : List Char} {column : Option Nat}
    (spelled : SpellsColumn text column) : Closed text := by
  cases spelled with
  | absent => exact closed_of_forall (by simp)
  | digits _ numeral _ =>
    refine closed_of_forall ?_
    rintro c member rfl
    exact absurd (isDigit_of_denotes numeral _ member) (by decide)

theorem closed_of_spellsMessage {text : List Char} {message : Option (List Char)}
    (spelled : SpellsMessage text message) : Closed text := by
  cases spelled with
  | absent => exact closed_of_forall (by simp)
  | @quoted text message _ => exact closed_concat ('"' :: text) (by decide)

theorem closed_of_spellsIssue {text : List Char} {issue : Issue}
    (spelled : SpellsIssue text issue) : Closed text := by
  cases spelled with
  | parts leading columnSpelled between messageSpelled behind _ =>
    refine closed_append (closed_of_blanks leading) ?_
    refine closed_append (closed_of_spellsColumn columnSpelled) ?_
    refine closed_append (closed_of_blanks between) ?_
    exact closed_append (closed_of_spellsMessage messageSpelled) (closed_of_blanks behind)

theorem closed_of_spellsIssues {text : List Char} {issues : List Issue}
    (spelled : SpellsIssues text issues) : Closed text := by
  induction spelled with
  | last spelledIssue => exact closed_of_spellsIssue spelledIssue
  | @cons text rest _ _ spelledIssue _ ih =>
    have comma : Closed (text ++ [',']) := closed_concat text (by decide)
    have whole := closed_append comma ih
    rwa [List.append_assoc, List.singleton_append] at whole

/-- What stands in front of a closed text does not matter. -/
theorem closed_append_right (text : List Char) {c : Char} (other : c ≠ '\\') {more : List Char}
    (closed : Closed more) : Closed (text ++ c :: more) := by
  have whole := closed_append (closed_concat text other) closed
  rwa [List.append_assoc, List.singleton_append] at whole

theorem closed_of_spellsClause {text : List Char} {expectation : String × List Issue}
    (spelled : SpellsClause text expectation) : Closed text := by
  cases spelled with
  | bare _ _ behind =>
    refine closed_append_right _ (by decide) ?_
    exact closed_append_right _ (by decide) (closed_of_blanks behind)
  | colon _ _ behind =>
    refine closed_append_right _ (by decide) ?_
    refine closed_append_right _ (by decide) ?_
    exact closed_append_right [] (by decide) (closed_of_blanks behind)
  | issues _ _ spelledIssues =>
    refine closed_append_right _ (by decide) ?_
    refine closed_append_right _ (by decide) ?_
    exact closed_append_right [] (by decide) (closed_of_spellsIssues spelledIssues)

/-! ### Clauses -/

theorem shape?_of_code {lead code : List Char} (blanks : Blanks lead) (isCode : IsCode code)
    (behind : List Char) :
    shape? (lead ++ '[' :: (code ++ ']' :: behind)) = some (code, afterColon behind) := by
  obtain ⟨filled, characters⟩ := isCode
  have opened : Text.trimStart (lead ++ '[' :: (code ++ ']' :: behind)) =
      '[' :: (code ++ ']' :: behind) := by
    refine dropWhile_run blanks ?_
    rintro c ⟨⟩
    decide
  have inside : ∀ c ∈ code, (c != ']') = true := by
    intro c member
    rw [bne_iff_ne]
    rintro rfl
    exact absurd (characters _ member) (by decide)
  have stop : ∀ c, (']' :: behind).head? = some c → (c != ']') = false := by
    rintro c ⟨⟩
    decide
  simp only [shape?, opened, takeWhile_run inside stop, dropWhile_run inside stop]
  rw [if_pos ⟨filled, List.all_eq_true.mpr characters⟩]

/-- A colon counts only if it comes first. -/
theorem afterColon_of_ne {c : Char} (other : c ≠ ':') (text : List Char) :
    afterColon (c :: text) = [] := by
  unfold afterColon
  split
  · rename_i same
    cases same
    exact absurd rfl other
  · rfl

theorem read?_of_shape {clause code rest : List Char}
    (shape : shape? clause = some (code, rest)) (blank : Blanks rest) :
    read? clause = some (String.ofList code, []) := by
  rw [read?, shape]
  simp only
  rw [if_pos ((Text.trim_eq_nil_iff rest).mpr blank)]

/-- What stands in the brackets of a clause is an issue code. -/
theorem isCode_of_shape? {clause code rest : List Char}
    (shape : shape? clause = some (code, rest)) : IsCode code := by
  unfold shape? at shape
  split at shape
  · dsimp only at shape
    split at shape
    · cases shape
    · split at shape
      · rename_i isCode
        cases shape
        exact ⟨isCode.1, List.all_eq_true.mp isCode.2⟩
      · cases shape
  · cases shape

/-- A clause that is read expects an issue code. -/
theorem isCode_of_read? {clause : List Char} {expectation : String × List Issue}
    (read : read? clause = some expectation) : IsCode expectation.1.toList := by
  unfold read? at read
  split at read
  · cases read
  · rename_i shape
    have isCode := isCode_of_shape? shape
    split at read
    · cases read
      rwa [String.toList_ofList]
    · split at read
      · cases read
      · cases read
        rwa [String.toList_ofList]

/-- A list of issues is not blank: each issue shows a column or a message. -/
theorem not_blanks_of_spellsIssues {text : List Char} {issues : List Issue}
    (spelled : SpellsIssues text issues) : ¬ Blanks text := by
  have first : ∀ {text : List Char} {issue : Issue}, SpellsIssue text issue → ¬ Blanks text := by
    intro text issue spelledIssue blanks
    cases spelledIssue with
    | @parts lead digits gap quoted tail column message _ columnSpelled _ messageSpelled _ one =>
      cases columnSpelled with
      | @digits digits column filled numeral _ =>
        obtain ⟨c, member⟩ := List.exists_mem_of_ne_nil digits filled
        have digit := isBlank_of_isDigit (isDigit_of_denotes numeral c member)
        have blank := blanks c (by simp [member])
        rw [blank] at digit
        cases digit
      | absent =>
        cases messageSpelled with
        | absent => simp at one
        | quoted _ => exact absurd (blanks '"' (by simp)) (by decide)
  cases spelled with
  | last spelledIssue => exact first spelledIssue
  | cons spelledIssue _ =>
    exact fun blanks => first spelledIssue fun c member => blanks c (by simp [member])

/-- **A clause in any spelling is read.** -/
theorem read?_of_spells {clause : List Char} {expectation : String × List Issue}
    (spelled : SpellsClause clause expectation) : read? clause = some expectation := by
  cases spelled with
  | @bare lead code tail leading isCode behind =>
    have shape := shape?_of_code leading isCode tail
    have none : afterColon tail = [] := by
      cases tail with
      | nil => rfl
      | cons c tail => exact afterColon_of_ne (ne_of_isBlank (behind c List.mem_cons_self) rfl) tail
    rw [none] at shape
    exact read?_of_shape shape (by intro c; simp)
  | colon leading isCode behind =>
    exact read?_of_shape (shape?_of_code leading isCode _) behind
  | @issues lead code list issues leading isCode spelledIssues =>
    have listed : issueList list = issues := issueList_of_spells spelledIssues
    have visible : Text.trim list ≠ [] := by
      intro blank
      exact not_blanks_of_spellsIssues spelledIssues ((Text.trim_eq_nil_iff list).mp blank)
    rw [read?, shape?_of_code leading isCode]
    simp only [afterColon]
    rw [if_neg visible, listed]
    cases spelledIssues <;> rfl

/-! ### Pragmas -/

theorem filterMap_splitClauses_of_spells {text : List Char}
    {expectations : List (String × List Issue)} (spelled : SpellsPragma text expectations) :
    (splitClauses text).filterMap read? = expectations := by
  induction spelled with
  | last spelledClause =>
    rw [splitClauses_escapeSemicolons, List.filterMap_cons, read?_of_spells spelledClause]
    rfl
  | cons spelledClause _ ih =>
    have closed := closed_escapeSemicolons (closed_of_spellsClause spelledClause)
    rw [splitClauses_append closed, splitClauses_escapeSemicolons, List.singleton_append,
      List.filterMap_cons, read?_of_spells spelledClause, ih]

theorem parse?_of_spells {text : List Char} {expectations : List (String × List Issue)}
    (spelled : SpellsPragma text expectations) : parse? text = some (collect expectations) := by
  rw [parse?, filterMap_splitClauses_of_spells spelled]
  cases spelled <;> rfl

/-- **A pragma declares issue codes only.** -/
theorem isCode_of_parse? {body : List Char} {pragma : Pragma} (read : parse? body = some pragma) :
    ∀ code ∈ pragma.codes, IsCode code.toList := by
  intro code declared
  rw [parse?_eq_pragmaOf?, pragmaOf?_eq] at read
  split at read
  · cases read
  · cases read
    rw [Pragma.codes, SortedMap.mem_keys_iff, get?_issues_collect] at declared
    split at declared
    · rename_i named
      obtain ⟨expectation, listed, rfl⟩ := List.mem_map.mp named
      obtain ⟨clause, -, read⟩ := List.mem_filterMap.mp listed
      exact isCode_of_read? read
    · cases declared

theorem hit_of_spellsIssues {text : List Char} {issues : List Issue}
    (spelled : SpellsIssues text issues) : ∀ issue ∈ issues, issue.hit = false := by
  have single : ∀ {text : List Char} {issue : Issue}, SpellsIssue text issue →
      issue.hit = false := by
    intro text issue spelledIssue
    cases spelledIssue
    rfl
  induction spelled with
  | last spelledIssue =>
    intro issue member
    rw [List.mem_singleton.mp member]
    exact single spelledIssue
  | cons spelledIssue _ ih =>
    intro issue member
    rcases List.mem_cons.mp member with rfl | later
    · exact single spelledIssue
    · exact ih issue later

theorem hit_of_spellsClause {text : List Char} {expectation : String × List Issue}
    (spelled : SpellsClause text expectation) : ∀ issue ∈ expectation.2, issue.hit = false := by
  cases spelled with
  | bare _ _ _ => simp
  | colon _ _ _ => simp
  | issues _ _ spelledIssues => exact hit_of_spellsIssues spelledIssues

/-- No issue of a spelled pragma has been met. -/
theorem hit_of_spells {text : List Char} {expectations : List (String × List Issue)}
    (spelled : SpellsPragma text expectations) (code : String) :
    ∀ issue ∈ issuesFor code expectations, issue.hit = false := by
  have every : ∀ entry ∈ expectations, ∀ issue ∈ entry.2, issue.hit = false := by
    induction spelled with
    | last spelledClause =>
      intro entry member
      rw [List.mem_singleton.mp member]
      exact hit_of_spellsClause spelledClause
    | cons spelledClause _ ih =>
      intro entry member
      rcases List.mem_cons.mp member with rfl | later
      · exact hit_of_spellsClause spelledClause
      · exact ih entry later
  intro issue member
  obtain ⟨entry, listed, inside⟩ := List.mem_flatMap.mp member
  exact every entry (List.mem_filter.mp listed).1 issue inside

/-- **Every text of the grammar is read to what it says**: the codes of its clauses, each with the
issues of all its clauses in order, none of them met, and a lowered flag for each code. -/
theorem meaning_of_spells {text : List Char} {expectations : List (String × List Issue)}
    (spelled : SpellsPragma text expectations) :
    ∃ pragma, parse? text = some pragma ∧
      (∀ code, pragma.issues.get? code =
        if code ∈ codesOf expectations then some (issuesFor code expectations) else none) ∧
      (∀ code, pragma.hit.get? code =
        if code ∈ codesOf expectations then some false else none) ∧
      ∀ code issues, pragma.issues.get? code = some issues →
        ∀ issue ∈ issues, issue.hit = false := by
  refine ⟨collect expectations, parse?_of_spells spelled, get?_issues_collect expectations,
    get?_hit_collect expectations, ?_⟩
  intro code issues found
  rw [get?_issues_collect] at found
  split at found
  · cases found
    exact hit_of_spells spelled code
  · cases found

theorem meaning_of_two_clauses :
    ∃ pragma, parse? "[E-1]: 07 \"a\\;\\x3b\"; [E-1]".toList = some pragma ∧
      pragma.issues.get? "E-1" = some [⟨7, "a;;", false⟩] ∧
      pragma.hit.get? "E-1" = some false := by
  have none : Blanks [] := by decide
  have blank : Blanks [' '] := by decide
  have code : IsCode ['E', '-', '1'] := by decide
  have zero : Denotes 10 ['0'] 0 := Denotes.nil.snoc (by decide : 0 < 10) (.inl rfl)
  have seven : Denotes 10 ['0', '7'] 7 := zero.snoc (by decide : 7 < 10) (.inl rfl)
  have three : Denotes 16 ['3'] 3 := Denotes.nil.snoc (by decide : 3 < 16) (.inl rfl)
  have semicolon : Denotes 16 ['3', 'b'] 59 := three.snoc (by decide : 11 < 16) (.inl rfl)
  have escaped : SpellsChar ['\\', 'x', '3', 'b'] ';' := .ascii rfl semicolon (by decide)
  have letter : SpellsChar ['a'] 'a' := .raw (by decide) (by decide)
  have raw : SpellsChar [';'] ';' := .raw (by decide) (by decide)
  have message := Spells.cons letter (.cons raw (.cons escaped .nil))
  have issue := SpellsIssue.parts blank (.digits (by simp) seven (by decide)) blank
    (.quoted message) none (.inl (by simp))
  have first := SpellsClause.issues none code (.last issue)
  have second := SpellsClause.bare blank code none
  obtain ⟨pragma, read, issues, hit, _⟩ := meaning_of_spells (.cons first (.last second))
  refine ⟨pragma, ?_, ?_, ?_⟩
  · rw [← read]
    rfl
  · rw [issues]
    rfl
  · rw [hit]
    rfl

end Clause

end CheckerFixtures
