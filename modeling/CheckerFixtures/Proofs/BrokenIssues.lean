/-
**Issue lists that break off.**

The reader of issue lists stops at the first piece that is no issue. Such a piece is one of three:
behind blanks it has a column that is too large, or a message that is no literal, with or without a
column in front, or nothing that begins an issue. Nothing of the piece is kept, and nothing behind
it is looked at, so a list that breaks off is read to the issues in front of the break.

* `answersColumn`: what each answer to a column says of the text;
* `broken_iff`: the three ways to break off are all there are;
* `issueList_append_broken`, `issueList_append_ends`: what precedes a break is read as if it stood
  alone;
* `read?_of_broken`: a clause that breaks off at its first issue expects nothing;
* `issueList_cut`: both together.
-/

import CheckerFixtures.Proofs.Literals
import CheckerFixtures.Proofs.ClauseGrammar

namespace CheckerFixtures

/-! ### Columns -/

namespace Literal

/-- What an answer to a column says of the text. -/
inductive AnswersColumn : List Char → Reading Nat → Prop
  | spelled {digits rest : List Char} {column : Option Nat} : SpellsColumn digits column →
      (∀ c, rest.head? = some c → c.isDigit = false) →
      AnswersColumn (digits ++ rest) ⟨.ok column, rest⟩
  | overflow {digits rest : List Char} {value : Nat} : Denotes 10 digits value →
      wordBound ≤ value → (∀ c, rest.head? = some c → c.isDigit = false) →
      AnswersColumn (digits ++ rest) ⟨.error (.columnOverflow digits), rest⟩

/-- **What each answer to a column says of the text.** -/
theorem answersColumn (text : List Char) : AnswersColumn text (column text) := by
  have inside : ∀ c ∈ text.takeWhile Char.isDigit, c.isDigit = true := by
    intro c member
    exact List.mem_takeWhile_imp member
  have stop : ∀ c, (text.dropWhile Char.isDigit).head? = some c → c.isDigit = false := by
    intro c first
    have head := List.head?_dropWhile_not Char.isDigit text
    rw [first] at head
    exact head
  have numeral := denotes_decimal inside
  have cut : text.takeWhile Char.isDigit ++ text.dropWhile Char.isDigit = text :=
    List.takeWhile_append_dropWhile
  unfold column
  dsimp only
  split
  · rename_i none
    rw [none, List.nil_append] at cut
    rw [cut] at stop
    exact .spelled .absent stop
  · rename_i filled
    split
    · rename_i small
      have spelled := AnswersColumn.spelled (.digits filled numeral small) stop
      rwa [cut] at spelled
    · rename_i large
      have overflow := AnswersColumn.overflow numeral (Nat.not_lt.mp large) stop
      rwa [cut] at overflow

theorem ne_nil_of_large {digits : List Char} {value : Nat} (numeral : Denotes 10 digits value)
    (large : wordBound ≤ value) : digits ≠ [] := by
  rintro rfl
  have zero : (0 : Nat) = value := decimal_of_denotes numeral
  rw [← zero] at large
  exact absurd large (by decide)

theorem column_of_overflow {digits rest : List Char} {value : Nat}
    (numeral : Denotes 10 digits value) (large : wordBound ≤ value)
    (stop : ∀ c, rest.head? = some c → c.isDigit = false) :
    column (digits ++ rest) = ⟨.error (.columnOverflow digits), rest⟩ := by
  have inside := isDigit_of_denotes numeral
  simp only [column, takeWhile_run inside stop, dropWhile_run inside stop,
    if_neg (ne_nil_of_large numeral large), decimal_of_denotes numeral]
  exact if_neg (Nat.not_lt.mpr large)

/-- A message that is not missing has its quote. -/
theorem message_ne_none (behind rest : List Char) : message ('"' :: behind) ≠ ⟨.ok none, rest⟩ := by
  have answers := answersBody behind
  show messageBody behind ≠ _
  intro missing
  rw [missing] at answers
  cases answers

/-- Behind its quote a message is read or has a fault. -/
theorem exists_fault_of_unread {behind : List Char}
    (unread : ∀ text, (message ('"' :: behind)).outcome ≠ .ok (some text)) :
    ∃ fault, (message ('"' :: behind)).outcome = .error fault := by
  cases read : message ('"' :: behind) with
  | mk outcome rest =>
    cases outcome with
    | error fault => exact ⟨fault, rfl⟩
    | ok text? =>
      cases text? with
      | none => exact absurd read (message_ne_none behind rest)
      | some text => exact absurd (congrArg Reading.outcome read) (unread text)

theorem message_of_head {text : List Char} (unquoted : text.head? ≠ some '"') :
    message text = ⟨.ok none, text⟩ :=
  (message_iff text).1 unquoted

end Literal

/-! ### Pieces that are no issue -/

namespace Clause

open Literal

/-- The text begins with no issue. -/
inductive Broken : List Char → Prop
  /-- Behind blanks stand all the digits of a column that is too large. -/
  | overflow {lead digits rest : List Char} {value : Nat} : Blanks lead →
      Denotes 10 digits value → wordBound ≤ value →
      (∀ c, rest.head? = some c → c.isDigit = false) → Broken (lead ++ (digits ++ rest))
  /-- Perhaps behind a column, a quote opens a message that cannot be read. -/
  | message {lead digits gap behind : List Char} {column : Option Nat} {fault : Fault} :
      Blanks lead → SpellsColumn digits column → Blanks gap →
      (Literal.message ('"' :: behind)).outcome = .error fault →
      Broken (lead ++ (digits ++ (gap ++ '"' :: behind)))
  /-- Behind all blanks stands neither a digit nor a quote, or nothing at all. -/
  | missing {lead rest : List Char} : Blanks lead →
      (∀ c, rest.head? = some c → Text.isBlank c = false ∧ c ≠ '"' ∧ c.isDigit = false) →
      Broken (lead ++ rest)

/-- Blanks at the front of a text, and the rest of it. -/
theorem exists_blanks (text : List Char) : ∃ lead, Blanks lead ∧ lead ++ skipBlanks text = text :=
  ⟨text.takeWhile Text.isBlank, fun _ => List.mem_takeWhile_imp, List.takeWhile_append_dropWhile⟩

/-- A column is read behind blanks, and the blanks behind it are skipped, in front of a visible
character that is no digit. -/
theorem column_of_parts {lead digits gap behind : List Char} {column? : Option Nat}
    (leading : Blanks lead) (spelled : SpellsColumn digits column?) (between : Blanks gap)
    (visible : ∀ c, behind.head? = some c → Text.isBlank c = false ∧ c.isDigit = false) :
    ∃ rest, column (skipBlanks (lead ++ (digits ++ (gap ++ behind)))) = ⟨.ok column?, rest⟩ ∧
      skipBlanks rest = behind := by
  have skipped : skipBlanks behind = behind := skipBlanks_of_head fun c first => (visible c first).1
  have afterGap : skipBlanks (gap ++ behind) = behind := (skipBlanks_append between _).trans skipped
  rw [skipBlanks_append leading]
  cases spelled with
  | absent =>
    refine ⟨behind, ?_, skipped⟩
    rw [List.nil_append, afterGap]
    exact column_of_spells .absent fun c first => (visible c first).2
  | digits filled numeral small =>
    refine ⟨gap ++ behind, ?_, afterGap⟩
    rw [skipBlanks_of_head (isBlank_head_of_spells filled numeral)]
    refine column_of_spells (.digits filled numeral small) (isDigit_head_of_skipBlanks ?_)
    rw [afterGap]
    exact fun c first => (visible c first).2

/-- No issue is read off a text that begins with none. -/
theorem issue_of_broken {text : List Char} (broken : Broken text) (first : Issue) :
    (issue text).outcome ≠ .ok (some first) := by
  cases broken with
  | @overflow lead digits rest value leading numeral large stop =>
    have filled := ne_nil_of_large numeral large
    have opened : skipBlanks (lead ++ (digits ++ rest)) = digits ++ rest := by
      rw [skipBlanks_append leading]
      exact skipBlanks_of_head (isBlank_head_of_spells filled numeral)
    simp only [issue, opened, column_of_overflow numeral large stop]
    exact fun wrong => by cases wrong
  | @message lead digits gap behind column? fault leading spelled between failed =>
    have visible : ∀ c, ('"' :: behind).head? = some c →
        Text.isBlank c = false ∧ c.isDigit = false := by
      rintro c ⟨⟩
      decide
    obtain ⟨rest, read, skipped⟩ := column_of_parts leading spelled between visible
    simp only [issue, read, skipped, failed]
    exact fun wrong => by cases wrong
  | @missing lead rest leading visible =>
    have digitless : ∀ c, rest.head? = some c → Text.isBlank c = false ∧ c.isDigit = false :=
      fun c first => ⟨(visible c first).1, (visible c first).2.2⟩
    obtain ⟨left, read, skipped⟩ := column_of_parts leading .absent blanks_nil digitless
    rw [List.nil_append, List.nil_append] at read
    have unquoted : rest.head? ≠ some '"' := fun first => (visible _ first).2.1 rfl
    simp only [issue, read, skipped, message_of_head unquoted]
    exact fun wrong => by cases wrong

/-- A text that no issue is read off begins with none. -/
theorem broken_of_issue {text : List Char}
    (unread : ∀ first, (issue text).outcome ≠ .ok (some first)) : Broken text := by
  obtain ⟨lead, leading, cut⟩ := exists_blanks text
  have answers := answersColumn (skipBlanks text)
  have begins := isBlank_head_skipBlanks text
  unfold issue at unread
  dsimp only at unread
  revert unread
  generalize column (skipBlanks text) = columnRead at answers
  generalize skipBlanks text = opened at answers begins cut
  rw [← cut]
  intro unread
  cases answers with
  | overflow numeral large stop => exact .overflow leading numeral large stop
  | @spelled digits rest column? spelled stop =>
    obtain ⟨gap, between, cutRest⟩ := exists_blanks rest
    dsimp only at unread
    by_cases quoted : (skipBlanks rest).head? = some '"'
    · obtain ⟨behind, opens⟩ : ∃ behind, skipBlanks rest = '"' :: behind :=
        List.head?_eq_some_iff.mp quoted
      rw [opens] at cutRest unread
      obtain ⟨fault, failed⟩ := exists_fault_of_unread fun text read => by
        rw [read] at unread
        exact unread _ rfl
      rw [← cutRest]
      exact .message leading spelled between failed
    · rw [message_of_head quoted] at unread
      cases column? with
      | some column => exact absurd rfl (unread ⟨column, "", false⟩)
      | none =>
        cases spelled
        -- without a column the rest begins where the blanks in front of it end
        rw [List.nil_append] at begins ⊢
        have same : skipBlanks rest = rest := skipBlanks_of_head begins
        rw [same] at quoted
        refine .missing leading fun c first => ⟨begins c first, ?_, stop c first⟩
        rintro rfl
        exact quoted first

/-- **A text begins with no issue in one of three ways**, and in no other. -/
theorem broken_iff {text : List Char} :
    Broken text ↔ ∀ first, (issue text).outcome ≠ .ok (some first) :=
  ⟨issue_of_broken, broken_of_issue⟩

/-- A list is empty exactly if it breaks off at its first issue. -/
theorem issueList_eq_nil_iff {text : List Char} : issueList text = [] ↔ Broken text := by
  rw [broken_iff]
  cases read : issue text with
  | mk outcome left =>
    cases outcome with
    | error fault =>
      rw [issueList, read]
      exact iff_of_true rfl fun first wrong => by cases wrong
    | ok first? =>
      cases first? with
      | none =>
        rw [issueList, read]
        exact iff_of_true rfl fun first wrong => by cases wrong
      | some first =>
        rw [issueList_eq read]
        exact iff_of_false (List.cons_ne_nil _ _) fun unread => unread first rfl

/-! ### What precedes a break -/

/-- What ends a list without a comma: blanks, and then nothing that could belong to it. -/
def Ends (tail : List Char) : Prop :=
  ∀ c, (skipBlanks tail).head? = some c → c ≠ ',' ∧ c ≠ '"' ∧ c.isDigit = false

section Precedes

variable {text tail : List Char} {issues : List Issue}

/-- **Behind a comma a piece that is no issue is dropped**, with all that follows it. -/
theorem issueList_append_broken (spelled : SpellsIssues text issues) (broken : Broken tail) :
    issueList (text ++ ',' :: tail) = issues := by
  rw [issueList_append_of_spells spelled (stops_comma tail), skipBlanks_comma, eat?, if_pos rfl,
    Option.map_some, Option.getD_some, issueList_eq_nil_iff.mpr broken, List.append_nil]

/-- **Without a comma the list is over.** -/
theorem issueList_append_ends (spelled : SpellsIssues text issues) (ends : Ends tail) :
    issueList (text ++ tail) = issues := by
  have stops : Stops tail := fun c first => (ends c first).2
  have noComma : eat? ',' (skipBlanks tail) = none := by
    cases opened : skipBlanks tail with
    | nil => rfl
    | cons c rest =>
      have other : c ≠ ',' := (ends c (congrArg List.head? opened)).1
      rw [eat?, if_neg other]
  rw [issueList_append_of_spells spelled stops, noComma, Option.map_none, Option.getD_none,
    List.append_nil]

end Precedes

/-! ### Whole clauses -/

/-- **A clause that breaks off at its first issue expects nothing**, unless it is blank behind its
colon. -/
theorem read?_of_broken {lead code tail : List Char} (leading : Blanks lead) (isCode : IsCode code)
    (filled : ¬ Blanks tail) (broken : Broken tail) :
    read? (lead ++ '[' :: (code ++ ']' :: ':' :: tail)) = none := by
  have visible : Text.trim tail ≠ [] := fun blank => filled ((Text.trim_eq_nil_iff tail).mp blank)
  rw [read?, shape?_of_code leading isCode]
  simp only [afterColon]
  rw [if_neg visible, issueList_eq_nil_iff.mpr broken]

/-- A clause that cannot be read may be left out. -/
theorem pragmaOf?_of_unread {clause : List Char} (unread : read? clause = none)
    (before after : List (List Char)) :
    pragmaOf? (before ++ clause :: after) = pragmaOf? (before ++ after) := by
  unfold pragmaOf?
  rw [List.filterMap_append, List.filterMap_cons, unread, ← List.filterMap_append]

/-- **A list that breaks off is read to what precedes the break.** Behind a comma a piece that is no
issue is dropped, with a column that it may have and with all that follows; without a comma, the
list is over at the first character that could not belong to it. And a clause whose list breaks off
at its first issue might as well be missing from its pragma. -/
theorem issueList_cut :
    (∀ {text : List Char} {issues : List Issue}, SpellsIssues text issues →
      (∀ {tail : List Char}, Broken tail → issueList (text ++ ',' :: tail) = issues) ∧
      ∀ {tail : List Char}, Ends tail → issueList (text ++ tail) = issues) ∧
    ∀ {lead code tail : List Char}, Blanks lead → IsCode code → ¬ Blanks tail → Broken tail →
      ∀ {body : List Char} {before after : List (List Char)},
        splitClauses body =
          before ++ (lead ++ '[' :: (code ++ ']' :: ':' :: tail)) :: after →
        parse? body = pragmaOf? (before ++ after) := by
  constructor
  · intro text issues spelled
    exact ⟨issueList_append_broken spelled, issueList_append_ends spelled⟩
  · intro lead code tail leading isCode filled broken body before after cut
    have unread := read?_of_broken leading isCode filled broken
    rw [parse?_eq_pragmaOf?, cut]
    exact pragmaOf?_of_unread unread before after

/-- A list of one issue before a cut-off message with a column, and before a word; and a clause
whose first column is one too large. -/
theorem issueList_cut_unclosed :
    issueList "1 \"a\", 2 \"b, 3".toList = [⟨1, "a", false⟩] ∧
      issueList "1 \"a\" since, 2".toList = [⟨1, "a", false⟩] ∧
      parse? "[E1]; [E2]: 18446744073709551616, 1; [E3]".toList =
        pragmaOf? ["[E1]".toList, " [E3]".toList] := by
  have one : Denotes 10 ['1'] 1 := denotes_toDigits 1
  have two : Denotes 10 ['2'] 2 := denotes_toDigits 2
  have letter : Spells ['a'] ['a'] := .cons (.raw (by decide) (by decide)) .nil
  have list : SpellsIssues "1 \"a\"".toList [⟨1, "a", false⟩] :=
    .last (.parts blanks_nil (.digits (by simp) one (by decide)) blanks_space (.quoted letter)
      blanks_nil (.inl (by simp)))
  have unclosed : (Literal.message "\"b, 3".toList).outcome = .error .unterminated := by
    decide +kernel
  have broken : Broken " 2 \"b, 3".toList :=
    .message blanks_space (.digits (by simp) two (by decide)) blanks_space unclosed
  have ends : Ends " since, 2".toList := by
    rintro c ⟨⟩
    decide
  have large : Denotes 10 "18446744073709551616".toList wordBound :=
    denotes_toDigits 18446744073709551616
  have stop : ∀ c, ", 1".toList.head? = some c → c.isDigit = false := by
    rintro c ⟨⟩
    decide
  have overflow : Broken " 18446744073709551616, 1".toList :=
    .overflow blanks_space large (Nat.le_refl _) stop
  have code : IsCode "E2".toList := by decide
  have cut : splitClauses "[E1]; [E2]: 18446744073709551616, 1; [E3]".toList =
      ["[E1]".toList] ++ (" ".toList ++ '[' :: ("E2".toList ++ ']' :: ':' ::
        " 18446744073709551616, 1".toList)) :: [" [E3]".toList] := rfl
  refine ⟨(issueList_cut.1 list).1 broken, (issueList_cut.1 list).2 ends, ?_⟩
  exact issueList_cut.2 blanks_space code (by decide) overflow cut

end Clause

end CheckerFixtures
