/-
**The grammar of issue lists.**

An issue is a column, a message, or both, with blanks where they may stand; issues are separated
by commas. A list in any spelling is read to the issues that it spells.

* `issue_of_spells`: one issue is read, up to blanks, in front of anything that cannot belong to it;
* `issueList_append_of_spells`: a whole list is read to its issues, whatever cannot belong to the
  last of them stands behind it.
-/

import CheckerFixtures.Proofs.Spelling
import CheckerFixtures.Pragma.Clause

namespace CheckerFixtures

/-! ### The grammar -/

/-- A text of blanks, possibly empty. -/
def Blanks (text : List Char) : Prop := ∀ c ∈ text, Text.isBlank c = true

instance (text : List Char) : Decidable (Blanks text) := List.decidableBAll _ text

theorem blanks_nil : Blanks [] := by decide

theorem blanks_space : Blanks [' '] := by decide

theorem blanks_append {first second : List Char} (before : Blanks first) (after : Blanks second) :
    Blanks (first ++ second) := by
  intro c member
  rcases List.mem_append.mp member with left | right
  · exact before c left
  · exact after c right

theorem blanks_of_cons {c : Char} {text : List Char} (blanks : Blanks (c :: text)) :
    Text.isBlank c = true ∧ Blanks text :=
  ⟨blanks c List.mem_cons_self, fun d member => blanks d (List.mem_cons_of_mem c member)⟩

/-- A blank is no visible character. -/
theorem ne_of_isBlank {c visible : Char} (blank : Text.isBlank c = true)
    (seen : Text.isBlank visible = false) : c ≠ visible := by
  rintro rfl
  rw [blank] at seen
  cases seen

/-- A column that fits a machine word, or nothing. -/
inductive SpellsColumn : List Char → Option Nat → Prop
  | absent : SpellsColumn [] none
  | digits {text : List Char} {column : Nat} : text ≠ [] → Denotes 10 text column →
      column < wordBound → SpellsColumn text (some column)

/-- A message in quotes, or nothing. -/
inductive SpellsMessage : List Char → Option (List Char) → Prop
  | absent : SpellsMessage [] none
  | quoted {text message : List Char} : Spells text message →
      SpellsMessage ('"' :: (text ++ ['"'])) (some message)

/-- What an issue expects; an absent column is zero, and an absent message empty. -/
def issueOf (column : Option Nat) (message : Option (List Char)) : Issue :=
  ⟨column.getD 0, String.ofList (message.getD []), false⟩

/-- An issue with the blanks around its parts; one of the parts must be there. -/
inductive SpellsIssue : List Char → Issue → Prop
  | parts {lead digits gap quoted tail : List Char} {column : Option Nat}
      {message : Option (List Char)} : Blanks lead → SpellsColumn digits column → Blanks gap →
      SpellsMessage quoted message → Blanks tail → column ≠ none ∨ message ≠ none →
      SpellsIssue (lead ++ (digits ++ (gap ++ (quoted ++ tail)))) (issueOf column message)

/-- Issues separated by commas; there is at least one. -/
inductive SpellsIssues : List Char → List Issue → Prop
  | last {text : List Char} {issue : Issue} : SpellsIssue text issue → SpellsIssues text [issue]
  | cons {text rest : List Char} {issue : Issue} {issues : List Issue} :
      SpellsIssue text issue → SpellsIssues rest issues →
      SpellsIssues (text ++ ',' :: rest) (issue :: issues)

namespace Clause

open Literal

/-! ### Blanks -/

theorem skipBlanks_append {blanks : List Char} (all : Blanks blanks) (text : List Char) :
    skipBlanks (blanks ++ text) = skipBlanks text :=
  List.dropWhile_append_of_pos all

/-- A text that begins with no blank is left as it is. -/
theorem skipBlanks_of_head {text : List Char}
    (head : ∀ c, text.head? = some c → Text.isBlank c = false) : skipBlanks text = text := by
  have empty : ∀ c ∈ ([] : List Char), Text.isBlank c = true := by simp
  exact dropWhile_run empty head

theorem isBlank_head_skipBlanks (text : List Char) :
    ∀ c, (skipBlanks text).head? = some c → Text.isBlank c = false := by
  intro c first
  have head := List.head?_dropWhile_not Text.isBlank text
  rw [skipBlanks] at first
  rw [first] at head
  exact head

theorem skipBlanks_skipBlanks (text : List Char) :
    skipBlanks (skipBlanks text) = skipBlanks text :=
  skipBlanks_of_head (isBlank_head_skipBlanks text)

/-- Blanks are controls, the space, or beyond ASCII. -/
theorem toNat_of_isBlank {c : Char} (blank : Text.isBlank c = true) :
    c.toNat ≤ 0x20 ∨ 0x85 ≤ c.toNat := by
  simp only [Text.isBlank, Text.blankRanges, List.any_cons, List.any_nil, Bool.or_false,
    Bool.or_eq_true, Bool.and_eq_true, decide_eq_true_eq] at blank
  omega

/-- A visible ASCII character is no blank. -/
theorem isBlank_eq_false {c : Char} (low : 0x21 ≤ c.toNat) (high : c.toNat ≤ 0x84) :
    Text.isBlank c = false := by
  cases blank : Text.isBlank c with
  | false => rfl
  | true =>
    have := toNat_of_isBlank blank
    omega

theorem isBlank_of_isDigit {c : Char} (digit : c.isDigit = true) : Text.isBlank c = false := by
  have := toNat_of_isDigit digit
  exact isBlank_eq_false (by omega) (by omega)

/-! ### One issue -/

/-- What may stand behind an issue: blanks, and then nothing that would belong to it. -/
def Stops (rest : List Char) : Prop :=
  ∀ c, (skipBlanks rest).head? = some c → c ≠ '"' ∧ c.isDigit = false

theorem isDigit_head_of_skipBlanks {text : List Char}
    (behind : ∀ c, (skipBlanks text).head? = some c → c.isDigit = false) :
    ∀ c, text.head? = some c → c.isDigit = false := by
  intro c first
  cases blank : Text.isBlank c with
  | true =>
    cases digit : c.isDigit with
    | false => rfl
    | true =>
      rw [isBlank_of_isDigit digit] at blank
      cases blank
  | false =>
    refine behind c ?_
    rw [skipBlanks_of_head]
    · exact first
    · intro d other
      rw [first] at other
      cases other
      exact blank

theorem column_of_spells {text rest : List Char} {at? : Option Nat}
    (spelled : SpellsColumn text at?) (stop : ∀ c, rest.head? = some c → c.isDigit = false) :
    column (text ++ rest) = ⟨.ok at?, rest⟩ := by
  cases spelled with
  | absent =>
    have empty : ∀ c ∈ ([] : List Char), c.isDigit = true := by simp
    have none : rest.takeWhile Char.isDigit = [] := takeWhile_run empty stop
    rw [List.nil_append, column, none]
    rfl
  | digits filled numeral small =>
    have inside := isDigit_of_denotes numeral
    simp only [column, takeWhile_run inside stop, dropWhile_run inside stop, if_neg filled,
      decimal_of_denotes numeral]
    exact if_pos small

theorem message_of_spellsMessage {text rest : List Char} {message? : Option (List Char)}
    (spelled : SpellsMessage text message?) (stop : message? = none → rest.head? ≠ some '"') :
    message (text ++ rest) = ⟨.ok message?, rest⟩ := by
  cases spelled with
  | absent =>
    rw [List.nil_append]
    cases rest with
    | nil => rfl
    | cons c rest =>
      have other : c ≠ '"' := fun same => stop rfl (by rw [same]; rfl)
      rw [message, eat?, if_neg other]
  | quoted spelled =>
    rw [List.cons_append, List.append_assoc]
    exact message_of_spells spelled rest

/-- Behind a column and blanks stands the message, and what is left begins like the rest, up to
blanks: without a message the blanks are read on up to the rest. -/
theorem separated_of_spells {quoted tail rest : List Char} {message? : Option (List Char)}
    (messageSpelled : SpellsMessage quoted message?) (behind : Blanks tail) (stops : Stops rest) :
    ∃ second,
      skipBlanks (quoted ++ (tail ++ rest)) = quoted ++ second ∧
      (∀ c, (quoted ++ second).head? = some c → c.isDigit = false) ∧
      (message? = none → second.head? ≠ some '"') ∧
      skipBlanks second = skipBlanks rest := by
  have quote : Text.isBlank '"' = false ∧ '"'.isDigit = false := by decide
  cases messageSpelled with
  | absent =>
    refine ⟨skipBlanks rest, skipBlanks_append behind rest, fun c first => ?_, fun _ first => ?_,
      skipBlanks_skipBlanks rest⟩
    · exact (stops c first).2
    · exact (stops '"' first).1 rfl
  | quoted spelled =>
    refine ⟨tail ++ rest, skipBlanks_of_head ?_, ?_, fun none => ?_, skipBlanks_append behind rest⟩
    · rintro c ⟨⟩
      exact quote.1
    · rintro c ⟨⟩
      exact quote.2
    · cases none

/-- A column of digits begins with no blank. -/
theorem isBlank_head_of_spells {digits rest : List Char} {value : Nat}
    (filled : digits ≠ []) (numeral : Denotes 10 digits value) :
    ∀ c, (digits ++ rest).head? = some c → Text.isBlank c = false := by
  intro c first
  cases digits with
  | nil => exact absurd rfl filled
  | cons d digits =>
    rw [List.cons_append, List.head?_cons] at first
    obtain rfl := Option.some.inj first
    exact isBlank_of_isDigit (isDigit_of_denotes numeral d List.mem_cons_self)

/-- The blanks in an issue separate its parts: behind the leading ones stand its digits, behind the
next ones its message, and what is left begins like the rest, up to blanks. -/
theorem parts_of_spells {lead digits gap quoted tail rest : List Char} {at? : Option Nat}
    {message? : Option (List Char)} (leading : Blanks lead) (columnSpelled : SpellsColumn digits at?)
    (between : Blanks gap) (messageSpelled : SpellsMessage quoted message?) (behind : Blanks tail)
    (stops : Stops rest) :
    ∃ first second,
      skipBlanks (lead ++ (digits ++ (gap ++ (quoted ++ tail))) ++ rest) = digits ++ first ∧
      (∀ c, first.head? = some c → c.isDigit = false) ∧
      skipBlanks first = quoted ++ second ∧
      (message? = none → second.head? ≠ some '"') ∧
      skipBlanks second = skipBlanks rest := by
  obtain ⟨second, separated, notDigit, notQuote, same⟩ :=
    separated_of_spells messageSpelled behind stops
  have afterGap : skipBlanks (gap ++ (quoted ++ (tail ++ rest))) = quoted ++ second :=
    (skipBlanks_append between _).trans separated
  rw [List.append_assoc, List.append_assoc, List.append_assoc, List.append_assoc,
    skipBlanks_append leading]
  cases columnSpelled with
  | absent =>
    -- the blanks in front of the message are all skipped at once
    refine ⟨quoted ++ second, second, afterGap, notDigit, ?_, notQuote, same⟩
    rw [← separated, skipBlanks_skipBlanks]
  | digits filled numeral small =>
    refine ⟨gap ++ (quoted ++ (tail ++ rest)), second, ?_,
      isDigit_head_of_skipBlanks (by rwa [afterGap]), afterGap, notQuote, same⟩
    exact skipBlanks_of_head (isBlank_head_of_spells filled numeral)

/-- **One issue in any spelling is read**, up to blanks, in front of what cannot belong to it. -/
theorem issue_of_spells {text : List Char} {expected : Issue} (spelled : SpellsIssue text expected)
    {rest : List Char} (stops : Stops rest) :
    ∃ left, issue (text ++ rest) = ⟨.ok (some expected), left⟩ ∧
      skipBlanks left = skipBlanks rest := by
  obtain ⟨leading, columnSpelled, between, messageSpelled, behind, one⟩ := spelled
  rename_i lead digits gap quoted tail at? message?
  obtain ⟨first, second, opened, notDigit, separated, notQuote, same⟩ :=
    parts_of_spells leading columnSpelled between messageSpelled behind stops
  refine ⟨second, ?_, same⟩
  simp only [issue, opened, column_of_spells columnSpelled notDigit, separated,
    message_of_spellsMessage messageSpelled notQuote]
  cases message? with
  | none =>
    cases at? with
    | none => simp at one
    | some column => rfl
  | some message => rfl

/-! ### Issue lists -/

/-- Nothing behind a list, and a comma, end an issue. -/
theorem stops_nil : Stops [] := by
  rintro c ⟨⟩

theorem stops_comma (rest : List Char) : Stops (',' :: rest) := by
  rintro c ⟨⟩
  decide

theorem afterIssue?_of_left {text left : List Char} {outcome : Except Fault (Option Issue)}
    (read : issue text = ⟨outcome, left⟩) : afterIssue? text = eat? ',' (skipBlanks left) := by
  rw [afterIssue?, read]

/-- An issue list is its first issue and, behind a comma, the further ones. -/
theorem issueList_eq {text left : List Char} {first : Issue}
    (read : issue text = ⟨.ok (some first), left⟩) :
    issueList text = first :: ((eat? ',' (skipBlanks left)).map issueList).getD [] := by
  have more := afterIssue?_of_left read
  rw [issueList, read]
  simp only
  split
  · rename_i rest eaten
    rw [more] at eaten
    rw [eaten]
    rfl
  · rename_i none
    rw [more] at none
    rw [none]
    rfl

theorem skipBlanks_comma (rest : List Char) : skipBlanks (',' :: rest) = ',' :: rest := by
  refine skipBlanks_of_head ?_
  rintro c ⟨⟩
  decide

/-- **An issue list in any spelling is read to its issues**, in front of what cannot belong to the
last of them; behind a comma the list goes on. -/
theorem issueList_append_of_spells {text : List Char} {issues : List Issue}
    (spelled : SpellsIssues text issues) {rest : List Char} (stops : Stops rest) :
    issueList (text ++ rest) =
      issues ++ ((eat? ',' (skipBlanks rest)).map issueList).getD [] := by
  induction spelled with
  | last spelledIssue =>
    obtain ⟨left, read, same⟩ := issue_of_spells spelledIssue stops
    rw [issueList_eq read, same]
    rfl
  | @cons text more first issues spelledIssue _ ih =>
    obtain ⟨left, read, same⟩ := issue_of_spells spelledIssue (stops_comma (more ++ rest))
    rw [List.append_assoc, List.cons_append, issueList_eq read, same, skipBlanks_comma, eat?,
      if_pos rfl, Option.map_some, Option.getD_some, ih]
    rfl

/-- An issue list in any spelling is read to its issues. -/
theorem issueList_of_spells {text : List Char} {issues : List Issue}
    (spelled : SpellsIssues text issues) : issueList text = issues := by
  have read := issueList_append_of_spells spelled stops_nil
  rw [List.append_nil] at read
  exact read.trans (List.append_nil issues)

end Clause

end CheckerFixtures
