/-
**Blanks at the end of a comment mean nothing.**

Blanks may be added while any reader is at work: behind an unclosed bracket, inside a message
without its quote, in the middle of an escape, behind a backslash. Each reader finds the same, or
the same fails, and leaves the added blanks unread.

* `decoded?_escape_append`, `answer?_messageBody_append`: escapes and messages;
* `issueList_append`: issue lists;
* `read?_append`: clauses;
* `parse?_append`: whole comments.
-/

import CheckerFixtures.Proofs.ClauseGrammar
import Mathlib.Data.List.TakeWhile

namespace CheckerFixtures

namespace Literal

/-! ### Runs of characters -/

section Runs

variable {test : Char → Bool}

/-- A run that ends inside a text is not changed by what follows the text. -/
theorem takeWhile_append_of_stop {text rest : List Char} {stop : Char}
    (ends : text.dropWhile test = stop :: rest) (more : List Char) :
    (text ++ more).takeWhile test = text.takeWhile test := by
  have whole : text.takeWhile test ++ stop :: rest = text := by
    rw [← ends, List.takeWhile_append_dropWhile]
  have last := List.head?_dropWhile_not test text
  rw [ends] at last
  conv => lhs; rw [← whole, List.append_assoc]
  refine takeWhile_run (fun _ => List.mem_takeWhile_imp) ?_
  rintro c ⟨⟩
  exact last

theorem dropWhile_append_of_stop {text rest : List Char} {stop : Char}
    (ends : text.dropWhile test = stop :: rest) (more : List Char) :
    (text ++ more).dropWhile test = stop :: (rest ++ more) := by
  rw [List.dropWhile_append, ends, if_neg (by simp), List.cons_append]

variable {more : List Char} (none : ∀ c ∈ more, test c = false) (text : List Char)

include none

theorem head?_dropWhile_append :
    ∀ c, (text.dropWhile test ++ more).head? = some c → test c = false := by
  intro c first
  cases left : text.dropWhile test with
  | nil =>
    rw [left, List.nil_append] at first
    exact none c (List.mem_of_head? first)
  | cons d rest =>
    have head := List.head?_dropWhile_not test text
    rw [left] at head first
    rw [← Option.some.inj first]
    exact head

theorem takeWhile_append : (text ++ more).takeWhile test = text.takeWhile test := by
  have inside : ∀ c ∈ text.takeWhile test, test c = true := fun _ => List.mem_takeWhile_imp
  conv => lhs; rw [← List.takeWhile_append_dropWhile (p := test) (l := text), List.append_assoc]
  exact takeWhile_run inside (head?_dropWhile_append none text)

theorem dropWhile_append : (text ++ more).dropWhile test = text.dropWhile test ++ more := by
  have inside : ∀ c ∈ text.takeWhile test, test c = true := fun _ => List.mem_takeWhile_imp
  conv => lhs; rw [← List.takeWhile_append_dropWhile (p := test) (l := text), List.append_assoc]
  exact dropWhile_run inside (head?_dropWhile_append none text)

end Runs

theorem isHexDigit_of_isBlank {c : Char} (blank : Text.isBlank c = true) :
    isHexDigit c = false := by
  cases hex : isHexDigit c with
  | false => rfl
  | true =>
    have range := toNat_of_isHexDigit hex
    rw [Clause.isBlank_eq_false (by omega) (by omega)] at blank
    cases blank

theorem isDigit_of_isBlank {c : Char} (blank : Text.isBlank c = true) : c.isDigit = false := by
  cases digit : c.isDigit with
  | false => rfl
  | true =>
    rw [Clause.isBlank_of_isDigit digit] at blank
    cases blank

/-! ### What counts of an answer -/

/-- The character of an escape and what is left behind it, if it is one. -/
def Escape.decoded? : Escape → Option (Char × List Char)
  | denotes c rest => some (c, rest)
  | malformed _ _ => none
  | cutOff => none

/-- What a reader answers and leaves unread, if it finds no fault. -/
def Reading.answer? {α : Type} (reading : Reading α) : Option (Option α × List Char) :=
  match reading.outcome with
  | .ok value => some (value, reading.rest)
  | .error _ => none

/-- The same answer with more left unread. -/
def leaving {α : Type} (more : List Char) (answer : α × List Char) : α × List Char :=
  (answer.1, answer.2 ++ more)

theorem eq_denotes_of_decoded? {found : Escape} {c : Char} {rest : List Char}
    (decoded : found.decoded? = some (c, rest)) : found = .denotes c rest := by
  cases found with
  | denotes d left =>
    obtain ⟨rfl, rfl⟩ := Prod.mk.inj (Option.some.inj decoded)
    rfl
  | malformed taken left => cases decoded
  | cutOff => cases decoded

theorem decoded?_ofScalar (taken rest : List Char) (value : Option Char) :
    (Escape.ofScalar taken rest value).decoded? = value.map fun c => (c, rest) := by
  cases value <;> rfl

/-! ### Escapes -/

theorem lookup_of_isBlank {c : Char} (blank : Text.isBlank c = true) :
    simpleEscapes.lookup c = none := by
  have visible : ∀ pair ∈ simpleEscapes, Text.isBlank pair.1 = false := by decide
  refine List.lookup_eq_none_iff.mpr ?_
  intro pair member
  rw [bne_iff_ne]
  rintro rfl
  rw [visible pair member] at blank
  cases blank

section Blanks

variable {more : List Char} (blanks : Blanks more)

include blanks

theorem decoded?_fixedEscape_append (letter : Char) (count bound : Nat) (text : List Char) :
    (fixedEscape letter count bound (text ++ more)).decoded? =
      (fixedEscape letter count bound text).decoded?.map (leaving more) := by
  have digits : ((text ++ more).take count).takeWhile isHexDigit =
      (text.take count).takeWhile isHexDigit := by
    rw [List.take_append]
    refine takeWhile_append ?_ _
    intro c member
    exact isHexDigit_of_isBlank (blanks c (List.mem_of_mem_take member))
  have inside : ((text.take count).takeWhile isHexDigit).length ≤ text.length := by
    have taken : (text.take count).takeWhile isHexDigit <+: text.take count :=
      List.takeWhile_prefix isHexDigit
    exact Nat.le_trans taken.length_le (List.length_take_le' count text)
  unfold fixedEscape
  simp only [digits]
  generalize (text.take count).takeWhile isHexDigit = run at inside
  by_cases whole : run.length = count
  · rw [if_pos whole, if_pos whole, decoded?_ofScalar, decoded?_ofScalar,
      List.drop_append_of_le_length inside, Option.map_map]
    rfl
  · rw [if_neg whole, if_neg whole]
    split <;> split <;> rfl

theorem decoded?_bracedEscape_append (text : List Char) :
    (bracedEscape (text ++ more)).decoded? = (bracedEscape text).decoded?.map (leaving more) := by
  have none : ∀ c ∈ more, isHexDigit c = false := fun c member =>
    isHexDigit_of_isBlank (blanks c member)
  unfold bracedEscape
  simp only [takeWhile_append none, dropWhile_append none]
  generalize text.takeWhile isHexDigit = digits
  cases text.dropWhile isHexDigit with
  | nil =>
    -- no digit follows any more, and a blank is not the closing brace
    cases more with
    | nil => rfl
    | cons c more =>
      have notBrace : c ≠ '}' := ne_of_isBlank (blanks_of_cons blanks).1 rfl
      simp only [List.nil_append]
      rw [if_neg fun closed => notBrace closed.1]
      rfl
  | cons c rest =>
    simp only [List.cons_append]
    split
    · rw [decoded?_ofScalar, decoded?_ofScalar, Option.map_map]
      rfl
    · rfl

/-- A backslash in front of blanks escapes nothing. -/
theorem decoded?_escape_blanks : (escape more).decoded? = none := by
  cases more with
  | nil => rfl
  | cons c more =>
    obtain ⟨blank, -⟩ := blanks_of_cons blanks
    have notX : c ≠ 'x' := ne_of_isBlank blank rfl
    have notU : c ≠ 'u' := ne_of_isBlank blank rfl
    have notLongU : c ≠ 'U' := ne_of_isBlank blank rfl
    rw [escape_of_letter notX notU notLongU, lookup_of_isBlank blank]
    rfl

/-- **Blanks behind an escape are left unread**, and complete no escape that was cut off. -/
theorem decoded?_escape_append (text : List Char) :
    (escape (text ++ more)).decoded? = (escape text).decoded?.map (leaving more) := by
  fun_cases escape text with
  | case1 => exact decoded?_escape_blanks blanks
  | case2 rest => exact decoded?_fixedEscape_append blanks ..
  | case3 rest => exact decoded?_bracedEscape_append blanks rest
  | case4 rest notBrace =>
    rw [List.cons_append, escape]
    · exact decoded?_fixedEscape_append blanks ..
    · intro behind same
      cases rest with
      | nil =>
        rw [List.nil_append] at same
        exact ne_of_isBlank (blanks '{' (same ▸ List.mem_cons_self)) rfl rfl
      | cons d rest =>
        cases same
        exact notBrace rest rfl
  | case5 rest => exact decoded?_fixedEscape_append blanks ..
  | case6 c rest notX _ notU notLongU denoted found =>
    rw [List.cons_append, escape_of_letter notX notU notLongU, found]
    rfl
  | case7 c rest notX _ notU notLongU unknown =>
    rw [List.cons_append, escape_of_letter notX notU notLongU, unknown]
    rfl

/-! ### Messages and columns -/

omit blanks in
theorem answer?_push (c : Char) (reading : Reading (List Char)) :
    (reading.push c).answer? =
      reading.answer?.map fun read => (read.1.map (c :: ·), read.2) := by
  unfold Reading.push Reading.answer?
  cases reading.outcome <;> rfl

omit blanks in
theorem map_push_leaving (c : Char) (answer : Option (Option (List Char) × List Char)) :
    (answer.map fun read => (read.1.map (c :: ·), read.2)).map (leaving more) =
      (answer.map (leaving more)).map fun read => (read.1.map (c :: ·), read.2) := by
  rw [Option.map_map, Option.map_map]
  rfl

theorem answer?_messageBody_blanks : (messageBody more).answer? = none := by
  induction more with
  | nil =>
    rw [messageBody]
    rfl
  | cons c more ih =>
    obtain ⟨blank, later⟩ := blanks_of_cons blanks
    have notQuote : c ≠ '"' := ne_of_isBlank blank rfl
    have notBackslash : c ≠ '\\' := ne_of_isBlank blank rfl
    rw [messageBody_raw notQuote notBackslash, answer?_push, ih later]
    rfl

omit blanks in
theorem answer?_messageBody_fault {text : List Char} (fault : (escape text).decoded? = none) :
    (messageBody ('\\' :: text)).answer? = none := by
  rw [messageBody]
  split
  · rename_i read
    rw [read] at fault
    cases fault
  · rfl
  · rfl

/-- **Blanks behind a message are left unread**, and end no message that was not ended. -/
theorem answer?_messageBody_append (text : List Char) :
    (messageBody (text ++ more)).answer? = (messageBody text).answer?.map (leaving more) := by
  fun_induction messageBody text with
  | case1 => exact answer?_messageBody_blanks blanks
  | case2 rest =>
    rw [List.cons_append, messageBody]
    rfl
  | case3 rest c behind read shorter ih =>
    have longer : escape (rest ++ more) = .denotes c (behind ++ more) := by
      refine eq_denotes_of_decoded? ?_
      rw [decoded?_escape_append blanks, read]
      rfl
    rw [List.cons_append, messageBody_escape longer, answer?_push, answer?_push, ih,
      map_push_leaving]
  | case4 rest taken behind read =>
    rw [List.cons_append]
    refine answer?_messageBody_fault ?_
    rw [decoded?_escape_append blanks, read]
    rfl
  | case5 rest read =>
    rw [List.cons_append]
    refine answer?_messageBody_fault ?_
    rw [decoded?_escape_append blanks, read]
    rfl
  | case6 c rest notQuote notBackslash ih =>
    rw [List.cons_append, messageBody_raw notQuote notBackslash, answer?_push, answer?_push, ih,
      map_push_leaving]

theorem answer?_message_append (text : List Char) :
    (message (text ++ more)).answer? = (message text).answer?.map (leaving more) := by
  cases text with
  | nil =>
    rw [List.nil_append]
    cases more with
    | nil => rfl
    | cons c more =>
      have notQuote : c ≠ '"' := ne_of_isBlank (blanks_of_cons blanks).1 rfl
      rw [message, eat?, if_neg notQuote]
      rfl
  | cons c text =>
    rw [List.cons_append, message, message, eat?, eat?]
    by_cases quote : c = '"'
    · rw [if_pos quote, if_pos quote]
      exact answer?_messageBody_append blanks text
    · rw [if_neg quote, if_neg quote]
      rfl

theorem answer?_column_append (text : List Char) :
    (column (text ++ more)).answer? = (column text).answer?.map (leaving more) := by
  have none : ∀ c ∈ more, c.isDigit = false := fun c member =>
    isDigit_of_isBlank (blanks c member)
  unfold column
  simp only [takeWhile_append none, dropWhile_append none]
  split
  · rfl
  split
  · rfl
  · rfl

end Blanks

end Literal

namespace Clause

open Literal

/-! ### Issues -/

section Blanks

variable {more : List Char} (blanks : Blanks more)

include blanks

/-- Blanks at the end are skipped only where nothing else is left. -/
theorem skipBlanks_append_blanks (text : List Char) :
    ∃ left, Blanks left ∧ skipBlanks (text ++ more) = skipBlanks text ++ left := by
  unfold skipBlanks
  rw [List.dropWhile_append]
  by_cases empty : (text.dropWhile Text.isBlank).isEmpty = true
  · refine ⟨[], blanks_nil, ?_⟩
    rw [if_pos empty, List.isEmpty_iff.mp empty, (Text.dropWhile_eq_nil_iff _ more).mpr blanks]
    rfl
  · exact ⟨more, blanks, if_neg empty⟩

theorem eat?_comma_append (text : List Char) :
    eat? ',' (text ++ more) = (eat? ',' text).map (· ++ more) := by
  cases text with
  | nil =>
    rw [List.nil_append]
    cases more with
    | nil => rfl
    | cons c more =>
      have notComma : c ≠ ',' := ne_of_isBlank (blanks_of_cons blanks).1 rfl
      show eat? ',' (c :: more) = none
      rw [eat?, if_neg notComma]
  | cons c text =>
    rw [List.cons_append, eat?, eat?]
    split
    · rfl
    · rfl

omit blanks in
/-- An issue is what its column and its message are. -/
theorem answer?_issue (text : List Char) :
    (issue text).answer? =
      (column (skipBlanks text)).answer?.bind fun first =>
        (message (skipBlanks first.2)).answer?.map fun second =>
          (match second.1 with
            | none => first.1.map fun column => ⟨column, "", false⟩
            | some text => some ⟨first.1.getD 0, String.ofList text, false⟩, second.2) := by
  unfold issue
  simp only
  cases column (skipBlanks text) with
  | mk outcome rest =>
    cases outcome with
    | error fault => rfl
    | ok at? =>
      show _ = (message (skipBlanks rest)).answer?.map _
      cases message (skipBlanks rest) with
      | mk outcome rest =>
        cases outcome with
        | error fault => rfl
        | ok found => cases found <;> rfl

theorem answer?_issue_append (text : List Char) :
    ∃ left, Blanks left ∧
      (issue (text ++ more)).answer? = (issue text).answer?.map (leaving left) := by
  rw [answer?_issue, answer?_issue]
  obtain ⟨first, firstBlanks, opened⟩ := skipBlanks_append_blanks blanks text
  rw [opened, answer?_column_append firstBlanks]
  cases (column (skipBlanks text)).answer? with
  | none => exact ⟨[], blanks_nil, rfl⟩
  | some read =>
    obtain ⟨second, secondBlanks, separated⟩ := skipBlanks_append_blanks firstBlanks read.2
    refine ⟨second, secondBlanks, ?_⟩
    show (message (skipBlanks (read.2 ++ first))).answer?.map _ =
      ((message (skipBlanks read.2)).answer?.map _).map _
    rw [separated, answer?_message_append secondBlanks, Option.map_map, Option.map_map]
    rfl

omit blanks in
/-- An issue list by what its first issue answers. -/
theorem issueList_eq_of_answer? (text : List Char) :
    issueList text =
      match (issue text).answer? with
      | some (some first, left) => first :: ((eat? ',' (skipBlanks left)).map issueList).getD []
      | _ => [] := by
  cases read : issue text with
  | mk outcome left =>
    cases outcome with
    | error fault =>
      rw [issueList, read]
      rfl
    | ok found =>
      cases found with
      | none =>
        rw [issueList, read]
        rfl
      | some first => exact issueList_eq read

omit blanks in
theorem answer?_of_outcome {α : Type} {reading : Reading α} {value : Option α}
    (outcome : reading.outcome = .ok value) : reading.answer? = some (value, reading.rest) := by
  unfold Reading.answer?
  rw [outcome]

/-- **Blanks behind an issue list change nothing.** -/
theorem issueList_append (text : List Char) : issueList (text ++ more) = issueList text := by
  fun_induction issueList text generalizing more with
  | case1 text first outcome rest eaten shorter ih =>
    obtain ⟨left, leftBlanks, same⟩ := answer?_issue_append blanks text
    obtain ⟨last, lastBlanks, skipped⟩ := skipBlanks_append_blanks leftBlanks (issue text).rest
    unfold afterIssue? at eaten
    rw [issueList_eq_of_answer?, same, answer?_of_outcome outcome]
    show first :: ((eat? ',' (skipBlanks ((issue text).rest ++ left))).map issueList).getD [] = _
    rw [skipped, eat?_comma_append lastBlanks, eaten, Option.map_some, Option.map_some, ih lastBlanks]
    rfl
  | case2 text first outcome none =>
    obtain ⟨left, leftBlanks, same⟩ := answer?_issue_append blanks text
    obtain ⟨last, lastBlanks, skipped⟩ := skipBlanks_append_blanks leftBlanks (issue text).rest
    unfold afterIssue? at none
    rw [issueList_eq_of_answer?, same, answer?_of_outcome outcome]
    show first :: ((eat? ',' (skipBlanks ((issue text).rest ++ left))).map issueList).getD [] = _
    rw [skipped, eat?_comma_append lastBlanks, none]
    rfl
  | case3 text failed =>
    obtain ⟨left, leftBlanks, same⟩ := answer?_issue_append blanks text
    rw [issueList_eq_of_answer?, same]
    unfold Reading.answer?
    cases outcome : (issue text).outcome with
    | error fault => rfl
    | ok found =>
      cases found with
      | none => rfl
      | some first => exact absurd outcome (failed first)

/-! ### Clauses -/

theorem afterColon_append (text : List Char) :
    ∃ left, Blanks left ∧ afterColon (text ++ more) = afterColon text ++ left := by
  cases text with
  | nil =>
    refine ⟨[], blanks_nil, ?_⟩
    cases more with
    | nil => rfl
    | cons c more => exact afterColon_of_ne (ne_of_isBlank (blanks_of_cons blanks).1 rfl) more
  | cons c text =>
    by_cases colon : c = ':'
    · refine ⟨more, blanks, ?_⟩
      rw [colon]
      rfl
    · refine ⟨[], blanks_nil, ?_⟩
      rw [List.cons_append, afterColon_of_ne colon, afterColon_of_ne colon, List.append_nil]

omit blanks in
/-- The shape of a text that begins with a bracket. -/
theorem shape?_bracket {clause inner : List Char} (opened : Text.trimStart clause = '[' :: inner) :
    shape? clause =
      match inner.dropWhile (· != ']') with
      | [] => none
      | _ :: behind =>
        if inner.takeWhile (· != ']') ≠ [] ∧ (inner.takeWhile (· != ']')).all isCodeChar then
          some (inner.takeWhile (· != ']'), afterColon behind)
        else none := by
  unfold shape?
  rw [opened]
  rfl

omit blanks in
theorem shape?_of_not_bracket {clause : List Char}
    (other : (Text.trimStart clause).head? ≠ some '[') : shape? clause = none := by
  unfold shape?
  split
  · rename_i opened
    rw [opened] at other
    exact absurd rfl other
  · rfl

/-- Blanks do not close a bracket; behind a closed one they go to what follows it. -/
theorem shape?_append_bracket {clause longer inner : List Char}
    (opened : Text.trimStart clause = '[' :: inner)
    (skipped : Text.trimStart longer = '[' :: (inner ++ more)) :
    ∃ left, Blanks left ∧
      shape? longer = (shape? clause).map fun shape => (shape.1, shape.2 ++ left) := by
  rw [shape?_bracket opened, shape?_bracket skipped]
  cases closed : inner.dropWhile (· != ']') with
  | nil =>
    have none : (inner ++ more).dropWhile (· != ']') = [] := by
      rw [List.dropWhile_append, closed, if_pos List.isEmpty_nil]
      refine (Text.dropWhile_eq_nil_iff _ _).mpr ?_
      intro d member
      rw [bne_iff_ne]
      exact ne_of_isBlank (blanks d member) rfl
    refine ⟨[], blanks_nil, ?_⟩
    rw [none]
    rfl
  | cons d behind =>
    obtain ⟨left, leftBlanks, colon⟩ := afterColon_append blanks behind
    refine ⟨left, leftBlanks, ?_⟩
    rw [takeWhile_append_of_stop closed, dropWhile_append_of_stop closed]
    simp only [colon]
    split
    · rfl
    · rfl

theorem shape?_append (clause : List Char) :
    ∃ left, Blanks left ∧
      shape? (clause ++ more) = (shape? clause).map fun shape => (shape.1, shape.2 ++ left) := by
  obtain ⟨first, firstBlanks, skipped⟩ := skipBlanks_append_blanks blanks clause
  change Text.trimStart (clause ++ more) = Text.trimStart clause ++ first at skipped
  have notBracket : first.head? ≠ some '[' := by
    intro head
    exact ne_of_isBlank (firstBlanks _ (List.mem_of_head? head)) rfl rfl
  cases opened : Text.trimStart clause with
  | nil =>
    rw [opened, List.nil_append] at skipped
    refine ⟨[], blanks_nil, ?_⟩
    rw [shape?_of_not_bracket (by rwa [skipped]), shape?_of_not_bracket (by rw [opened]; simp)]
    rfl
  | cons c inner =>
    rw [opened, List.cons_append] at skipped
    by_cases bracket : c = '['
    · rw [bracket] at opened skipped
      exact shape?_append_bracket firstBlanks opened skipped
    · refine ⟨[], blanks_nil, ?_⟩
      rw [shape?_of_not_bracket (by rw [skipped]; simpa using bracket),
        shape?_of_not_bracket (by rw [opened]; simpa using bracket)]
      rfl

/-- **Blanks behind a clause change nothing.** -/
theorem read?_append (clause : List Char) : read? (clause ++ more) = read? clause := by
  obtain ⟨left, leftBlanks, same⟩ := shape?_append blanks clause
  unfold read?
  rw [same]
  cases shape? clause with
  | none => rfl
  | some shape =>
    obtain ⟨code, rest⟩ := shape
    have blank : Text.trim (rest ++ left) = [] ↔ Text.trim rest = [] := by
      rw [Text.trim_eq_nil_iff, Text.trim_eq_nil_iff]
      constructor
      · exact fun all c member => all c (List.mem_append_left left member)
      · intro all c member
        rcases List.mem_append.mp member with before | after
        · exact all c before
        · exact leftBlanks c after
    simp only [Option.map_some, blank, issueList_append leftBlanks]

end Blanks

/-! ### Comments -/

/-- A text put behind the last of several parts. -/
def pushLast (more : List Char) : List (List Char) → List (List Char)
  | [] => [more]
  | [part] => [part ++ more]
  | part :: parts => part :: pushLast more parts

theorem pushLast_cons {parts : List (List Char)} (some : parts ≠ []) (more part : List Char) :
    pushLast more (part :: parts) = part :: pushLast more parts := by
  cases parts with
  | nil => exact absurd rfl some
  | cons => rfl

theorem pushLast_pushFirst {parts : List (List Char)} (some : parts ≠ []) (more : List Char)
    (c : Char) : pushLast more (pushFirst c parts) = pushFirst c (pushLast more parts) := by
  cases parts with
  | nil => exact absurd rfl some
  | cons part parts => cases parts <;> rfl

theorem splitClauses_plain {text : List Char} (plain : ∀ c ∈ text, c ≠ ';' ∧ c ≠ '\\') :
    splitClauses text = [text] := by
  induction text with
  | nil => rfl
  | cons c text ih =>
    obtain ⟨notSemicolon, notBackslash⟩ := plain c List.mem_cons_self
    rw [splitClauses_of_ne notSemicolon fun same => absurd same notBackslash,
      ih fun d member => plain d (List.mem_cons_of_mem _ member)]
    rfl

theorem splitClauses_append_plain {more : List Char} (plain : ∀ c ∈ more, c ≠ ';' ∧ c ≠ '\\')
    (text : List Char) : splitClauses (text ++ more) = pushLast more (splitClauses text) := by
  fun_induction splitClauses text with
  | case1 => exact splitClauses_plain plain
  | case2 text ih =>
    rw [List.cons_append, List.cons_append, splitClauses, ih,
      pushLast_pushFirst (splitClauses_ne_nil text)]
  | case3 text _ ih =>
    rw [List.cons_append, splitClauses_semicolon, ih, pushLast_cons (splitClauses_ne_nil text)]
  | case4 c text notEscape notSemicolon ih =>
    rw [List.cons_append, splitClauses_of_ne notSemicolon, ih,
      pushLast_pushFirst (splitClauses_ne_nil text)]
    intro backslash first
    cases text with
    | nil => exact (plain _ (List.mem_of_head? first)).1 rfl
    | cons d text =>
      cases first
      exact notEscape text backslash rfl

theorem filterMap_pushLast {more : List Char} (blanks : Blanks more) {parts : List (List Char)}
    (some : parts ≠ []) : (pushLast more parts).filterMap read? = parts.filterMap read? := by
  induction parts with
  | nil => exact absurd rfl some
  | cons part parts ih =>
    cases parts with
    | nil =>
      show [part ++ more].filterMap read? = _
      rw [List.filterMap_cons, List.filterMap_cons, read?_append blanks]
    | cons next parts =>
      have later := ih (List.cons_ne_nil next parts)
      rw [pushLast_cons (List.cons_ne_nil _ _), List.filterMap_cons, later]
      exact List.filterMap_cons.symm

/-- **Blanks behind a comment change nothing.** -/
theorem parse?_append {more : List Char} (blanks : Blanks more) (body : List Char) :
    parse? (body ++ more) = parse? body := by
  have plain : ∀ c ∈ more, c ≠ ';' ∧ c ≠ '\\' := by
    intro c member
    have blank := blanks c member
    exact ⟨ne_of_isBlank blank rfl, ne_of_isBlank blank rfl⟩
  unfold parse?
  rw [splitClauses_append_plain plain, filterMap_pushLast blanks (splitClauses_ne_nil body)]

end Clause

end CheckerFixtures
