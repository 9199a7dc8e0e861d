/-
**Messages are exactly the documented literals.**

Behind its opening quote a text is read in one of three ways: as spelled characters up to a closing
quote, as spelled characters up to its end, where the last escape may be cut off, or as spelled
characters up to an escape that is none. The grammar tells these apart, so what the reader answers
says which of them holds, and the other way round.

* `answersEscape`: what each answer to an escape says of the text;
* `answersBody`: and what each answer to a message says;
* `escape_of_cutEscape`, `messageBody_of_isCutOff`: what is cut off is found to be;
* `message_iff`: the reader accepts the literals, and tells the two faults apart.
-/

import CheckerFixtures.Proofs.Spelling
import Mathlib.Data.List.TakeWhile

namespace CheckerFixtures

/-- An escape that lacks only further characters: so far it has its letter and its digits. -/
inductive CutEscape : List Char → Prop
  | backslash : CutEscape ['\\']
  | ascii {digits : List Char} {number : Nat} : digits.length < 2 → Denotes 16 digits number →
      CutEscape ('\\' :: 'x' :: digits)
  | short {digits : List Char} {number : Nat} : digits.length < 4 → Denotes 16 digits number →
      CutEscape ('\\' :: 'u' :: digits)
  | braced {digits : List Char} {number : Nat} : Denotes 16 digits number →
      CutEscape ('\\' :: 'u' :: '{' :: digits)
  | long {digits : List Char} {number : Nat} : digits.length < 8 → Denotes 16 digits number →
      CutEscape ('\\' :: 'U' :: digits)

/-- What stands behind an opening quote if the text ends inside the message: spelled characters, and
at the very end perhaps an escape that lacks only further characters. -/
def IsCutOff (text : List Char) : Prop :=
  ∃ body message cut, text = body ++ cut ∧ Spells body message ∧ (cut = [] ∨ CutEscape cut)

namespace Literal

/-! ### Escapes -/

/-- What an answer to an escape says of the text behind the backslash. -/
inductive AnswersEscape : List Char → Escape → Prop
  | denotes {unit rest : List Char} {c : Char} : SpellsChar ('\\' :: unit) c →
      AnswersEscape (unit ++ rest) (.denotes c rest)
  | malformed (taken rest : List Char) : AnswersEscape (taken ++ rest) (.malformed taken rest)
  | cutOff {text : List Char} : CutEscape ('\\' :: text) → AnswersEscape text .cutOff

theorem toNat_of_scalar? {code : Nat} {c : Char} (found : scalar? code = some c) :
    c.toNat = code := by
  unfold scalar? at found
  split at found
  · rename_i valid
    rw [← Option.some.inj found, Char.ofNat, dif_pos valid]
    rfl
  · cases found

/-- Digits that were read denote a character or make the escape malformed. -/
theorem answersEscape_ofScalar {taken rest : List Char} {value : Option Char}
    (spelled : ∀ c, value = some c → SpellsChar ('\\' :: taken) c) :
    AnswersEscape (taken ++ rest) (.ofScalar taken rest value) := by
  cases value with
  | none => exact .malformed taken rest
  | some c => exact .denotes (spelled c rfl)

/-- An escape of a fixed number of digits, by what it means to have all of them or fewer. -/
theorem answersEscape_fixed {letter : Char} {count bound : Nat}
    (whole : ∀ {digits : List Char} {c : Char}, digits.length = count → Denotes 16 digits c.toNat →
      c.toNat < bound → SpellsChar ('\\' :: letter :: digits) c)
    (cut : ∀ {digits : List Char} {number : Nat}, digits.length < count →
      Denotes 16 digits number → CutEscape ('\\' :: letter :: digits)) (text : List Char) :
    AnswersEscape (letter :: text) (fixedEscape letter count bound text) := by
  have inside : ∀ c ∈ (text.take count).takeWhile isHexDigit, isHexDigit c = true :=
    fun _ => List.mem_takeWhile_imp
  have front : (text.take count).takeWhile isHexDigit <+: text :=
    (List.takeWhile_prefix isHexDigit).trans (List.take_prefix count text)
  have few : ((text.take count).takeWhile isHexDigit).length ≤ count :=
    Nat.le_trans (List.takeWhile_prefix isHexDigit).length_le (List.length_take_le count text)
  simp only [fixedEscape]
  generalize (text.take count).takeWhile isHexDigit = digits at inside front few ⊢
  have numeral := denotes_hexNumber inside
  obtain ⟨rest, rfl⟩ := front
  rw [List.drop_left, ← List.cons_append]
  split
  · rename_i length
    refine answersEscape_ofScalar ?_
    intro c found
    split at found
    · rename_i small
      rw [← toNat_of_scalar? found] at numeral small
      exact whole length numeral small
    · cases found
  · rename_i length
    split
    · rename_i ended
      rw [ended, List.append_nil]
      exact .cutOff (cut (Nat.lt_of_le_of_ne few length) numeral)
    · exact .malformed _ _

theorem answersEscape_braced (text : List Char) :
    AnswersEscape ('u' :: '{' :: text) (bracedEscape text) := by
  have inside : ∀ c ∈ text.takeWhile isHexDigit, isHexDigit c = true :=
    fun _ => List.mem_takeWhile_imp
  have numeral := denotes_hexNumber inside
  have parts := List.takeWhile_append_dropWhile (p := isHexDigit) (l := text)
  simp only [bracedEscape]
  generalize text.takeWhile isHexDigit = digits at inside numeral parts ⊢
  generalize text.dropWhile isHexDigit = behind at parts ⊢
  subst parts
  cases behind with
  | nil =>
    rw [List.append_nil]
    exact .cutOff (.braced numeral)
  | cons c rest =>
    have whole : 'u' :: '{' :: (digits ++ c :: rest) = 'u' :: '{' :: (digits ++ [c]) ++ rest := by
      rw [List.cons_append, List.cons_append, List.append_assoc, List.singleton_append]
    rw [whole]
    dsimp only
    split
    · rename_i closed
      obtain ⟨rfl, some, few⟩ := closed
      refine answersEscape_ofScalar ?_
      intro d found
      rw [← toNat_of_scalar? found] at numeral
      exact .braced some few numeral
    · exact .malformed _ _

theorem simpleEscapes_facts :
    ∀ pair ∈ simpleEscapes, (pair.1, pair.2.toNat) ∈ namedEscapes := by
  decide

/-- A pair that a look-up finds is listed. -/
theorem mem_of_lookup {letter c : Char} {pairs : List (Char × Char)}
    (found : pairs.lookup letter = some c) : (letter, c) ∈ pairs := by
  rw [List.lookup_eq_some_iff] at found
  obtain ⟨before, after, rfl, -⟩ := found
  exact List.mem_append_right _ List.mem_cons_self

/-- **What each answer to an escape says of the text.** -/
theorem answersEscape (text : List Char) : AnswersEscape text (escape text) := by
  unfold escape
  split
  · exact .cutOff .backslash
  · refine answersEscape_fixed ?_ .ascii _
    intro digits c length numeral small
    exact .ascii length numeral (Nat.le_of_lt_succ small)
  · exact answersEscape_braced _
  · exact answersEscape_fixed (fun length numeral _ => .short length numeral) .short _
  · exact answersEscape_fixed (fun length numeral _ => .long length numeral) .long _
  · rename_i letter rest _ _ _ _
    split
    · rename_i found
      have spelled := SpellsChar.named (simpleEscapes_facts _ (mem_of_lookup found))
      exact .denotes spelled
    · exact .malformed [letter] rest

/-! ### Messages -/

/-- What an answer to a message says of the text behind the opening quote. -/
inductive AnswersBody : List Char → Reading (List Char) → Prop
  | ended {body message : List Char} (rest : List Char) : Spells body message →
      AnswersBody (body ++ '"' :: rest) ⟨.ok (some message), rest⟩
  | cutOff {text : List Char} : IsCutOff text → AnswersBody text ⟨.error .unterminated, []⟩
  | malformed {body message : List Char} (taken rest : List Char) : Spells body message →
      AnswersBody (body ++ '\\' :: (taken ++ rest))
        ⟨.error (.invalidEscape ('\\' :: taken)), rest⟩

/-- One more character in front is one more character of the message. -/
theorem AnswersBody.push {text unit : List Char} {c : Char} {reading : Reading (List Char)}
    (answers : AnswersBody text reading) (spelled : SpellsChar unit c) :
    AnswersBody (unit ++ text) (reading.push c) := by
  cases answers with
  | ended rest body =>
    rw [← List.append_assoc]
    exact .ended rest (.cons spelled body)
  | cutOff isCutOff =>
    obtain ⟨body, message, cut, rfl, whole, ends⟩ := isCutOff
    rw [← List.append_assoc]
    exact .cutOff ⟨_, _, cut, rfl, .cons spelled whole, ends⟩
  | malformed taken rest body =>
    rw [← List.append_assoc]
    exact .malformed taken rest (.cons spelled body)

/-- **What each answer to a message says of the text.** -/
theorem answersBody (text : List Char) : AnswersBody text (messageBody text) := by
  fun_induction messageBody text with
  | case1 => exact .cutOff ⟨[], [], [], rfl, .nil, .inl rfl⟩
  | case2 rest => exact .ended rest .nil
  | case3 rest c behind read shorter ih =>
    have answers := answersEscape rest
    rw [read] at answers
    cases answers with
    | denotes spelled => exact ih.push spelled
  | case4 rest taken behind read =>
    have answers := answersEscape rest
    rw [read] at answers
    cases answers with
    | malformed => exact .malformed taken behind .nil
  | case5 rest read =>
    have answers := answersEscape rest
    rw [read] at answers
    cases answers with
    | cutOff cut => exact .cutOff ⟨[], [], _, rfl, .nil, .inr cut⟩
  | case6 c rest notQuote notBackslash ih => exact ih.push (.raw notQuote notBackslash)

/-! ### What is cut off is found to be -/

theorem fixedEscape_of_few {letter : Char} {count bound : Nat} {digits : List Char} {number : Nat}
    (few : digits.length < count) (numeral : Denotes 16 digits number) :
    fixedEscape letter count bound digits = .cutOff := by
  have taken : (digits.take count).takeWhile isHexDigit = digits := by
    rw [List.take_of_length_le (Nat.le_of_lt few), List.takeWhile_eq_self_iff]
    exact isHexDigit_of_denotes numeral
  simp only [fixedEscape, taken, List.drop_length, if_neg (Nat.ne_of_lt few), if_true]

theorem bracedEscape_of_denotes_unclosed {digits : List Char} {number : Nat}
    (numeral : Denotes 16 digits number) : bracedEscape digits = .cutOff := by
  have none : digits.dropWhile isHexDigit = [] :=
    List.dropWhile_eq_nil_iff.mpr (isHexDigit_of_denotes numeral)
  simp only [bracedEscape, none]

theorem escape_of_cutEscape {text : List Char} (cut : CutEscape ('\\' :: text)) :
    escape text = .cutOff := by
  cases cut with
  | backslash => rfl
  | ascii few numeral => exact fixedEscape_of_few few numeral
  | braced numeral => exact bracedEscape_of_denotes_unclosed numeral
  | long few numeral => exact fixedEscape_of_few few numeral
  | @short digits number few numeral =>
    rw [escape]
    · exact fixedEscape_of_few few numeral
    · rintro rest rfl
      have brace := isHexDigit_of_denotes numeral '{' List.mem_cons_self
      cases brace

theorem messageBody_of_cutEscape {text : List Char} (cut : CutEscape text) :
    messageBody text = ⟨.error .unterminated, []⟩ := by
  obtain ⟨behind, rfl⟩ : ∃ behind, text = '\\' :: behind := by
    cases cut <;> exact ⟨_, rfl⟩
  have read := escape_of_cutEscape cut
  rw [messageBody]
  split
  · rename_i read'
    rw [read] at read'
    cases read'
  · rename_i read'
    rw [read] at read'
    cases read'
  · rfl

theorem messageBody_of_isCutOff {text : List Char} (isCutOff : IsCutOff text) :
    messageBody text = ⟨.error .unterminated, []⟩ := by
  obtain ⟨body, message, cut, rfl, spelled, ends⟩ := isCutOff
  induction spelled with
  | nil =>
    rcases ends with rfl | ends
    · rw [List.nil_append, messageBody]
    · exact messageBody_of_cutEscape ends
  | cons spelledChar _ ih =>
    rw [List.append_assoc, messageBody_of_spellsChar spelledChar, ih]
    rfl

/-! ### The reader of messages -/

/-- **A message is read exactly if it is a literal.** A text without an opening quote is left alone.
Behind an opening quote a message is found exactly if its characters are spelled up to a closing
quote; the quote is missing exactly if the text ends while all is well; and any other text has an
escape that is none, behind characters that are spelled. -/
theorem message_iff (text : List Char) :
    (text.head? ≠ some '"' → message text = ⟨.ok none, text⟩) ∧
      ∀ behind, text = '"' :: behind →
        (∀ characters rest, message text = ⟨.ok (some characters), rest⟩ ↔
          ∃ body, behind = body ++ '"' :: rest ∧ Spells body characters) ∧
        ((message text).outcome = .error .unterminated ↔ IsCutOff behind) ∧
        ((∀ body characters rest, Spells body characters → behind ≠ body ++ '"' :: rest) →
          ¬ IsCutOff behind → ∃ body characters taken rest, Spells body characters ∧
            behind = body ++ '\\' :: (taken ++ rest) ∧
            message text = ⟨.error (.invalidEscape ('\\' :: taken)), rest⟩) := by
  constructor
  · intro unquoted
    cases text with
    | nil => rfl
    | cons c text =>
      have other : c ≠ '"' := fun same => unquoted (congrArg some same)
      rw [message, eat?, if_neg other]
  · rintro behind rfl
    have read : message ('"' :: behind) = messageBody behind := rfl
    have answers := answersBody behind
    rw [read]
    refine ⟨?_, ?_, ?_⟩
    · intro characters rest
      constructor
      · intro found
        rw [found] at answers
        cases answers with
        | @ended body _ _ spelled => exact ⟨body, rfl, spelled⟩
      · rintro ⟨body, rfl, spelled⟩
        exact messageBody_of_spells spelled rest
    · constructor
      · intro fault
        generalize messageBody behind = reading at answers fault
        cases answers with
        | ended | malformed => cases fault
        | cutOff isCutOff => exact isCutOff
      · intro isCutOff
        rw [messageBody_of_isCutOff isCutOff]
    · intro unclosed goesOn
      generalize messageBody behind = reading at answers
      cases answers with
      | @ended body characters rest spelled =>
        exact absurd rfl (unclosed body characters rest spelled)
      | cutOff isCutOff => exact absurd isCutOff goesOn
      | malformed taken rest spelled => exact ⟨_, _, taken, rest, spelled, rfl, rfl⟩

/-- In braces seven digits may be cut off, but not closed. -/
example :
    (message "\"\\u\x7b1234567".toList).outcome = .error .unterminated ∧
      (message "\"\\u\x7b1234567\x7d".toList).outcome =
        .error (.invalidEscape "\\u\x7b1234567\x7d".toList) := by
  decide +kernel

end Literal

end CheckerFixtures
