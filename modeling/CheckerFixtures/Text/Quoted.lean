/-
**Quoted text.**

A text in double quotes as reports show it. Quotes, backslashes and a few controls are written with
a backslash and a letter, every other character that is not visible by its number in braces.

* `quoteChars_append`: quoting works character by character;
* `newline_not_mem_quote`: a quoted text stays on one line.
-/

import CheckerFixtures.Text.Visible

namespace CheckerFixtures.Text

/-! ### Quoting -/

/-- A code point in braces behind a backslash, in lower-case hexadecimal without leading zeros. -/
def numbered (c : Char) : List Char :=
  '\\' :: 'u' :: '\x7b' :: (Nat.toDigits 16 c.toNat ++ ['\x7d'])

/-- The letter that stands for a character behind a backslash, if there is one. -/
def letter? (c : Char) : Option Char :=
  match c with
  | '\x00' => some '0'
  | '\t' => some 't'
  | '\n' => some 'n'
  | '\r' => some 'r'
  | '"' => some '"'
  | '\\' => some '\\'
  | _ => none

/-- A character inside quotes. -/
def quoteChar (c : Char) : List Char :=
  match letter? c with
  | some letter => ['\\', letter]
  | none => if isVisible c then [c] else numbered c

/-- The characters between the quotes. -/
def quoteChars (text : List Char) : List Char := text.flatMap quoteChar

def quote (text : List Char) : List Char := '"' :: (quoteChars text ++ ['"'])

/-! ### Laws -/

/-- Quoting works character by character. -/
theorem quoteChars_append (first second : List Char) :
    quoteChars (first ++ second) = quoteChars first ++ quoteChars second := by
  simp [quoteChars]

/-- A hexadecimal digit is no line break. -/
theorem digitChar_ne_newline {value : Nat} (small : value < 16) : Nat.digitChar value ≠ '\n' := by
  have all : ∀ digit : Fin 16, Nat.digitChar digit.val ≠ '\n' := by decide
  exact all ⟨value, small⟩

/-- A hexadecimal number holds no line break. -/
theorem newline_not_mem_digits (number : Nat) : '\n' ∉ Nat.toDigits 16 number := by
  induction number using Nat.strongRecOn with
  | ind number ih =>
    by_cases small : number < 16
    · simp [Nat.toDigits_of_lt_base small, (digitChar_ne_newline small).symm]
    · rw [Nat.toDigits_of_base_le (by decide) (by omega)]
      have above := ih (number / 16) (by omega)
      have last := digitChar_ne_newline (Nat.mod_lt number (by decide : 0 < 16))
      simp [above, last.symm]

/-- No character is written as a backslash and a line break. -/
theorem letter?_ne_newline (c : Char) : letter? c ≠ some '\n' := by
  unfold letter?
  split <;> decide

/-- The form of a single character holds no line break. -/
theorem newline_not_mem_quoteChar (c : Char) : '\n' ∉ quoteChar c := by
  unfold quoteChar
  split
  · rename_i letter known
    have other : letter ≠ '\n' := fun same => letter?_ne_newline c (same ▸ known)
    simp [other.symm]
  · rename_i unknown
    split
    · have other : c ≠ '\n' := by
        rintro rfl
        cases unknown
      simp [other.symm]
    · simp [numbered, newline_not_mem_digits]

/-- A quoted text stays on one line. -/
theorem newline_not_mem_quote (text : List Char) : '\n' ∉ quote text := by
  simp [quote, quoteChars, newline_not_mem_quoteChar]

end CheckerFixtures.Text
