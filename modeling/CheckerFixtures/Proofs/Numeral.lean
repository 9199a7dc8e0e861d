/-
**Numerals.**

What a run of digits denotes in a base, described digit by digit from the left. The two readers of
numbers, for columns in base ten and for escapes in base sixteen, compute it.

* `decimal_of_denotes`, `hexNumber_of_denotes`: the readers compute what a numeral denotes;
* `denotes_toDigits_of_base`: the usual text of a number is a numeral;
* `denotes_decimal`, `denotes_hexNumber`: and so is every run of digits of the base.
-/

import CheckerFixtures.Pragma.Literal
import Mathlib.Data.List.Induction

namespace CheckerFixtures

/-- A digit of a value, in lower or in upper case. -/
def IsDigitOf (c : Char) (value : Nat) : Prop :=
  c = value.digitChar ∨ c = value.digitChar.toUpper

/-- The numerals of a base, read from the left: each further digit adds one place. -/
inductive Denotes (base : Nat) : List Char → Nat → Prop
  | nil : Denotes base [] 0
  | snoc {digits : List Char} {number value : Nat} {c : Char} :
      Denotes base digits number → value < base → IsDigitOf c value →
      Denotes base (digits ++ [c]) (base * number + value)

namespace Literal

/-- The usual text of a number in a base is a numeral. -/
theorem denotes_toDigits_of_base {base : Nat} (large : 1 < base) (number : Nat) :
    Denotes base (Nat.toDigits base number) number := by
  induction number using Nat.strongRecOn with
  | ind number ih =>
    by_cases small : number < base
    · rw [Nat.toDigits_of_lt_base small]
      have zero : Denotes base [] 0 := .nil
      have single := zero.snoc small (.inl rfl : IsDigitOf _ number)
      rwa [Nat.mul_zero, Nat.zero_add] at single
    · have shorter : number / base < number := Nat.div_lt_self (by omega) large
      rw [Nat.toDigits_of_base_le large (by omega)]
      have longer := (ih (number / base) shorter).snoc (Nat.mod_lt number (by omega)) (.inl rfl)
      rwa [Nat.div_add_mod] at longer

/-! ### Base ten -/

theorem digit_facts :
    ∀ value : Fin 10, value.val.digitChar.isDigit = true ∧ value.val.digitChar.toUpper =
      value.val.digitChar ∧ value.val.digitChar.toNat - '0'.toNat = value.val := by
  decide

theorem toNat_of_isDigit {c : Char} (digit : c.isDigit = true) :
    0x30 ≤ c.toNat ∧ c.toNat ≤ 0x39 := by
  simp only [Char.isDigit, Bool.and_eq_true, decide_eq_true_eq] at digit
  exact digit

theorem isDigit_of_isDigitOf {c : Char} {value : Nat} (small : value < 10)
    (digit : IsDigitOf c value) : c.isDigit = true ∧ c.toNat - '0'.toNat = value := by
  obtain ⟨isDigit, same, difference⟩ := digit_facts ⟨value, small⟩
  rcases digit with rfl | rfl
  · exact ⟨isDigit, difference⟩
  · simp only at same
    rw [same]
    exact ⟨isDigit, difference⟩

theorem decimal_concat (digits : List Char) (c : Char) :
    decimal (digits ++ [c]) = 10 * decimal digits + (c.toNat - '0'.toNat) := by
  simp [decimal]

/-- The characters of a decimal numeral are digits. -/
theorem isDigit_of_denotes {digits : List Char} {number : Nat}
    (numeral : Denotes 10 digits number) : ∀ c ∈ digits, c.isDigit = true := by
  induction numeral with
  | nil => exact fun _ member => by cases member
  | snoc _ small digit ih =>
    intro c member
    rcases List.mem_append.mp member with before | last
    · exact ih c before
    · rw [List.mem_singleton.mp last]
      exact (isDigit_of_isDigitOf small digit).1

/-- The reader of columns computes what a numeral denotes. -/
theorem decimal_of_denotes {digits : List Char} {number : Nat}
    (numeral : Denotes 10 digits number) : decimal digits = number := by
  induction numeral with
  | nil => rfl
  | snoc _ small digit ih => rw [decimal_concat, ih, (isDigit_of_isDigitOf small digit).2]

theorem decimalValue_facts :
    ∀ code : Fin 0x80, (Char.ofNat code).isDigit = true →
      (Char.ofNat code).toNat - '0'.toNat < 10 ∧
        Char.ofNat code = ((Char.ofNat code).toNat - '0'.toNat).digitChar := by
  decide

/-- **Every run of decimal digits is a numeral.** -/
theorem denotes_decimal {digits : List Char} (all : ∀ c ∈ digits, c.isDigit = true) :
    Denotes 10 digits (decimal digits) := by
  induction digits using List.reverseRecOn with
  | nil => exact .nil
  | append_singleton digits c ih =>
    have isDigit : c.isDigit = true := all c List.mem_concat_self
    have range := toNat_of_isDigit isDigit
    have facts := decimalValue_facts ⟨c.toNat, by omega⟩
    rw [Char.ofNat_toNat] at facts
    obtain ⟨small, same⟩ := facts isDigit
    rw [decimal_concat]
    exact (ih fun d member => all d (List.mem_append_left _ member)).snoc small (.inl same)

theorem denotes_toDigits (number : Nat) : Denotes 10 (Nat.toDigits 10 number) number :=
  denotes_toDigits_of_base (by decide) number

/-! ### Base sixteen -/

theorem hexDigit_facts :
    ∀ value : Fin 16, isHexDigit value.val.digitChar = true ∧
      isHexDigit value.val.digitChar.toUpper = true ∧ hexValue value.val.digitChar = value.val ∧
      hexValue value.val.digitChar.toUpper = value.val := by
  decide

theorem isHexDigit_of_isDigitOf {c : Char} {value : Nat} (small : value < 16)
    (digit : IsDigitOf c value) : isHexDigit c = true ∧ hexValue c = value := by
  obtain ⟨lower, upper, lowerValue, upperValue⟩ := hexDigit_facts ⟨value, small⟩
  rcases digit with rfl | rfl
  · exact ⟨lower, lowerValue⟩
  · exact ⟨upper, upperValue⟩

theorem hexNumber_concat (digits : List Char) (c : Char) :
    hexNumber (digits ++ [c]) = 16 * hexNumber digits + hexValue c := by
  simp [hexNumber]

/-- The characters of a hexadecimal numeral are hexadecimal digits. -/
theorem isHexDigit_of_denotes {digits : List Char} {number : Nat}
    (numeral : Denotes 16 digits number) : ∀ c ∈ digits, isHexDigit c = true := by
  induction numeral with
  | nil => exact fun _ member => by cases member
  | snoc _ small digit ih =>
    intro c member
    rcases List.mem_append.mp member with before | last
    · exact ih c before
    · rw [List.mem_singleton.mp last]
      exact (isHexDigit_of_isDigitOf small digit).1

/-- The reader of escapes computes what a numeral denotes. -/
theorem hexNumber_of_denotes {digits : List Char} {number : Nat}
    (numeral : Denotes 16 digits number) : hexNumber digits = number := by
  induction numeral with
  | nil => rfl
  | snoc _ small digit ih => rw [hexNumber_concat, ih, (isHexDigit_of_isDigitOf small digit).2]

theorem toNat_of_isHexDigit {c : Char} (hex : isHexDigit c = true) :
    0x30 ≤ c.toNat ∧ c.toNat ≤ 0x66 := by
  simp only [isHexDigit, Bool.or_eq_true, Bool.and_eq_true, decide_eq_true_eq] at hex
  rcases hex with (digit | lower) | upper
  · have := toNat_of_isDigit digit
    omega
  · have least : 0x61 ≤ c.toNat := lower.1
    have most : c.toNat ≤ 0x66 := lower.2
    omega
  · have least : 0x41 ≤ c.toNat := upper.1
    have most : c.toNat ≤ 0x46 := upper.2
    omega

theorem hexValue_facts :
    ∀ code : Fin 0x80, isHexDigit (Char.ofNat code) = true →
      hexValue (Char.ofNat code) < 16 ∧
        (Char.ofNat code = (hexValue (Char.ofNat code)).digitChar ∨
          Char.ofNat code = (hexValue (Char.ofNat code)).digitChar.toUpper) := by
  decide

/-- A hexadecimal digit is the digit of its value. -/
theorem isDigitOf_hexValue {c : Char} (hex : isHexDigit c = true) :
    hexValue c < 16 ∧ IsDigitOf c (hexValue c) := by
  have range := toNat_of_isHexDigit hex
  have facts := hexValue_facts ⟨c.toNat, by omega⟩
  rw [Char.ofNat_toNat] at facts
  exact facts hex

/-- **Every run of hexadecimal digits is a numeral.** -/
theorem denotes_hexNumber {digits : List Char} (hex : ∀ c ∈ digits, isHexDigit c = true) :
    Denotes 16 digits (hexNumber digits) := by
  induction digits using List.reverseRecOn with
  | nil => exact .nil
  | append_singleton digits c ih =>
    obtain ⟨small, digit⟩ := isDigitOf_hexValue (hex c (List.mem_append_right _ (by simp)))
    rw [hexNumber_concat]
    exact (ih fun d member => hex d (List.mem_append_left _ member)).snoc small digit

end Literal

end CheckerFixtures
