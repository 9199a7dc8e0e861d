/-
**The order of bytes is the order of characters.**

Texts may be compared by their UTF-8 bytes or by their code points: the order is the same. A
character with a greater code point needs more bytes, or as many of which the first that differs is
greater; and more bytes begin with a greater one.

* `exists_digits`: the bytes of a character carry the digits of its code point;
* `encodeChar_append_lt`: of two characters, the bytes of the greater one are greater;
* `encode_lt_encode_iff`: so texts are ordered as their bytes are.
-/

import CheckerFixtures.Proofs.Utf8

namespace CheckerFixtures.Utf8

/-! ### Digits of a code point -/

/-- Some numbers as bytes. -/
def bytesOf (values : List Nat) : List UInt8 := values.map UInt8.ofNat

/-- The values of the bytes of a code point, in each of the four forms. -/
inductive Digits (code : Nat) : List Nat → Prop
  | one : code < 0x80 → Digits code [code]
  | two {lead low : Nat} : lead < 0x20 → low < 0x40 → 0x80 ≤ code →
      code = lead * 0x40 + low → Digits code [lead + 0xC0, low + 0x80]
  | three {lead middle low : Nat} : lead < 0x10 → middle < 0x40 → low < 0x40 → 0x800 ≤ code →
      code = lead * 0x1000 + middle * 0x40 + low →
        Digits code [lead + 0xE0, middle + 0x80, low + 0x80]
  | four {lead high middle low : Nat} : lead < 0x08 → high < 0x40 → middle < 0x40 → low < 0x40 →
      0x10000 ≤ code → code = lead * 0x40000 + high * 0x1000 + middle * 0x40 + low →
        Digits code [lead + 0xF0, high + 0x80, middle + 0x80, low + 0x80]

/-- **The bytes of a character carry the digits of its code point.** -/
theorem exists_digits (c : Char) :
    ∃ values, Digits c.toNat values ∧ String.utf8EncodeChar c = bytesOf values := by
  have bound : c.toNat < 0x110000 := by
    have valid : c.toNat.isValidChar := c.valid
    unfold Nat.isValidChar at valid
    omega
  by_cases one : c.toNat < 0x80
  · refine ⟨_, .one one, ?_⟩
    unfold String.utf8EncodeChar
    exact if_pos (Nat.le_of_lt_succ one)
  by_cases two : c.toNat < 0x800
  · exact ⟨_, @Digits.two _ (c.toNat / 0x40) (c.toNat % 0x40) (by omega) (by omega) (by omega)
      (by omega), encodeChar_two (by omega) (by omega) (by omega) (by omega)⟩
  by_cases three : c.toNat < 0x10000
  · exact ⟨_, @Digits.three _ (c.toNat / 0x1000) (c.toNat / 0x40 % 0x40) (c.toNat % 0x40)
      (by omega) (by omega) (by omega) (by omega) (by omega),
      encodeChar_three (by omega) (by omega) (by omega) (by omega) (by omega)⟩
  · exact ⟨_, @Digits.four _ (c.toNat / 0x40000) (c.toNat / 0x1000 % 0x40)
      (c.toNat / 0x40 % 0x40) (c.toNat % 0x40) (by omega) (by omega) (by omega) (by omega)
      (by omega) (by omega),
      encodeChar_four (by omega) (by omega) (by omega) (by omega) (by omega) (by omega)⟩

/-! ### Comparing -/

theorem ofNat_cons_lt_iff {value other : Nat} (small : value < 0x100) (small' : other < 0x100)
    (rest rest' : List UInt8) :
    UInt8.ofNat value :: rest < UInt8.ofNat other :: rest' ↔
      value < other ∨ value = other ∧ rest < rest' := by
  rw [List.cons_lt_cons_iff, UInt8.lt_iff_toNat_lt, ← UInt8.toNat_inj, UInt8.toNat_ofNat',
    UInt8.toNat_ofNat', Nat.mod_eq_of_lt small, Nat.mod_eq_of_lt small']

/-- The digits of the greater code point are greater, whatever comes behind them. -/
theorem Digits.append_lt {code other : Nat} (less : code < other) {values values' : List Nat}
    (digits : Digits code values) (digits' : Digits other values') (rest rest' : List UInt8) :
    bytesOf values ++ rest < bytesOf values' ++ rest' := by
  cases digits <;> cases digits' <;>
    simp (disch := omega) only [bytesOf, List.map_cons, List.map_nil, List.cons_append,
      List.nil_append, ofNat_cons_lt_iff] <;>
    omega

/-- **Of two characters, the bytes of the greater one are greater**, whatever comes behind them. -/
theorem encodeChar_append_lt {c d : Char} (less : c < d) (rest rest' : List UInt8) :
    String.utf8EncodeChar c ++ rest < String.utf8EncodeChar d ++ rest' := by
  obtain ⟨values, digits, bytes⟩ := exists_digits c
  obtain ⟨values', digits', bytes'⟩ := exists_digits d
  rw [bytes, bytes']
  exact digits.append_lt less digits' rest rest'

theorem encode_lt_encode {text other : List Char} (less : text < other) :
    encode text < encode other := by
  change List.Lex (· < ·) text other at less
  induction less with
  | @nil d other =>
    obtain ⟨byte, bytes, some⟩ := List.exists_cons_of_ne_nil (String.utf8EncodeChar_ne_nil (c := d))
    rw [encode_nil, encode_cons, some]
    exact List.nil_lt_cons byte _
  | rel first =>
    rw [encode_cons, encode_cons]
    exact encodeChar_append_lt first _ _
  | cons _ ih =>
    rw [encode_cons, encode_cons]
    exact List.append_left_lt ih

/-- **Texts are ordered as their bytes are.** -/
theorem encode_lt_encode_iff {text other : List Char} :
    encode text < encode other ↔ text < other := by
  refine ⟨?_, encode_lt_encode⟩
  intro less
  rcases Std.lt_trichotomy text other with before | rfl | behind
  · exact before
  · exact absurd less Std.lt_irrefl
  · exact absurd (Std.lt_trans less (encode_lt_encode behind)) Std.lt_irrefl

end CheckerFixtures.Utf8
