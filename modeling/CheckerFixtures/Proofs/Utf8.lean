/-
**Decoding and encoding are inverse.**

* `decodeChar?_encode`, `encode_of_decodeChar?`: one character is decoded from its bytes, and only
  from those;
* `decode?_eq_some_iff`: bytes are decoded to a text exactly when they are its bytes;
* `newline_notMem`: the byte of the line feed stands for a line feed and nothing else.
-/

import CheckerFixtures.Text.Utf8

namespace CheckerFixtures.Utf8

/-- Some bytes are UTF-8. -/
def IsUtf8 (bytes : List UInt8) : Prop := ∃ text, bytes = encode text

theorem encode_nil : encode [] = [] := rfl

theorem encode_cons (c : Char) (text : List Char) :
    encode (c :: text) = String.utf8EncodeChar c ++ encode text := by
  unfold encode
  rw [List.flatMap_cons]

theorem encode_append (text more : List Char) :
    encode (text ++ more) = encode text ++ encode more := by
  unfold encode
  rw [List.flatMap_append]

/-! ### Bytes of a character -/

theorem continuation?_eq_some_iff {byte : UInt8} {low : Nat} :
    continuation? byte = some low ↔ low < 0x40 ∧ byte.toNat = low + 0x80 := by
  unfold continuation?
  constructor
  · intro read
    split at read
    · have value := Option.some.inj read
      omega
    · cases read
  · rintro ⟨small, value⟩
    rw [if_pos (by omega), value, Nat.add_sub_cancel]

theorem continuation?_ofNat {low : Nat} (small : low < 0x40) :
    continuation? (UInt8.ofNat (low + 0x80)) = some low := by
  refine continuation?_eq_some_iff.mpr ⟨small, ?_⟩
  rw [UInt8.toNat_ofNat']
  omega

theorem charFrom?_eq_some_iff {least code : Nat} {c : Char} :
    charFrom? least code = some c ↔ least ≤ code ∧ c.toNat = code := by
  unfold charFrom?
  constructor
  · intro read
    split at read
    · rename_i valid
      cases read
      refine ⟨valid.1, ?_⟩
      unfold Char.ofNat
      rw [dif_pos valid.2]
      rfl
    · cases read
  · rintro ⟨enough, rfl⟩
    have valid : c.toNat.isValidChar := c.valid
    rw [if_pos ⟨enough, valid⟩, Char.ofNat_toNat]

/-! ### Forms of one to four bytes -/

section Forms

variable {lead high middle low : Nat} (rest : List UInt8)

theorem decodeChar?_one (small : lead < 0x80) :
    decodeChar? (UInt8.ofNat lead :: rest) = some (Char.ofNat lead, rest) := by
  have value : (UInt8.ofNat lead).toNat = lead := by
    rw [UInt8.toNat_ofNat']
    omega
  unfold decodeChar?
  simp only [value]
  rw [if_pos small]

theorem decodeChar?_two (leadSmall : lead < 0x20) (lowSmall : low < 0x40) :
    decodeChar? (UInt8.ofNat (lead + 0xC0) :: UInt8.ofNat (low + 0x80) :: rest) =
      (charFrom? 0x80 (lead * 0x40 + low)).map (·, rest) := by
  have value : (UInt8.ofNat (lead + 0xC0)).toNat = lead + 0xC0 := by
    rw [UInt8.toNat_ofNat']
    omega
  unfold decodeChar?
  simp only [value]
  rw [if_neg (by omega), if_neg (by omega), if_pos (by omega), continuation?_ofNat lowSmall,
    Nat.add_sub_cancel, Option.map_eq_bind, Option.bind_eq_bind, Option.bind_some]
  rfl

theorem decodeChar?_three (leadSmall : lead < 0x10) (middleSmall : middle < 0x40)
    (lowSmall : low < 0x40) :
    decodeChar? (UInt8.ofNat (lead + 0xE0) :: UInt8.ofNat (middle + 0x80) ::
        UInt8.ofNat (low + 0x80) :: rest) =
      (charFrom? 0x800 (lead * 0x1000 + middle * 0x40 + low)).map (·, rest) := by
  have value : (UInt8.ofNat (lead + 0xE0)).toNat = lead + 0xE0 := by
    rw [UInt8.toNat_ofNat']
    omega
  unfold decodeChar?
  simp only [value]
  rw [if_neg (by omega), if_neg (by omega), if_neg (by omega), if_pos (by omega),
    continuation?_ofNat middleSmall, continuation?_ofNat lowSmall, Nat.add_sub_cancel,
    Option.map_eq_bind, Option.bind_eq_bind, Option.bind_some, Option.bind_some]
  rfl

-- rewriting, not `simp`, opens the binds: the kernel must not compare the code points by unfolding
theorem decodeChar?_four (leadSmall : lead < 0x08) (highSmall : high < 0x40)
    (middleSmall : middle < 0x40) (lowSmall : low < 0x40) :
    decodeChar? (UInt8.ofNat (lead + 0xF0) :: UInt8.ofNat (high + 0x80) ::
        UInt8.ofNat (middle + 0x80) :: UInt8.ofNat (low + 0x80) :: rest) =
      (charFrom? 0x10000 (lead * 0x40000 + high * 0x1000 + middle * 0x40 + low)).map (·, rest) := by
  have value : (UInt8.ofNat (lead + 0xF0)).toNat = lead + 0xF0 := by
    rw [UInt8.toNat_ofNat']
    omega
  unfold decodeChar?
  simp only [value]
  rw [if_neg (by omega), if_neg (by omega), if_neg (by omega), if_neg (by omega),
    if_pos (by omega), continuation?_ofNat highSmall, continuation?_ofNat middleSmall,
    continuation?_ofNat lowSmall, Nat.add_sub_cancel, Option.map_eq_bind, Option.bind_eq_bind,
    Option.bind_some, Option.bind_some, Option.bind_some]
  rfl

end Forms

/-- **A character is decoded from its bytes**, whatever follows them. -/
theorem decodeChar?_encode (c : Char) (rest : List UInt8) :
    decodeChar? (String.utf8EncodeChar c ++ rest) = some (c, rest) := by
  have bound : c.val.toNat < 0x110000 := by
    have valid : c.val.toNat.isValidChar := c.valid
    unfold Nat.isValidChar at valid
    omega
  have found : ∀ {least code : Nat}, least ≤ code → c.val.toNat = code →
      (charFrom? least code).map (·, rest) = some (c, rest) := by
    intro least code enough value
    rw [charFrom?_eq_some_iff.mpr ⟨enough, value⟩, Option.map_some]
  unfold String.utf8EncodeChar
  simp only
  split
  · rename_i one
    rw [List.singleton_append, decodeChar?_one rest (by omega)]
    exact congrArg (fun c => some (c, rest)) (Char.ofNat_toNat c)
  split
  · rename_i one two
    rw [List.cons_append, List.singleton_append,
      decodeChar?_two rest (Nat.mod_lt _ (by decide)) (Nat.mod_lt _ (by decide))]
    exact found (by omega) (by omega)
  split
  · rename_i one two three
    rw [List.cons_append, List.cons_append, List.singleton_append,
      decodeChar?_three rest (Nat.mod_lt _ (by decide)) (Nat.mod_lt _ (by decide))
        (Nat.mod_lt _ (by decide))]
    exact found (by omega) (by omega)
  · rename_i one two three
    rw [List.cons_append, List.cons_append, List.cons_append, List.singleton_append,
      decodeChar?_four rest (Nat.mod_lt _ (by decide)) (Nat.mod_lt _ (by decide))
        (Nat.mod_lt _ (by decide)) (Nat.mod_lt _ (by decide))]
    exact found (by omega) (by omega)

/-! ### Bytes of a character in each form -/

section Bytes

variable {c : Char} {lead high middle low : Nat}

theorem encodeChar_one {byte : UInt8} (small : byte.toNat < 0x80) :
    String.utf8EncodeChar (Char.ofNat byte.toNat) = [byte] := by
  have value : (Char.ofNat byte.toNat).val.toNat = byte.toNat := by
    have valid : byte.toNat.isValidChar := .inl (by omega)
    unfold Char.ofNat
    rw [dif_pos valid]
    rfl
  unfold String.utf8EncodeChar
  simp only [value]
  rw [if_pos (by omega), UInt8.ofNat_toNat]

theorem encodeChar_two (leadSmall : lead < 0x20) (lowSmall : low < 0x40)
    (enough : 0x80 ≤ lead * 0x40 + low) (value : c.toNat = lead * 0x40 + low) :
    String.utf8EncodeChar c = [UInt8.ofNat (lead + 0xC0), UInt8.ofNat (low + 0x80)] := by
  have first : (lead * 0x40 + low) / 0x40 % 0x20 = lead := by omega
  have second : (lead * 0x40 + low) % 0x40 = low := by omega
  change c.val.toNat = _ at value
  unfold String.utf8EncodeChar
  simp only [value]
  rw [if_neg (by omega), if_pos (by omega), first, second]

theorem encodeChar_three (leadSmall : lead < 0x10) (middleSmall : middle < 0x40)
    (lowSmall : low < 0x40) (enough : 0x800 ≤ lead * 0x1000 + middle * 0x40 + low)
    (value : c.toNat = lead * 0x1000 + middle * 0x40 + low) :
    String.utf8EncodeChar c =
      [UInt8.ofNat (lead + 0xE0), UInt8.ofNat (middle + 0x80), UInt8.ofNat (low + 0x80)] := by
  have first : (lead * 0x1000 + middle * 0x40 + low) / 0x1000 % 0x10 = lead := by omega
  have second : (lead * 0x1000 + middle * 0x40 + low) / 0x40 % 0x40 = middle := by omega
  have third : (lead * 0x1000 + middle * 0x40 + low) % 0x40 = low := by omega
  change c.val.toNat = _ at value
  unfold String.utf8EncodeChar
  simp only [value]
  rw [if_neg (by omega), if_neg (by omega), if_pos (by omega), first, second, third]

theorem encodeChar_four (leadSmall : lead < 0x08) (highSmall : high < 0x40)
    (middleSmall : middle < 0x40) (lowSmall : low < 0x40)
    (enough : 0x10000 ≤ lead * 0x40000 + high * 0x1000 + middle * 0x40 + low)
    (value : c.toNat = lead * 0x40000 + high * 0x1000 + middle * 0x40 + low) :
    String.utf8EncodeChar c =
      [UInt8.ofNat (lead + 0xF0), UInt8.ofNat (high + 0x80), UInt8.ofNat (middle + 0x80),
        UInt8.ofNat (low + 0x80)] := by
  have first : (lead * 0x40000 + high * 0x1000 + middle * 0x40 + low) / 0x40000 % 0x08 = lead := by
    omega
  have second : (lead * 0x40000 + high * 0x1000 + middle * 0x40 + low) / 0x1000 % 0x40 = high := by
    omega
  have third : (lead * 0x40000 + high * 0x1000 + middle * 0x40 + low) / 0x40 % 0x40 = middle := by
    omega
  have fourth : (lead * 0x40000 + high * 0x1000 + middle * 0x40 + low) % 0x40 = low := by omega
  change c.val.toNat = _ at value
  unfold String.utf8EncodeChar
  simp only [value]
  rw [if_neg (by omega), if_neg (by omega), if_neg (by omega), first, second, third, fourth]

end Bytes

theorem eq_ofNat {byte : UInt8} {value : Nat} (same : byte.toNat = value) :
    byte = UInt8.ofNat value := by
  rw [← same, UInt8.ofNat_toNat]

/-- **A character is decoded only from its bytes.** -/
theorem encode_of_decodeChar? {bytes rest : List UInt8} {c : Char}
    (decoded : decodeChar? bytes = some (c, rest)) :
    bytes = String.utf8EncodeChar c ++ rest := by
  cases bytes with
  | nil => cases decoded
  | cons first behind =>
    unfold decodeChar? at decoded
    simp only at decoded
    split at decoded
    · rename_i one
      obtain ⟨rfl, rfl⟩ := Prod.mk.inj (Option.some.inj decoded)
      rw [encodeChar_one one, List.singleton_append]
    split at decoded
    · cases decoded
    split at decoded
    · split at decoded
      · simp only [Option.bind_eq_bind, Option.bind_eq_some_iff, Option.pure_def,
          Option.some.injEq, Prod.mk.injEq] at decoded
        obtain ⟨low, lowRead, d, read, rfl, rfl⟩ := decoded
        obtain ⟨lowSmall, lowValue⟩ := continuation?_eq_some_iff.mp lowRead
        obtain ⟨enough, value⟩ := charFrom?_eq_some_iff.mp read
        have leadValue : first.toNat = first.toNat - 0xC0 + 0xC0 := by omega
        rw [encodeChar_two (by omega) lowSmall enough value, ← eq_ofNat leadValue,
          ← eq_ofNat lowValue]
        rfl
      · cases decoded
    split at decoded
    · split at decoded
      · simp only [Option.bind_eq_bind, Option.bind_eq_some_iff, Option.pure_def,
          Option.some.injEq, Prod.mk.injEq] at decoded
        obtain ⟨middle, middleRead, low, lowRead, d, read, rfl, rfl⟩ := decoded
        obtain ⟨middleSmall, middleValue⟩ := continuation?_eq_some_iff.mp middleRead
        obtain ⟨lowSmall, lowValue⟩ := continuation?_eq_some_iff.mp lowRead
        obtain ⟨enough, value⟩ := charFrom?_eq_some_iff.mp read
        have leadValue : first.toNat = first.toNat - 0xE0 + 0xE0 := by omega
        rw [encodeChar_three (by omega) middleSmall lowSmall enough value, ← eq_ofNat leadValue,
          ← eq_ofNat middleValue, ← eq_ofNat lowValue]
        rfl
      · cases decoded
    split at decoded
    · split at decoded
      · simp only [Option.bind_eq_bind, Option.bind_eq_some_iff, Option.pure_def,
          Option.some.injEq, Prod.mk.injEq] at decoded
        obtain ⟨high, highRead, middle, middleRead, low, lowRead, d, read, rfl, rfl⟩ := decoded
        obtain ⟨highSmall, highValue⟩ := continuation?_eq_some_iff.mp highRead
        obtain ⟨middleSmall, middleValue⟩ := continuation?_eq_some_iff.mp middleRead
        obtain ⟨lowSmall, lowValue⟩ := continuation?_eq_some_iff.mp lowRead
        obtain ⟨enough, value⟩ := charFrom?_eq_some_iff.mp read
        have leadValue : first.toNat = first.toNat - 0xF0 + 0xF0 := by omega
        rw [encodeChar_four (by omega) highSmall middleSmall lowSmall enough value,
          ← eq_ofNat leadValue, ← eq_ofNat highValue, ← eq_ofNat middleValue, ← eq_ofNat lowValue]
        rfl
      · cases decoded
    · cases decoded

/-! ### Whole texts -/

theorem decode?_encode (text : List Char) : decode? (encode text) = some text := by
  induction text with
  | nil =>
    unfold decode?
    rfl
  | cons c text ih =>
    have decoded := decodeChar?_encode c (encode text)
    rw [encode_cons]
    cases bytes : String.utf8EncodeChar c ++ encode text with
    | nil =>
      rw [bytes] at decoded
      cases decoded
    | cons first behind =>
      rw [bytes] at decoded
      unfold decode?
      simp only
      split
      · rename_i same
        rw [decoded] at same
        cases same
        rw [ih]
        rfl
      · rename_i same
        rw [decoded] at same
        cases same

/-- **Bytes are decoded to a text exactly when they are its bytes.** -/
theorem decode?_eq_some_iff {bytes : List UInt8} {text : List Char} :
    decode? bytes = some text ↔ bytes = encode text := by
  constructor
  · intro decoded
    fun_induction decode? bytes generalizing text with
    | case1 =>
      cases decoded
      rfl
    | case2 first behind c rest step _ ih =>
      obtain ⟨more, read, rfl⟩ := Option.map_eq_some_iff.mp decoded
      rw [encode_of_decodeChar? step, ih read, encode_cons]
    | case3 => cases decoded
  · rintro rfl
    exact decode?_encode text

theorem decode?_isSome_iff {bytes : List UInt8} : (decode? bytes).isSome = true ↔ IsUtf8 bytes := by
  unfold IsUtf8
  rw [Option.isSome_iff_exists]
  exact exists_congr fun text => decode?_eq_some_iff

theorem encode_injective {text other : List Char} (same : encode text = encode other) :
    text = other := by
  have decoded := decode?_encode text
  rw [same, decode?_encode] at decoded
  exact (Option.some.inj decoded).symm

/-! ### Line feeds -/

theorem ofNat_ne_newline {value : Nat} (high : 0x80 ≤ value) (low : value < 0x100) :
    (0x0A : UInt8) ≠ UInt8.ofNat value := by
  intro same
  have values := congrArg UInt8.toNat same
  rw [UInt8.toNat_ofNat'] at values
  change 10 = _ at values
  omega

/-- The byte of the line feed belongs to no other character. -/
theorem newline_notMem {c : Char} (other : c ≠ '\n') :
    (0x0A : UInt8) ∉ String.utf8EncodeChar c := by
  have code : c.val.toNat ≠ 10 := by
    intro same
    refine other (Char.ext (UInt32.toNat_inj.mp ?_))
    exact same
  intro member
  unfold String.utf8EncodeChar at member
  simp only at member
  split at member
  · have values := congrArg UInt8.toNat (List.mem_singleton.mp member)
    rw [UInt8.toNat_ofNat'] at values
    change 10 = _ at values
    omega
  split at member
  · simp only [List.mem_cons, List.not_mem_nil, or_false] at member
    rcases member with lead | low
    · exact ofNat_ne_newline (by omega) (by omega) lead
    · exact ofNat_ne_newline (by omega) (by omega) low
  split at member
  · simp only [List.mem_cons, List.not_mem_nil, or_false] at member
    rcases member with lead | middle | low
    · exact ofNat_ne_newline (by omega) (by omega) lead
    · exact ofNat_ne_newline (by omega) (by omega) middle
    · exact ofNat_ne_newline (by omega) (by omega) low
  · simp only [List.mem_cons, List.not_mem_nil, or_false] at member
    rcases member with lead | high | middle | low
    · exact ofNat_ne_newline (by omega) (by omega) lead
    · exact ofNat_ne_newline (by omega) (by omega) high
    · exact ofNat_ne_newline (by omega) (by omega) middle
    · exact ofNat_ne_newline (by omega) (by omega) low

end CheckerFixtures.Utf8
