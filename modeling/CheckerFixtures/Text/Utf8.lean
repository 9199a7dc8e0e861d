/-
**UTF-8.**

Bytes are decoded strictly: shortest forms only, no surrogates, nothing above U+10FFFF.

* `length_decodeChar?`: a decoded character took at least one byte.
-/

namespace CheckerFixtures.Utf8

/-- The payload of a continuation byte. -/
def continuation? (byte : UInt8) : Option Nat :=
  if 0x80 ≤ byte.toNat ∧ byte.toNat < 0xC0 then some (byte.toNat - 0x80) else none

/-- The character of a code point that is at least as large as its form requires. -/
def charFrom? (least code : Nat) : Option Char :=
  if least ≤ code ∧ code.isValidChar then some (Char.ofNat code) else none

/-- The first character of some bytes, and the bytes behind it. -/
def decodeChar? : List UInt8 → Option (Char × List UInt8)
  | [] => none
  | first :: rest =>
    let lead := first.toNat
    if lead < 0x80 then some (Char.ofNat lead, rest)
    else if lead < 0xC0 then none
    else if lead < 0xE0 then
      match rest with
      | second :: rest => do
        let low ← continuation? second
        let c ← charFrom? 0x80 ((lead - 0xC0) * 0x40 + low)
        return (c, rest)
      | _ => none
    else if lead < 0xF0 then
      match rest with
      | second :: third :: rest => do
        let middle ← continuation? second
        let low ← continuation? third
        let c ← charFrom? 0x800 ((lead - 0xE0) * 0x1000 + middle * 0x40 + low)
        return (c, rest)
      | _ => none
    else if lead < 0xF8 then
      match rest with
      | second :: third :: fourth :: rest => do
        let high ← continuation? second
        let middle ← continuation? third
        let low ← continuation? fourth
        let c ← charFrom? 0x10000 ((lead - 0xF0) * 0x40000 + high * 0x1000 + middle * 0x40 + low)
        return (c, rest)
      | _ => none
    else none

/-- A decoded character took at least one byte. -/
theorem length_decodeChar? {bytes rest : List UInt8} {c : Char}
    (decoded : decodeChar? bytes = some (c, rest)) : rest.length < bytes.length := by
  cases bytes with
  | nil => cases decoded
  | cons first behind =>
    simp only [decodeChar?] at decoded
    split at decoded
    · cases decoded
      simp
    split at decoded
    · cases decoded
    split at decoded
    · split at decoded
      · simp only [Option.bind_eq_bind, Option.bind_eq_some_iff, Option.pure_def,
          Option.some.injEq, Prod.mk.injEq] at decoded
        obtain ⟨_, _, _, _, _, rfl⟩ := decoded
        simp only [List.length_cons]
        omega
      · cases decoded
    split at decoded
    · split at decoded
      · simp only [Option.bind_eq_bind, Option.bind_eq_some_iff, Option.pure_def,
          Option.some.injEq, Prod.mk.injEq] at decoded
        obtain ⟨_, _, _, _, _, _, _, rfl⟩ := decoded
        simp only [List.length_cons]
        omega
      · cases decoded
    split at decoded
    · split at decoded
      · simp only [Option.bind_eq_bind, Option.bind_eq_some_iff, Option.pure_def,
          Option.some.injEq, Prod.mk.injEq] at decoded
        obtain ⟨_, _, _, _, _, _, _, _, _, rfl⟩ := decoded
        simp only [List.length_cons]
        omega
      · cases decoded
    · cases decoded

/-- The text of some bytes, unless they are no UTF-8. -/
def decode? (bytes : List UInt8) : Option (List Char) :=
  match bytes with
  | [] => some []
  | first :: behind =>
    match decoded : decodeChar? (first :: behind) with
    | some (c, rest) =>
      have := length_decodeChar? decoded
      (decode? rest).map (c :: ·)
    | none => none
termination_by bytes.length
decreasing_by exact this

/-- The bytes of a text. -/
def encode (text : List Char) : List UInt8 := text.flatMap String.utf8EncodeChar

end CheckerFixtures.Utf8
