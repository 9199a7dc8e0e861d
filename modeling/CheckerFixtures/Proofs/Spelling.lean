/-
**How messages are spelled.**

A message stands between double quotes. A character other than a quote and a backslash may stand
for itself; every character may also be written as an escape, by a letter or by its number.

* `escape_of_spellsChar`: an escape denotes its character, whatever follows it;
* `messageBody_of_spells`: a spelled message is read up to its closing quote;
* `message_of_spells`: and so is the message with its opening quote.
-/

import CheckerFixtures.Proofs.Numeral

namespace CheckerFixtures

/-- The letters that stand for a character behind a backslash, each with its code point. -/
def namedEscapes : List (Char × Nat) :=
  [('"', 0x22), ('\\', 0x5C), ('\'', 0x27), ('n', 0x0A), ('r', 0x0D), ('t', 0x09), ('0', 0x00),
    ('a', 0x07), ('b', 0x08), ('f', 0x0C), ('v', 0x0B)]

/-- The ways to write one character of a message. -/
inductive SpellsChar : List Char → Char → Prop
  | raw {c : Char} : c ≠ '"' → c ≠ '\\' → SpellsChar [c] c
  | named {letter c : Char} : (letter, c.toNat) ∈ namedEscapes → SpellsChar ['\\', letter] c
  | ascii {digits : List Char} {c : Char} : digits.length = 2 → Denotes 16 digits c.toNat →
      c.toNat ≤ 0x7F → SpellsChar ('\\' :: 'x' :: digits) c
  | short {digits : List Char} {c : Char} : digits.length = 4 → Denotes 16 digits c.toNat →
      SpellsChar ('\\' :: 'u' :: digits) c
  | braced {digits : List Char} {c : Char} : 1 ≤ digits.length → digits.length ≤ 6 →
      Denotes 16 digits c.toNat → SpellsChar ('\\' :: 'u' :: '{' :: (digits ++ ['}'])) c
  | long {digits : List Char} {c : Char} : digits.length = 8 → Denotes 16 digits c.toNat →
      SpellsChar ('\\' :: 'U' :: digits) c

/-- The ways to write a message between its quotes. -/
inductive Spells : List Char → List Char → Prop
  | nil : Spells [] []
  | cons {unit text : List Char} {c : Char} {message : List Char} :
      SpellsChar unit c → Spells text message → Spells (unit ++ text) (c :: message)

namespace Literal

/-! ### Runs of characters -/

/-- A run of characters that pass a test is taken whole, up to one that does not. -/
theorem takeWhile_run {test : Char → Bool} {run rest : List Char}
    (inside : ∀ c ∈ run, test c = true) (stop : ∀ c, rest.head? = some c → test c = false) :
    (run ++ rest).takeWhile test = run := by
  rw [List.takeWhile_append_of_pos inside]
  cases rest with
  | nil => rw [List.takeWhile_nil, List.append_nil]
  | cons c rest => rw [List.takeWhile_cons_of_neg (by simp [stop c rfl]), List.append_nil]

theorem dropWhile_run {test : Char → Bool} {run rest : List Char}
    (inside : ∀ c ∈ run, test c = true) (stop : ∀ c, rest.head? = some c → test c = false) :
    (run ++ rest).dropWhile test = rest := by
  rw [List.dropWhile_append_of_pos inside]
  cases rest with
  | nil => rfl
  | cons c rest => rw [List.dropWhile_cons_of_neg (by simp [stop c rfl])]

/-! ### Escapes -/

/-- The code point of a character denotes that character. -/
theorem scalar?_toNat (c : Char) : scalar? c.toNat = some c := by
  have valid : c.toNat.isValidChar := c.valid
  rw [scalar?, if_pos valid, Char.ofNat_toNat]

/-- Code points end at U+10FFFF. -/
theorem toNat_lt (c : Char) : c.toNat < 0x110000 := by
  have valid : c.toNat.isValidChar := c.valid
  rcases valid with low | ⟨_, high⟩
  · exact Nat.lt_trans low (by decide)
  · exact high

/-- A numeral of the right length is taken whole. -/
theorem fixedEscape_of_denotes {letter : Char} {count bound : Nat} {digits : List Char} {c : Char}
    (length : digits.length = count) (numeral : Denotes 16 digits c.toNat)
    (small : c.toNat < bound) (rest : List Char) :
    fixedEscape letter count bound (digits ++ rest) = .denotes c rest := by
  have taken : ((digits ++ rest).take count).takeWhile isHexDigit = digits := by
    rw [← length, List.take_left]
    have stop : ∀ d, ([] : List Char).head? = some d → isHexDigit d = false := by simp
    have whole := takeWhile_run (isHexDigit_of_denotes numeral) stop
    rwa [List.append_nil] at whole
  simp only [fixedEscape, taken, length, hexNumber_of_denotes numeral, if_pos small, if_true,
    scalar?_toNat]
  rw [← length, List.drop_left]
  rfl

/-- A numeral up to a closing brace is taken whole. -/
theorem bracedEscape_of_denotes {digits : List Char} {c : Char} (some : 1 ≤ digits.length)
    (few : digits.length ≤ 6) (numeral : Denotes 16 digits c.toNat) (rest : List Char) :
    bracedEscape (digits ++ '}' :: rest) = .denotes c rest := by
  have inside := isHexDigit_of_denotes numeral
  have stop : ∀ d, ('}' :: rest).head? = Option.some d → isHexDigit d = false := by
    rintro d ⟨⟩
    decide
  simp only [bracedEscape, takeWhile_run inside stop, dropWhile_run inside stop]
  rw [if_pos ⟨trivial, some, few⟩, hexNumber_of_denotes numeral, scalar?_toNat]
  rfl

theorem namedEscapes_facts :
    ∀ pair ∈ namedEscapes, simpleEscapes.lookup pair.1 = some (Char.ofNat pair.2) ∧
      pair.1 ≠ 'x' ∧ pair.1 ≠ 'u' ∧ pair.1 ≠ 'U' := by
  decide

/-- A letter that begins no numeric escape is looked up. -/
theorem escape_of_letter {letter : Char} (notX : letter ≠ 'x') (notU : letter ≠ 'u')
    (notLongU : letter ≠ 'U') (rest : List Char) :
    escape (letter :: rest) =
      match simpleEscapes.lookup letter with
      | some denoted => .denotes denoted rest
      | none => .malformed [letter] rest := by
  unfold escape
  split
  · rename_i none
    cases none
  · rename_i same
    exact absurd (List.cons.inj same).1 notX
  · rename_i same
    exact absurd (List.cons.inj same).1 notU
  · rename_i same
    exact absurd (List.cons.inj same).1 notU
  · rename_i same
    exact absurd (List.cons.inj same).1 notLongU
  · rename_i same
    cases same
    rfl

theorem escape_of_named {letter c : Char} (listed : (letter, c.toNat) ∈ namedEscapes)
    (rest : List Char) : escape (letter :: rest) = .denotes c rest := by
  obtain ⟨found, notX, notU, notLongU⟩ := namedEscapes_facts _ listed
  rw [Char.ofNat_toNat] at found
  rw [escape_of_letter notX notU notLongU, found]

/-- A numeral does not begin with a brace. -/
theorem escape_of_short {digits : List Char} {c : Char} (length : digits.length = 4)
    (numeral : Denotes 16 digits c.toNat) (rest : List Char) :
    escape ('u' :: (digits ++ rest)) = .denotes c rest := by
  have read : fixedEscape 'u' 4 0x110000 (digits ++ rest) = .denotes c rest :=
    fixedEscape_of_denotes length numeral (toNat_lt c) rest
  cases digits with
  | nil => cases length
  | cons d digits =>
    have hex := isHexDigit_of_denotes numeral d List.mem_cons_self
    have other : d ≠ '{' := by
      rintro rfl
      cases hex
    rw [List.cons_append] at read ⊢
    rw [escape]
    · exact read
    · rintro _ same
      cases same
      exact other rfl

/-- **An escape denotes its character**, whatever stands behind it. -/
theorem escape_of_spellsChar {unit : List Char} {c : Char} (spelled : SpellsChar ('\\' :: unit) c)
    (rest : List Char) : escape (unit ++ rest) = .denotes c rest := by
  cases spelled with
  | raw _ notBackslash => exact absurd rfl notBackslash
  | named listed => exact escape_of_named listed rest
  | ascii length numeral small =>
    exact fixedEscape_of_denotes length numeral (Nat.lt_succ_of_le small) rest
  | short length numeral => exact escape_of_short length numeral rest
  | braced some few numeral =>
    rw [List.cons_append, List.cons_append, List.append_assoc]
    exact bracedEscape_of_denotes some few numeral rest
  | long length numeral => exact fixedEscape_of_denotes length numeral (toNat_lt c) rest

/-! ### Messages -/

theorem messageBody_escape {text behind : List Char} {c : Char}
    (read : escape text = .denotes c behind) :
    messageBody ('\\' :: text) = (messageBody behind).push c := by
  rw [messageBody]
  split
  · rename_i read'
    rw [read] at read'
    cases read'
    rfl
  · rename_i read'
    rw [read] at read'
    cases read'
  · rename_i read'
    rw [read] at read'
    cases read'

theorem messageBody_raw {c : Char} (notQuote : c ≠ '"') (notBackslash : c ≠ '\\')
    (text : List Char) : messageBody (c :: text) = (messageBody text).push c := by
  rw [messageBody]
  · exact notQuote
  · exact notBackslash

/-- One spelled character is read, and the rest of the message behind it. -/
theorem messageBody_of_spellsChar {unit : List Char} {c : Char} (spelled : SpellsChar unit c)
    (text : List Char) : messageBody (unit ++ text) = (messageBody text).push c := by
  have shape : (∃ rest, unit = '\\' :: rest) ∨ (unit = [c] ∧ c ≠ '"' ∧ c ≠ '\\') := by
    cases spelled with
    | raw notQuote notBackslash => exact .inr ⟨rfl, notQuote, notBackslash⟩
    | named | ascii | short | braced | long => exact .inl ⟨_, rfl⟩
  rcases shape with ⟨rest, rfl⟩ | ⟨rfl, notQuote, notBackslash⟩
  · exact messageBody_escape (escape_of_spellsChar spelled text)
  · exact messageBody_raw notQuote notBackslash text

/-- **A spelled message is read up to its closing quote.** -/
theorem messageBody_of_spells {text message : List Char} (spelled : Spells text message)
    (rest : List Char) : messageBody (text ++ '"' :: rest) = ⟨.ok (some message), rest⟩ := by
  induction spelled with
  | nil => rw [List.nil_append, messageBody]
  | cons spelledChar _ ih =>
    rw [List.append_assoc, messageBody_of_spellsChar spelledChar, ih]
    rfl

theorem message_of_spells {text message : List Char} (spelled : Spells text message)
    (rest : List Char) :
    Literal.message ('"' :: (text ++ '"' :: rest)) = ⟨.ok (some message), rest⟩ := by
  rw [Literal.message, eat?, if_pos rfl]
  exact messageBody_of_spells spelled rest

end Literal

end CheckerFixtures
