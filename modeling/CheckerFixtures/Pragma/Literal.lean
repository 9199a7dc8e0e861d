/-
**The pieces of an issue list.**

Columns and quoted messages are read off the front of a text. Each reader answers what it read,
nothing when the text does not begin like such a piece, or an error, together with the unread
rest.

* `length_rest_column`, `length_rest_message`: a reader never lengthens the rest;
* `length_escape`: an escape that was read took at least one character.
-/

import CheckerFixtures.Issue
import CheckerFixtures.Text.Blank

namespace CheckerFixtures.Literal

/-! ### Errors -/

/-- Why a piece cannot be read. -/
inductive Fault where
  /-- A message has no closing quote. -/
  | unterminated
  /-- A backslash in a message starts no known escape; the text of the escape is kept. -/
  | invalidEscape (escape : List Char)
  /-- A column is too large; its digits are kept. -/
  | columnOverflow (digits : List Char)
deriving DecidableEq, Repr

def Fault.message : Fault → String
  | unterminated => "unterminated quoted message"
  | invalidEscape escape => "invalid escape sequence `" ++ String.ofList escape ++ "`"
  | columnOverflow digits => "column out of range: " ++ String.ofList digits

/-- What a reader answers, and what it left unread. -/
structure Reading (α : Type) where
  outcome : Except Fault (Option α)
  rest : List Char

/-! ### Blanks, single characters and columns -/

def skipBlanks (text : List Char) : List Char := text.dropWhile Text.isBlank

/-- What follows an expected character. -/
def eat? (expected : Char) : List Char → Option (List Char)
  | [] => none
  | c :: rest => if c = expected then some rest else none

theorem length_eat? {expected : Char} {text rest : List Char}
    (eaten : eat? expected text = some rest) : rest.length < text.length := by
  cases text with
  | nil => cases eaten
  | cons c text =>
    rw [eat?] at eaten
    split at eaten
    · cases eaten
      simp
    · cases eaten

/-- The number that a run of decimal digits denotes. -/
def decimal (digits : List Char) : Nat :=
  digits.foldl (fun number digit => 10 * number + (digit.toNat - '0'.toNat)) 0

/-- Reads a run of ASCII digits as a column. -/
def column (text : List Char) : Reading Nat :=
  let digits := text.takeWhile Char.isDigit
  let rest := text.dropWhile Char.isDigit
  if digits = [] then ⟨.ok none, text⟩
  else if decimal digits < wordBound then ⟨.ok (some (decimal digits)), rest⟩
  else ⟨.error (.columnOverflow digits), rest⟩

/-! ### Escapes -/

/-- Whether a character is an ASCII hexadecimal digit. -/
def isHexDigit (c : Char) : Bool :=
  c.isDigit || ('a' ≤ c && c ≤ 'f') || ('A' ≤ c && c ≤ 'F')

def hexValue (c : Char) : Nat :=
  if c.isDigit then c.toNat - '0'.toNat
  else if 'a' ≤ c then c.toNat - 'a'.toNat + 10
  else c.toNat - 'A'.toNat + 10

/-- The number that hexadecimal digits denote. -/
def hexNumber (digits : List Char) : Nat :=
  digits.foldl (fun number digit => 16 * number + hexValue digit) 0

/-- The character of a Unicode scalar value. -/
def scalar? (code : Nat) : Option Char :=
  if code.isValidChar then some (Char.ofNat code) else none

/-- What stands behind a backslash. -/
inductive Escape where
  /-- An escape that denotes a character. -/
  | denotes (c : Char) (rest : List Char)
  /-- No escape; the characters that were looked at are kept. -/
  | malformed (taken rest : List Char)
  /-- An escape that the end of the text cuts off. -/
  | cutOff
deriving Repr

/-- An escape whose digits were read, unless they denote no character. -/
def Escape.ofScalar (taken rest : List Char) : Option Char → Escape
  | some c => denotes c rest
  | none => malformed taken rest

/-- Reads an escape of a fixed number of hexadecimal digits behind its letter. -/
def fixedEscape (letter : Char) (count bound : Nat) (text : List Char) : Escape :=
  let digits := (text.take count).takeWhile isHexDigit
  let rest := text.drop digits.length
  if digits.length = count then
    .ofScalar (letter :: digits) rest
      (if hexNumber digits < bound then scalar? (hexNumber digits) else none)
  else if rest = [] then .cutOff
  else .malformed (letter :: digits) rest

/-- Reads an escape in braces, behind its opening brace. -/
def bracedEscape (text : List Char) : Escape :=
  let digits := text.takeWhile isHexDigit
  match text.dropWhile isHexDigit with
  | [] => .cutOff
  | c :: rest =>
    let taken := 'u' :: '{' :: (digits ++ [c])
    if c = '}' ∧ 1 ≤ digits.length ∧ digits.length ≤ 6 then
      .ofScalar taken rest (scalar? (hexNumber digits))
    else .malformed taken rest

/-- The escapes of one letter. -/
def simpleEscapes : List (Char × Char) :=
  [('"', '"'), ('\\', '\\'), ('\'', '\''), ('n', '\n'), ('r', '\r'), ('t', '\t'), ('0', '\x00'),
    ('a', '\x07'), ('b', '\x08'), ('f', '\x0c'), ('v', '\x0b')]

/-- Reads an escape behind its backslash. -/
def escape : List Char → Escape
  | [] => .cutOff
  | 'x' :: rest => fixedEscape 'x' 2 0x80 rest
  | 'u' :: '{' :: rest => bracedEscape rest
  | 'u' :: rest => fixedEscape 'u' 4 0x110000 rest
  | 'U' :: rest => fixedEscape 'U' 8 0x110000 rest
  | c :: rest =>
    match simpleEscapes.lookup c with
    | some denoted => .denotes denoted rest
    | none => .malformed [c] rest

theorem length_ofScalar {taken text : List Char} {value : Option Char} {c : Char}
    {rest : List Char} (read : Escape.ofScalar taken text value = .denotes c rest) :
    rest.length = text.length := by
  cases value <;> simp_all [Escape.ofScalar]

theorem length_fixedEscape {letter : Char} {count bound : Nat} {text : List Char} {c : Char}
    {rest : List Char} (read : fixedEscape letter count bound text = .denotes c rest) :
    rest.length ≤ text.length := by
  simp only [fixedEscape] at read
  split at read
  · rw [length_ofScalar read, List.length_drop]
    omega
  · split at read <;> cases read

theorem length_dropWhile_le {α : Type} (test : α → Bool) (items : List α) :
    (items.dropWhile test).length ≤ items.length :=
  (List.dropWhile_sublist test).length_le

theorem length_bracedEscape {text : List Char} {c : Char} {rest : List Char}
    (read : bracedEscape text = .denotes c rest) : rest.length < text.length := by
  have shorter := length_dropWhile_le isHexDigit text
  simp only [bracedEscape] at read
  split at read
  · cases read
  · rename_i behind
    rw [behind, List.length_cons] at shorter
    split at read
    · rw [length_ofScalar read]
      omega
    · cases read

/-- An escape that was read took at least one character. -/
theorem length_escape {text : List Char} {c : Char} {rest : List Char}
    (read : escape text = .denotes c rest) : rest.length < text.length := by
  unfold escape at read
  split at read
  · cases read
  · have := length_fixedEscape read
    simp only [List.length_cons]
    omega
  · have := length_bracedEscape read
    simp only [List.length_cons]
    omega
  · have := length_fixedEscape read
    simp only [List.length_cons]
    omega
  · have := length_fixedEscape read
    simp only [List.length_cons]
    omega
  · split at read
    · cases read
      simp
    · cases read

/-- What an escape left unread. -/
def Escape.rest : Escape → List Char
  | denotes _ rest => rest
  | malformed _ rest => rest
  | cutOff => []

theorem length_rest_fixedEscape (letter : Char) (count bound : Nat) (text : List Char) :
    (fixedEscape letter count bound text).rest.length ≤ text.length := by
  simp only [fixedEscape]
  split
  · generalize (if _ < bound then _ else none : Option Char) = value
    cases value <;> simp [Escape.ofScalar, Escape.rest]
  · split <;> simp [Escape.rest]

theorem length_rest_bracedEscape (text : List Char) :
    (bracedEscape text).rest.length ≤ text.length := by
  have shorter := length_dropWhile_le isHexDigit text
  simp only [bracedEscape]
  split
  · simp [Escape.rest]
  · rename_i behind
    rw [behind, List.length_cons] at shorter
    split
    · generalize scalar? _ = value
      cases value <;> simp only [Escape.ofScalar, Escape.rest] <;> omega
    · simp only [Escape.rest]
      omega

/-- Reading an escape never lengthens the rest. -/
theorem length_rest_escape (text : List Char) : (escape text).rest.length ≤ text.length := by
  unfold escape
  split
  · simp [Escape.rest]
  · exact Nat.le_succ_of_le (length_rest_fixedEscape ..)
  · exact Nat.le_succ_of_le (Nat.le_succ_of_le (length_rest_bracedEscape _))
  · exact Nat.le_succ_of_le (length_rest_fixedEscape ..)
  · exact Nat.le_succ_of_le (length_rest_fixedEscape ..)
  · split <;> simp [Escape.rest]

/-! ### Messages -/

/-- Puts a character before the message that a reader answers. -/
def Reading.push (c : Char) (reading : Reading (List Char)) : Reading (List Char) :=
  ⟨reading.outcome.map fun message => message.map (c :: ·), reading.rest⟩

/-- Reads a message behind its opening quote. -/
def messageBody (text : List Char) : Reading (List Char) :=
  match text with
  | [] => ⟨.error .unterminated, []⟩
  | '"' :: rest => ⟨.ok (some []), rest⟩
  | '\\' :: rest =>
    match read : escape rest with
    | .denotes c behind =>
      have := length_escape read
      (messageBody behind).push c
    | .malformed taken behind => ⟨.error (.invalidEscape ('\\' :: taken)), behind⟩
    | .cutOff => ⟨.error .unterminated, []⟩
  | c :: rest => (messageBody rest).push c
termination_by text.length

/-- Reads a double-quoted message. -/
def message (text : List Char) : Reading (List Char) :=
  match eat? '"' text with
  | none => ⟨.ok none, text⟩
  | some rest => messageBody rest

/-! ### Readers never lengthen the rest -/

theorem length_rest_column (text : List Char) : (column text).rest.length ≤ text.length := by
  have shorter := length_dropWhile_le Char.isDigit text
  simp only [column]
  split
  · exact Nat.le_refl _
  · split <;> exact shorter

theorem length_rest_messageBody (text : List Char) :
    (messageBody text).rest.length ≤ text.length := by
  fun_induction messageBody text with
  | case1 => simp
  | case2 rest => simp
  | case3 rest c behind read shorter ih =>
    simp only [Reading.push, List.length_cons]
    omega
  | case4 rest taken behind read =>
    have := length_rest_escape rest
    rw [read] at this
    simp only [List.length_cons]
    simp only [Escape.rest] at this
    omega
  | case5 rest read => simp
  | case6 c rest notQuote notBackslash ih =>
    simp only [Reading.push, List.length_cons]
    omega

theorem length_rest_message (text : List Char) : (message text).rest.length ≤ text.length := by
  unfold message
  split
  · exact Nat.le_refl _
  · rename_i rest opened
    have := length_rest_messageBody rest
    have := length_eat? opened
    omega

end CheckerFixtures.Literal
