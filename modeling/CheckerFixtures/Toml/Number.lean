/-
**TOML numbers and moments.**

A number or a moment is a run of letters, digits and a few marks. Whether such a run is one is
decided here as a whole.

* `grouped`: digits with single underscores between them;
* `runValue?`: what a run denotes.
-/

import CheckerFixtures.Pragma.Literal
import CheckerFixtures.Text.Search
import CheckerFixtures.Toml.Value

namespace CheckerFixtures.Toml

/-! ### Digits -/

/-- Digits of a kind, with single underscores between them. -/
def grouped (isDigit : Char → Bool) : List Char → Bool
  | [] => false
  | [c] => isDigit c
  | c :: '_' :: rest => isDigit c && grouped isDigit rest
  | c :: rest => isDigit c && grouped isDigit rest

def ungrouped (text : List Char) : List Char := text.filter (· ≠ '_')

/-- The number that digits of a base denote. -/
def valueOf (base : Nat) (digits : List Char) : Nat :=
  digits.foldl (fun number digit => base * number + Literal.hexValue digit) 0

/-- A sign, if there is one, and the rest. -/
def splitSign : List Char → Bool × List Char
  | '-' :: rest => (true, rest)
  | '+' :: rest => (false, rest)
  | rest => (false, rest)

/-! ### Integers -/

/-- Decimal digits without a superfluous zero in front. -/
def isDecimal (text : List Char) : Bool :=
  grouped Char.isDigit text && (text.length = 1 || text.head? ≠ some '0')

/-- The number of negative values of a machine word of 64 bits. -/
def negativeWords : Nat := 9223372036854775808

/-- Whether a sign and a size fit 64 bits. -/
def fitsSigned (negative : Bool) (size : Nat) : Bool :=
  if negative then size ≤ negativeWords else size < negativeWords

/-- Whether a digit is below a base of at most ten. -/
def isDigitBelow (base : Nat) (c : Char) : Bool := c.isDigit && Literal.hexValue c < base

/-- Whether a text is a number of a base other than ten that fits 64 bits. -/
def isBased (base : Nat) (isDigit : Char → Bool) (text : List Char) : Bool :=
  grouped isDigit text && fitsSigned false (valueOf base (ungrouped text))

def isInteger (text : List Char) : Bool :=
  match text with
  | '0' :: 'x' :: digits => isBased 16 Literal.isHexDigit digits
  | '0' :: 'o' :: digits => isBased 8 (isDigitBelow 8) digits
  | '0' :: 'b' :: digits => isBased 2 (isDigitBelow 2) digits
  | _ =>
    let (negative, digits) := splitSign text
    isDecimal digits && fitsSigned negative (valueOf 10 (ungrouped digits))

/-! ### Fractions -/

/-- Whether a number with digits and a decimal exponent is too large for a double: it would round
to 2^1024 or more. -/
def overflows (digits : List Char) (exponent : Int) : Bool :=
  let mantissa := valueOf 10 digits
  let magnitude := ((Nat.toDigits 10 mantissa).length : Int) + exponent
  -- far from the bound the number of digits decides, so no huge power is computed
  if mantissa = 0 ∨ magnitude < 300 then false
  else if magnitude > 320 then true
  else
    let bound := Nat.pow 2 1024 - Nat.pow 2 970
    let scale := Nat.pow 10 exponent.natAbs
    if exponent < 0 then bound * scale ≤ mantissa else bound ≤ mantissa * scale

/-- The exponent behind its letter. -/
def exponentOf? (text : List Char) : Option Int :=
  let (negative, digits) := splitSign text
  if grouped Char.isDigit digits then
    let size : Int := valueOf 10 (ungrouped digits)
    some (if negative then -size else size)
  else none

/-- Whether a character begins an exponent. -/
def isExponentMark (c : Char) : Bool := c = 'e' || c = 'E'

/-- Whether a run is a number with a fraction or an exponent, or a name for none. A positive number
must not overflow. -/
def isFraction (text : List Char) : Bool :=
  let (negative, unsigned) := splitSign text
  if unsigned = "inf".toList ∨ unsigned = "nan".toList then true
  else
    let whole := unsigned.takeWhile fun c => c.isDigit || c = '_'
    let behind := unsigned.dropWhile fun c => c.isDigit || c = '_'
    let (fraction?, power) := match behind with
      | '.' :: rest =>
        (some (rest.takeWhile (!isExponentMark ·)), rest.dropWhile (!isExponentMark ·))
      | rest => (none, rest)
    let exponent? := match power with
      | [] => if fraction?.isSome then some 0 else none
      | mark :: rest => if isExponentMark mark then exponentOf? rest else none
    match exponent? with
    | none => false
    | some exponent =>
      let fraction := fraction?.getD ['0']
      isDecimal whole && grouped Char.isDigit fraction &&
        (negative ||
          !overflows (ungrouped whole ++ ungrouped fraction)
            (exponent - (ungrouped fraction).length))

/-! ### Moments -/

/-- A number of exactly so many digits at the front. -/
def digits? (count : Nat) (text : List Char) : Option (Nat × List Char) :=
  let digits := text.take count
  if digits.length = count ∧ digits.all Char.isDigit then some (valueOf 10 digits, text.drop count)
  else none

def daysIn (year month : Nat) : Nat :=
  if month = 2 then
    if year % 4 = 0 ∧ (year % 100 ≠ 0 ∨ year % 400 = 0) then 29 else 28
  else if month = 4 ∨ month = 6 ∨ month = 9 ∨ month = 11 then 30
  else 31

/-- What follows a date. -/
def afterDate? (text : List Char) : Option (List Char) := do
  let (year, rest) ← digits? 4 text
  let (month, rest) ← digits? 2 (← Text.stripLead? ['-'] rest)
  let (day, rest) ← digits? 2 (← Text.stripLead? ['-'] rest)
  if 1 ≤ month ∧ month ≤ 12 ∧ 1 ≤ day ∧ day ≤ daysIn year month then some rest else none

/-- What follows an hour and a minute. -/
def afterMinute? (text : List Char) : Option (List Char) := do
  let (hour, rest) ← digits? 2 text
  let (minute, rest) ← digits? 2 (← Text.stripLead? [':'] rest)
  if hour < 24 ∧ minute < 60 then some rest else none

/-- What follows a time of day. A minute may have a leap second. -/
def afterTime? (text : List Char) : Option (List Char) := do
  let rest ← afterMinute? text
  let (second, rest) ← digits? 2 (← Text.stripLead? [':'] rest)
  if second ≤ 60 then
    match rest with
    | '.' :: c :: rest => if c.isDigit then some (rest.dropWhile Char.isDigit) else none
    | rest => some rest
  else none

/-- Whether a text is nothing or an offset from universal time. -/
def isOffset : List Char → Bool
  | [] => true
  | ['Z'] => true
  | ['z'] => true
  | c :: rest => (c = '+' || c = '-') && afterMinute? rest = some []

/-- Whether a text is a time of day with an offset or without. -/
def isZonedTime (text : List Char) : Bool := (afterTime? text).any isOffset

/-- Whether a run is a date, a time of day, or both with a letter between them. -/
def isMoment (text : List Char) : Bool :=
  match afterDate? text with
  | none => afterTime? text = some []
  | some [] => true
  | some (c :: rest) => (c = 'T' || c = 't') && isZonedTime rest

def runValue? (text : List Char) : Option Value :=
  if isInteger text || isFraction text then some .number
  else if isMoment text then some .moment
  else none

end CheckerFixtures.Toml
