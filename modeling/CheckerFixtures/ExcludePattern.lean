/-
**Exclude patterns.**

A pattern describes whole paths. A question mark is any character, a star any text, also across
slashes, and brackets hold a class of characters. Two stars stand for any number of whole path
components and have to be a component of their own.

* `parse`: the pattern of a text, or where the text goes wrong;
* `accepts`: whether a pattern describes a text;
* `accepts_star`: a star alone describes every text.
-/

namespace CheckerFixtures

/-- Why a text is no pattern. -/
inductive PatternFault where
  /-- Three stars or more in a row. -/
  | tooManyStars
  /-- Two stars next to another character. -/
  | starsInComponent
  /-- A bracket that opens no class. -/
  | badClass
deriving DecidableEq, Repr

/-- A fault and the character at which it was noticed. -/
structure PatternError where
  position : Nat
  fault : PatternFault
deriving DecidableEq, Repr

def PatternFault.message : PatternFault → String
  | tooManyStars => "wildcards are either regular `*` or recursive `**`"
  | starsInComponent => "recursive wildcards must form a single path component"
  | badClass => "invalid range pattern"

def PatternError.message (error : PatternError) : String :=
  "Pattern syntax error near position " ++ toString error.position ++ ": " ++ error.fault.message

/-- What a pattern asks of a text, piece by piece. -/
inductive PatternToken where
  | char (c : Char)
  | anyChar
  | anyText
  /-- Any number of whole path components. -/
  | anyComponents
  /-- A character in one of some ranges, or in none of them. -/
  | oneOf (negated : Bool) (ranges : List (Char × Char))
deriving DecidableEq, Repr

/-- A pattern for whole paths. -/
structure ExcludePattern where
  tokens : List PatternToken
deriving DecidableEq, Repr

namespace ExcludePattern

/-! ### Reading patterns -/

/-- The ranges of a class; a single character is a range of its own. -/
def classRanges : List Char → List (Char × Char)
  | low :: '-' :: high :: rest => (low, high) :: classRanges rest
  | c :: rest => (c, c) :: classRanges rest
  | [] => []

/-- The members of a class and what follows it. A class has at least one member, so a bracket
that comes first is one. -/
def classBody? : List Char → Option (List Char × List Char)
  | [] => none
  | first :: rest =>
    match rest.dropWhile (· ≠ ']') with
    | [] => none
    | _ :: behind => some (first :: rest.takeWhile (· ≠ ']'), behind)

theorem length_classBody? {text members behind : List Char}
    (read : classBody? text = some (members, behind)) : behind.length < text.length := by
  cases text with
  | nil => cases read
  | cons first rest =>
    have shorter := (List.dropWhile_sublist (l := rest) (· ≠ ']')).length_le
    rw [classBody?] at read
    split at read
    · cases read
    · rename_i found
      cases read
      rw [found] at shorter
      simp only [List.length_cons] at shorter ⊢
      omega

/-- Whether a class is negated, and what follows the sign of that. -/
def splitNegation : List Char → Bool × List Char
  | '!' :: body => (true, body)
  | body => (false, body)

theorem length_splitNegation (text : List Char) : (splitNegation text).2.length ≤ text.length := by
  unfold splitNegation
  split <;> simp

/-- Appends a token for whole components; behind another one it would add nothing. -/
def pushComponents (tokens : List PatternToken) : List PatternToken :=
  if 1 < tokens.length ∧ tokens.getLast? = some .anyComponents then tokens
  else tokens ++ [.anyComponents]

/-- Reads a pattern from a position on, behind a character and some tokens. -/
def parseFrom (position : Nat) (previous : Option Char) (tokens : List PatternToken)
    (text : List Char) : Except PatternError (List PatternToken) :=
  match text with
  | [] => .ok tokens
  | '?' :: rest => parseFrom (position + 1) (some '?') (tokens ++ [.anyChar]) rest
  -- the third star is the one too many
  | '*' :: '*' :: '*' :: _ => .error ⟨position + 2, .tooManyStars⟩
  | '*' :: '*' :: rest =>
    if previous = none ∨ previous = some '/' then
      match rest with
      | [] => .ok (pushComponents tokens)
      | c :: rest =>
        if c = '/' then parseFrom (position + 3) (some '/') (pushComponents tokens) rest
        else .error ⟨position + 2, .starsInComponent⟩
    else .error ⟨position - 1, .starsInComponent⟩
  | '*' :: rest => parseFrom (position + 1) (some '*') (tokens ++ [.anyText]) rest
  | '[' :: rest =>
    match read : classBody? (splitNegation rest).2 with
    | none => .error ⟨position, .badClass⟩
    | some (members, behind) =>
      have := length_classBody? read
      have := length_splitNegation rest
      parseFrom (position + (rest.length + 1 - behind.length)) (some ']')
        (tokens ++ [.oneOf (splitNegation rest).1 (classRanges members)]) behind
  | c :: rest => parseFrom (position + 1) (some c) (tokens ++ [.char c]) rest
termination_by text.length
decreasing_by all_goals simp only [List.length_cons]; omega

def parse (text : String) : Except PatternError ExcludePattern :=
  (parseFrom 0 none [] text.toList).map ExcludePattern.mk

/-! ### Matching -/

/-- The outcome of an attempt to match. -/
inductive Attempt where
  | matched
  /-- A later start of the text behind a star may still match. -/
  | failed
  /-- The text ended inside the pattern, so no later start can match. -/
  | exhausted
deriving DecidableEq, Repr

def inRange (c : Char) (range : Char × Char) : Bool := range.1 ≤ c && c ≤ range.2

/-- Whether a token for a single character accepts one. -/
def acceptsChar (c : Char) : PatternToken → Bool
  | .char expected => c = expected
  | .anyChar => true
  | .oneOf negated ranges => ranges.any (inRange c) != negated
  | .anyText => true
  | .anyComponents => true

/-- Tries the rest of a pattern behind each character, where whole components are meant behind
each slash only; at the end of the text the rest has to match nothing. -/
def sweep (attempt : List Char → Attempt) (components : Bool) : List Char → Attempt
  | [] => attempt []
  | c :: text =>
    if components && c ≠ '/' then sweep attempt components text
    else match attempt text with
      | .failed => sweep attempt components text
      | outcome => outcome

/-- Tries the rest of a pattern at once and then further on. -/
def skip (attempt : List Char → Attempt) (components : Bool) (text : List Char) : Attempt :=
  match attempt text with
  | .failed => sweep attempt components text
  | outcome => outcome

/-- Matches tokens with a text. -/
def attempt : List PatternToken → List Char → Attempt
  | [], [] => .matched
  | [], _ :: _ => .failed
  | .anyText :: tokens, text => skip (attempt tokens) false text
  | .anyComponents :: tokens, text => skip (attempt tokens) true text
  | _ :: _, [] => .exhausted
  | token :: tokens, c :: text => if acceptsChar c token then attempt tokens text else .failed

/-- Whether a pattern describes a text. -/
def accepts (pattern : ExcludePattern) (text : String) : Bool :=
  attempt pattern.tokens text.toList = .matched

/-- A star alone describes every text. -/
theorem accepts_star (text : String) : accepts ⟨[.anyText]⟩ text = true := by
  have reach : ∀ rest : List Char, sweep (attempt []) false rest = .matched := by
    intro rest
    induction rest with
    | nil => rfl
    | cons c rest ih =>
      rw [sweep]
      cases rest with
      | nil => rfl
      | cons d rest => simpa [attempt] using ih
  simp only [accepts, attempt, skip]
  cases text.toList <;> simp [attempt, reach]

end ExcludePattern

end CheckerFixtures
