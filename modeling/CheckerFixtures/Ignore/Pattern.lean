/-
**Patterns of ignore files.**

A pattern describes whole paths, byte by byte. A question mark is any byte but a slash, a star any
run of them, brackets hold a class, braces hold alternatives, and a backslash takes away the
meaning of the next character. Two stars between slashes, or at an end, stand for any number of
path components. A bracket that is never closed stands for itself, as do all brackets behind it.

* `Matcher.rests`: what a matcher leaves of a text, in every way it can match;
* `mem_rests_seq`: a sequence matches one part after the other;
* `length_read`: a class that was read took at least its closing bracket;
* `parse?`: the matcher of a pattern.
-/

import CheckerFixtures.Text.Utf8

namespace CheckerFixtures.Ignore

/-! ### Matchers -/

/-- A class of bytes: those in some ranges, or those in none of them. -/
structure ByteClass where
  negated : Bool
  ranges : List (UInt8 × UInt8)
deriving DecidableEq, Repr

def ByteClass.has (class_ : ByteClass) (byte : UInt8) : Bool :=
  (class_.ranges.any fun (low, high) => low ≤ byte && byte ≤ high) != class_.negated

def ByteClass.all : ByteClass := ⟨true, []⟩

def ByteClass.slash : ByteClass := ⟨false, [(0x2F, 0x2F)]⟩

def ByteClass.notSlash : ByteClass := ⟨true, [(0x2F, 0x2F)]⟩

/-- What a pattern asks of a string of bytes. -/
inductive Matcher where
  /-- No byte at all. -/
  | empty
  | one (class_ : ByteClass)
  /-- Any number of bytes of a class. -/
  | many (class_ : ByteClass)
  | seq (first second : Matcher)
  | either (first second : Matcher)
deriving Repr

namespace Matcher

/-- The text itself and what is left of it behind each byte of a class at its front. -/
def restsOfMany (class_ : ByteClass) : List UInt8 → List (List UInt8)
  | [] => [[]]
  | byte :: rest =>
    (byte :: rest) :: (if class_.has byte then restsOfMany class_ rest else [])

/-- What a matcher leaves of a text, in every way it can match at the front. -/
def rests : Matcher → List UInt8 → List (List UInt8)
  | empty, text => [text]
  | one _, [] => []
  | one class_, byte :: rest => if class_.has byte then [rest] else []
  | many class_, text => restsOfMany class_ text
  | seq first second, text => ((rests first text).flatMap (rests second)).eraseDups
  | either first second, text => rests first text ++ rests second text

/-- Whether a matcher describes a whole text. -/
def accepts (matcher : Matcher) (text : List UInt8) : Bool := (matcher.rests text).contains []

/-- A sequence matches one part after the other. -/
theorem mem_rests_seq (first second : Matcher) (text rest : List UInt8) :
    rest ∈ (seq first second).rests text ↔
      ∃ middle ∈ first.rests text, rest ∈ second.rests middle := by
  simp [rests, List.mem_eraseDups]

/-- The bytes of a character, one after the other. -/
def ofChar (c : Char) : Matcher :=
  (Utf8.encode [c]).foldr (fun byte matcher => seq (one ⟨false, [(byte, byte)]⟩) matcher) empty

end Matcher

/-! ### Tokens -/

/-- A piece of a pattern. -/
inductive Token where
  | char (c : Char)
  /-- Any byte but a slash. -/
  | any
  /-- Any bytes but slashes. -/
  | star
  /-- Nothing, or components up to a slash, at the start. -/
  | leadingComponents
  /-- A slash and anything behind it, at the end. -/
  | trailingComponents
  /-- A slash, or two with anything between them. -/
  | innerComponents
  | class_ (bytes : ByteClass)
  /-- Alternatives; without a matcher when all of them are empty. -/
  | group (matcher : Option Matcher)
deriving Repr

/-- What a token asks; an empty group asks nothing. -/
def Token.matcher? : Token → Option Matcher
  | char c => some (.ofChar c)
  | any => some (.one .notSlash)
  | star => some (.many .notSlash)
  | leadingComponents =>
    some (.either (.either .empty (.one .slash)) (.seq (.many .all) (.one .slash)))
  | trailingComponents => some (.seq (.one .slash) (.many .all))
  | innerComponents =>
    some (.either (.one .slash) (.seq (.one .slash) (.seq (.many .all) (.one .slash))))
  | class_ bytes => some (.one bytes)
  | group matcher => matcher

/-- What tokens ask one after the other, unless they ask nothing. -/
def sequence? (tokens : List Token) : Option Matcher :=
  match tokens.filterMap Token.matcher? with
  | [] => none
  | matchers => some (matchers.foldr .seq .empty)

/-- The alternatives among those that ask something. -/
def alternatives (branches : List (List Token)) : Token :=
  match branches.filterMap sequence? with
  | [] => .group none
  | first :: rest => .group (some (rest.foldl .either first))

/-! ### Where a reader stands -/

/-- A pattern, or the inside of braces, as far as it was read. -/
structure Frame where
  /-- The alternatives before the last comma. -/
  finished : List (List Token)
  /-- The tokens read since. -/
  current : List Token

/-- Where a reader of patterns stands. -/
structure Reader where
  /-- The pattern itself. -/
  base : Frame
  /-- The open braces, innermost first. -/
  braces : List Frame
  /-- The character read last. -/
  previous : Option Char
  /-- Whether opening brackets stand for themselves. -/
  plainBrackets : Bool

namespace Reader

def frame (reader : Reader) : Frame := reader.braces.headD reader.base

/-- The reader with its innermost frame replaced. -/
def setFrame (reader : Reader) (frame : Frame) : Reader :=
  match reader.braces with
  | [] => { reader with base := frame }
  | _ :: outer => { reader with braces := frame :: outer }

/-- The reader behind some tokens and a character. -/
def push (reader : Reader) (tokens : List Token) (last : Char) : Reader :=
  let frame := reader.frame
  { reader.setFrame { frame with current := frame.current ++ tokens } with previous := some last }

def openBrace (reader : Reader) : Reader :=
  { reader with braces := ⟨[], []⟩ :: reader.braces, previous := some '\x7b' }

/-- Closes the innermost alternatives. -/
def closeBrace? (reader : Reader) : Option Reader :=
  match reader.braces with
  | [] => none
  | inner :: outer =>
    some ({ reader with braces := outer }.push
      [alternatives (inner.finished ++ [inner.current])] '\x7d')

/-- A comma separates alternatives inside braces and stands for itself elsewhere. -/
def comma (reader : Reader) : Reader :=
  match reader.braces with
  | [] => reader.push [.char ','] ','
  | inner :: outer =>
    { reader with
      braces := ⟨inner.finished ++ [inner.current], []⟩ :: outer
      previous := some ',' }

/-- Whether two stars stand at the start of a component. -/
def atComponentStart (reader : Reader) : Bool :=
  reader.frame.current.isEmpty || reader.previous = some '/' ||
    (!reader.braces.isEmpty && (reader.previous = some ',' || reader.previous = some '\x7b'))

/-- Whether a character ends a component: a slash, or what ends an alternative. -/
def endsComponent (reader : Reader) (next : Option Char) : Bool :=
  next = none || next = some '/' ||
    (!reader.braces.isEmpty && !reader.frame.current.isEmpty &&
      (next = some ',' || next = some '\x7d'))

/-- Takes two stars that are a component of their own. They replace the slash before them; next to
others of their kind they add nothing. -/
def components (reader : Reader) (next : Option Char) : Reader :=
  let frame := reader.frame
  let last := if next = some '/' then '/' else '*'
  if frame.current.isEmpty then reader.push [.leadingComponents] last
  else
    -- the token before is a slash, or stars that took theirs already
    let token : Token := match frame.current.getLast? with
      | some .leadingComponents => .leadingComponents
      | some .trailingComponents => .trailingComponents
      | _ => if next = some '/' then .innerComponents else .trailingComponents
    (reader.setFrame { frame with current := frame.current.dropLast }).push [token] last

end Reader

/-- The bytes of the ranges of a class. A range of characters whose bytes differ in number or in
more than the last one spans the bytes between the last of its low and the first of its high
end. -/
def byteRanges (ranges : List (Char × Char)) : List (UInt8 × UInt8) :=
  ranges.flatMap fun (low, high) =>
    let lowBytes := Utf8.encode [low]
    let highBytes := Utf8.encode [high]
    if low = high then lowBytes.map fun byte => (byte, byte)
    else
      lowBytes.dropLast.map (fun byte => (byte, byte)) ++
        [(lowBytes.getLastD 0, highBytes.headD 0)] ++ highBytes.tail.map fun byte => (byte, byte)

/-! ### Reading classes -/

/-- A class as far as it was read. -/
structure OpenClass where
  negated : Bool
  ranges : List (Char × Char)
  /-- Whether no member was read yet. -/
  fresh : Bool
  /-- Whether a hyphen waits for the end of its range. -/
  inRange : Bool

/-- What comes of reading a class. -/
inductive ClassReading where
  /-- The class, and what follows its closing bracket. -/
  | closed (token : Token) (rest : List Char)
  /-- There is no closing bracket. -/
  | unclosed
  /-- A range goes downwards. -/
  | descending

namespace OpenClass

/-- The class behind one more member, or nothing when that ends a descending range. -/
def add? (open_ : OpenClass) (c : Char) : Option OpenClass :=
  if open_.inRange then
    match open_.ranges.getLast? with
    | some (low, _) =>
      if c < low then none
      else some { open_ with
        ranges := open_.ranges.dropLast ++ [(low, c)], inRange := false, fresh := false }
    | none => none
  else some { open_ with ranges := open_.ranges ++ [(c, c)], fresh := false }

/-- The class behind a hyphen: a member at the start and at the end of a range, otherwise the
sign of a range. -/
def hyphen? (open_ : OpenClass) : Option OpenClass :=
  if open_.fresh || open_.inRange then open_.add? '-'
  else some { open_ with inRange := true }

/-- The token of a class; a hyphen at its end is a member. -/
def close (open_ : OpenClass) : Token :=
  .class_ ⟨open_.negated,
    byteRanges (open_.ranges ++ if open_.inRange then [('-', '-')] else [])⟩

/-- Reads a class up to its closing bracket. A bracket that comes first is a member. -/
def read (open_ : OpenClass) : List Char → ClassReading
  | [] => .unclosed
  | c :: rest =>
    if c = ']' && !open_.fresh then .closed open_.close rest
    else
      match if c = '-' then open_.hyphen? else open_.add? c with
      | none => .descending
      | some open_ => open_.read rest

theorem length_read {open_ : OpenClass} {text rest : List Char} {token : Token}
    (closed : open_.read text = .closed token rest) : rest.length < text.length := by
  induction text generalizing open_ with
  | nil => cases closed
  | cons c text ih =>
    rw [read] at closed
    split at closed
    · cases closed
      simp
    · split at closed
      · cases closed
      · exact Nat.lt_succ_of_lt (ih closed)

/-- Reads what follows an opening bracket. -/
def ofText : List Char → ClassReading
  | '!' :: text => read ⟨true, [], true, false⟩ text
  | '^' :: text => read ⟨true, [], true, false⟩ text
  | text => read ⟨false, [], true, false⟩ text

theorem length_ofText {text rest : List Char} {token : Token}
    (closed : ofText text = .closed token rest) : rest.length < text.length := by
  unfold ofText at closed
  split at closed
  · exact Nat.lt_succ_of_lt (length_read closed)
  · exact Nat.lt_succ_of_lt (length_read closed)
  · exact length_read closed

end OpenClass

/-! ### Reading patterns -/

namespace Reader

/-- Takes two stars in front of a text, and a slash that ends their component. -/
def doubleStar (reader : Reader) (text : List Char) : Reader × List Char :=
  if reader.atComponentStart && reader.endsComponent text.head? then
    (reader.components text.head?, if text.head? = some '/' then text.tail else text)
  else (reader.push [.star, .star] '*', text)

/-- Takes a star in front of a text, together with a second one. -/
def star (reader : Reader) : List Char → Reader × List Char
  | '*' :: text => reader.doubleStar text
  | text => (reader.push [.star] '*', text)

/-- Takes an opening bracket in front of a text, and the class that it opens. -/
def bracket? (reader : Reader) (text : List Char) : Option (Reader × List Char) :=
  if reader.plainBrackets then some (reader.push [.char '['] '[', text)
  else
    match OpenClass.ofText text with
    | .closed token rest => some (reader.push [token] ']', rest)
    | .unclosed => some ({ reader.push [.char '['] '[' with plainBrackets := true }, text)
    | .descending => none

/-- Takes a backslash in front of a text, and the character that it protects. -/
def backslash? (reader : Reader) : List Char → Option (Reader × List Char)
  | [] => none
  | c :: text => some (reader.push [.char c] c, text)

/-- Takes a character in front of a text, and what belongs to it. -/
def step? (reader : Reader) (c : Char) (text : List Char) : Option (Reader × List Char) :=
  match c with
  | '?' => some (reader.push [.any] '?', text)
  | '*' => some (reader.star text)
  | '[' => reader.bracket? text
  | '\x7b' => some (reader.openBrace, text)
  | '\x7d' => reader.closeBrace?.map fun reader => (reader, text)
  | ',' => some (reader.comma, text)
  | '\\' => reader.backslash? text
  | c => some (reader.push [.char c] c, text)

theorem length_doubleStar (reader : Reader) (text : List Char) :
    (reader.doubleStar text).2.length ≤ text.length := by
  unfold doubleStar
  split
  · split <;> simp
  · simp

theorem length_star (reader : Reader) (text : List Char) :
    (reader.star text).2.length ≤ text.length := by
  unfold star
  split
  · exact Nat.le_succ_of_le (length_doubleStar _ _)
  · exact Nat.le_refl _

theorem length_bracket? {reader after : Reader} {text rest : List Char}
    (taken : reader.bracket? text = some (after, rest)) : rest.length ≤ text.length := by
  unfold bracket? at taken
  split at taken
  · cases taken
    exact Nat.le_refl _
  · split at taken
    · rename_i closed
      cases taken
      exact Nat.le_of_lt (OpenClass.length_ofText closed)
    · cases taken
      exact Nat.le_refl _
    · cases taken

theorem length_backslash? {reader after : Reader} {text rest : List Char}
    (taken : reader.backslash? text = some (after, rest)) : rest.length ≤ text.length := by
  cases text with
  | nil => cases taken
  | cons c text =>
    cases taken
    exact Nat.le_succ _

theorem length_step? {reader after : Reader} {c : Char} {text rest : List Char}
    (taken : reader.step? c text = some (after, rest)) : rest.length ≤ text.length := by
  have stars := length_star reader text
  unfold step? at taken
  split at taken
  case h_2 =>
    rw [Option.some.inj taken] at stars
    exact stars
  case h_3 => exact length_bracket? taken
  case h_5 =>
    obtain ⟨_, _, same⟩ := Option.map_eq_some_iff.mp taken
    cases same
    exact Nat.le_refl _
  case h_7 => exact length_backslash? taken
  all_goals
    cases taken
    exact Nat.le_refl _

/-- The tokens of a pattern, unless a brace stays open. -/
def tokens? (reader : Reader) : List Char → Option (List Token)
  | [] => if reader.braces.isEmpty then some reader.base.current else none
  | c :: text =>
    match taken : reader.step? c text with
    | none => none
    | some (reader, rest) =>
      have := length_step? taken
      reader.tokens? rest
termination_by text => text.length
decreasing_by simp only [List.length_cons]; omega

/-- Nothing was read yet. -/
def start : Reader := ⟨⟨[], []⟩, [], none, false⟩

end Reader

/-- The matcher of a pattern. Two stars alone describe everything. -/
def parse? (pattern : List Char) : Option Matcher := do
  match ← Reader.start.tokens? pattern with
  | [.leadingComponents] => return .many .all
  | tokens => return (sequence? tokens).getD .empty

end CheckerFixtures.Ignore
