/-
**TOML documents.**

A document is read line by line: comments, headers of sections, and values under keys. Values nest
below a fixed depth.

* `value`: one value;
* `parse?`: a whole document, as the members of its root table.
-/

import CheckerFixtures.Toml.Number
import CheckerFixtures.Toml.Value

namespace CheckerFixtures.Toml

/-! ### Readers -/

/-- A reader takes characters off the front of a text, or fails. -/
abbrev Reader := StateT (List Char) Option

namespace Reader

/-- The next character, which stays unread. -/
def peek? : Reader (Option Char) := do return (← get).head?

/-- Takes a given text. -/
def token (lead : List Char) : Reader Unit := do
  let rest ← Text.stripLead? lead (← get)
  set rest

/-- Takes a given text if it comes next. -/
def tryToken (lead : List Char) : Reader Bool := do
  match Text.stripLead? lead (← get) with
  | some rest => set rest; return true
  | none => return false

/-- Takes characters as long as a test holds. -/
def takeWhile (test : Char → Bool) : Reader (List Char) := do
  let text ← get
  set (text.dropWhile test)
  return text.takeWhile test

end Reader

open Reader

/-! ### Blanks, comments and line ends -/

/-- Spaces and tabs are the only blanks inside a line. -/
def isInlineBlank (c : Char) : Bool := c = ' ' || c = '\t'

/-- A character that may stand in a line: no control character but the tab. -/
def isPlain (c : Char) : Bool := c = '\t' || (0x20 ≤ c.toNat && c.toNat ≠ 0x7F)

def blanks : Reader Unit := discard (takeWhile isInlineBlank)

/-- Takes a line end if one comes next. -/
def tryLineEnd : Reader Bool := do
  if ← tryToken ['\n'] then return true
  tryToken ['\r', '\n']

/-- Takes a comment, if one comes next, up to the end of its line. -/
def tryComment : Reader Unit := do
  if ← tryToken ['#'] then discard (takeWhile isPlain)

/-- Takes what may follow on a line, and the line end or the end of the text. -/
def lineRest : Reader Unit := do
  blanks
  tryComment
  if (← get) = [] then return
  guard (← tryLineEnd)

/-- Takes blanks, comments and line ends; a comment has to end its line. -/
def anyBlanks : Nat → Reader Unit
  | 0 => failure
  | fuel + 1 => do
    blanks
    match ← peek? with
    | some '#' =>
      tryComment
      guard (← tryLineEnd)
      anyBlanks fuel
    | some '\n' => discard tryLineEnd; anyBlanks fuel
    | some '\r' => guard (← tryLineEnd); anyBlanks fuel
    | _ => return

def spacing : Reader Unit := do anyBlanks ((← get).length + 1)

/-! ### Strings -/

/-- The escapes of one letter. -/
def simpleEscapes : List (Char × Char) :=
  [('b', '\x08'), ('t', '\t'), ('n', '\n'), ('f', '\x0c'), ('r', '\r'), ('"', '"'), ('\\', '\\')]

/-- A character given by exactly so many hexadecimal digits. -/
def hexEscape (count : Nat) : Reader Char := do
  let digits := ((← get).take count).takeWhile Literal.isHexDigit
  guard (digits.length = count)
  modify (·.drop count)
  (Literal.scalar? (Literal.hexNumber digits) : Option Char)

/-- The character that an escape behind its backslash denotes. -/
def escaped : Reader Char := do
  match ← get with
  | [] => failure
  | c :: rest =>
    set rest
    if c = 'u' then hexEscape 4
    else if c = 'U' then hexEscape 8
    else (simpleEscapes.lookup c : Option Char)

/-- The rest of a basic string on one line. -/
def basicRest : Nat → Reader (List Char)
  | 0 => failure
  | fuel + 1 => do
    match ← get with
    | [] => failure
    | '"' :: rest => set rest; return []
    | '\\' :: rest =>
      set rest
      let c ← escaped
      return c :: (← basicRest fuel)
    | c :: rest =>
      guard (isPlain c)
      set rest
      return c :: (← basicRest fuel)

/-- Whether the end of the line is escaped: nothing but blanks comes before it. -/
def lineEndFollows (text : List Char) : Bool :=
  match text.dropWhile isInlineBlank with
  | '\n' :: _ => true
  | '\r' :: '\n' :: _ => true
  | _ => false

def dropLineEnds : List Char → List Char
  | '\n' :: rest => dropLineEnds rest
  | '\r' :: '\n' :: rest => dropLineEnds rest
  | c :: rest => if isInlineBlank c then dropLineEnds rest else c :: rest
  | [] => []

/-- A run of quotes inside a string that three of them close: up to two may come before the
closing ones. Answers how many belong to the content, and whether the string is closed. -/
def closingQuotes (count : Nat) : Nat × Bool :=
  if count < 3 then (count, false) else (min (count - 3) 2, true)

/-- The rest of a string over several lines. Line ends count as line feeds. -/
def multilineRest (quote : Char) (escapes : Bool) : Nat → Reader (List Char)
  | 0 => failure
  | fuel + 1 => do
    let text ← get
    match text with
    | [] => failure
    | c :: rest =>
      if c = quote then
        let (kept, closed) := closingQuotes (text.takeWhile (· = quote)).length
        if closed then
          set (text.drop (kept + 3))
          return List.replicate kept quote
        else
          set (text.drop kept)
          return List.replicate kept quote ++ (← multilineRest quote escapes fuel)
      else if escapes ∧ c = '\\' then
        if lineEndFollows rest then
          set (dropLineEnds rest)
          multilineRest quote escapes fuel
        else
          set rest
          let c ← escaped
          return c :: (← multilineRest quote escapes fuel)
      else if ← tryLineEnd then
        return '\n' :: (← multilineRest quote escapes fuel)
      else
        guard (isPlain c)
        set rest
        return c :: (← multilineRest quote escapes fuel)

/-- The rest of a literal string on one line. -/
def literalRest : Reader (List Char) := do
  let content ← takeWhile fun c => isPlain c && c ≠ '\''
  token ['\'']
  return content

/-- A string of any of the four kinds. -/
def string : Reader (List Char) := do
  let fuel := (← get).length + 1
  if ← tryToken ['"', '"', '"'] then
    discard tryLineEnd
    multilineRest '"' true fuel
  else if ← tryToken ['\'', '\'', '\''] then
    discard tryLineEnd
    multilineRest '\'' false fuel
  else if ← tryToken ['"'] then basicRest fuel
  else
    token ['\'']
    literalRest

/-! ### Keys -/

/-- Letters, digits, underscores and hyphens need no quotes in a key. -/
def isBareKeyChar (c : Char) : Bool := c.isAlphanum || c = '_' || c = '-'

def keyPart : Reader String := do
  match ← peek? with
  | some '"' => token ['"']; return String.ofList (← basicRest ((← get).length + 1))
  | some '\'' => token ['\'']; return String.ofList (← literalRest)
  | _ =>
    let part ← takeWhile isBareKeyChar
    guard (part ≠ [])
    return String.ofList part

/-- Values and keys nest less deeply than this. -/
def depthBound : Nat := 80

/-- The parts of a key between dots, each with blanks around it. -/
def keyParts : Nat → Reader (List String)
  | 0 => failure
  | fuel + 1 => do
    blanks
    let part ← keyPart
    blanks
    if ← tryToken ['.'] then return part :: (← keyParts fuel)
    return [part]

/-- A dotted key: the way to a table, and the key in it. -/
def dottedKey : Reader (List String × String) := do
  let parts ← keyParts depthBound
  guard (parts.length < depthBound)
  return (parts.dropLast, (← (parts.getLast? : Option String)))

/-! ### Values -/

/-- The characters of numbers and moments. -/
def isRunChar (c : Char) : Bool := c.isAlphanum || ['+', '-', '_', '.', ':'].contains c

/-- A date may be followed by a time of day behind a single space. -/
def trySpacedTime (run : List Char) : Reader Unit := do
  if afterDate? run = some [] then
    match ← get with
    | ' ' :: rest =>
      let time := rest.takeWhile isRunChar
      if isZonedTime time then set (rest.drop time.length)
    | _ => return

/-- A number, a moment or a truth value. -/
def run : Reader Value := do
  let text ← takeWhile isRunChar
  if text = "true".toList then return .truth true
  if text = "false".toList then return .truth false
  let value ← (runValue? text : Option Value)
  trySpacedTime text
  return value

mutual

/-- A value at a depth. -/
def value (depth : Nat) : Nat → Reader Value
  | 0 => failure
  | fuel + 1 => do
    match ← peek? with
    | some '"' => return .text (String.ofList (← string))
    | some '\'' => return .text (String.ofList (← string))
    | some '[' =>
      token ['[']
      guard (depth + 1 < depthBound)
      return .array (← arrayRest (depth + 1) fuel)
    | some '\x7b' =>
      token ['\x7b']
      guard (depth + 1 < depthBound)
      blanks
      if ← tryToken ['\x7d'] then return .table .inlined []
      let members ← Members.putAll [] (← inlineRest (depth + 1) fuel)
      return .table .inlined members
    | _ => run

/-- The items of an array behind its bracket or a comma. -/
def arrayRest (depth : Nat) : Nat → Reader (List Value)
  | 0 => failure
  | fuel + 1 => do
    spacing
    if ← tryToken [']'] then return []
    let first ← value depth fuel
    spacing
    if ← tryToken [','] then return first :: (← arrayRest depth fuel)
    token [']']
    return [first]

/-- The entries of an inline table behind its brace or a comma. -/
def inlineRest (depth : Nat) : Nat → Reader (List (List String × String × Value))
  | 0 => failure
  | fuel + 1 => do
    let (way, key) ← dottedKey
    token ['=']
    blanks
    let content ← value depth fuel
    blanks
    if ← tryToken [','] then return (way, key, content) :: (← inlineRest depth fuel)
    token ['\x7d']
    return [(way, key, content)]

end

/-! ### Lines -/

/-- What a line adds to a document. -/
inductive Line where
  | blank
  /-- The header of a table. -/
  | table (way : List String) (key : String)
  /-- A header that may be repeated. -/
  | element (way : List String) (key : String)
  | entry (way : List String) (key : String) (content : Value)
deriving Inhabited

def line : Reader Line := do
  blanks
  match ← peek? with
  | none => return .blank
  | some '#' => lineRest; return .blank
  | some '\n' => lineRest; return .blank
  | some '\r' => lineRest; return .blank
  | some '[' =>
    token ['[']
    if ← tryToken ['['] then
      let (way, key) ← dottedKey
      token [']', ']']
      lineRest
      return .element way key
    else
      let (way, key) ← dottedKey
      token [']']
      lineRest
      return .table way key
  | _ =>
    let (way, key) ← dottedKey
    token ['=']
    blanks
    let content ← value 0 (2 * (← get).length + 2)
    lineRest
    return .entry way key content

/-- Reads lines up to the end of the text. -/
def linesWithin : Nat → Reader (List Line)
  | 0 => failure
  | fuel + 1 => do
    if (← get) = [] then return []
    let first ← line
    return first :: (← linesWithin fuel)

/-! ### Documents -/

/-- The entries of the section that lines begin with, and the lines from the next header on. -/
def sectionEntries : List Line → List (List String × String × Value) × List Line
  | .blank :: lines => sectionEntries lines
  | .entry way key content :: lines =>
    let (entries, rest) := sectionEntries lines
    ((way, key, content) :: entries, rest)
  | lines => ([], lines)

/-- Adds the sections of lines that begin with a header. -/
def addSections (members : Members) : List Line → Option Members
  | [] => some members
  | .table way key :: lines => do
    let members ← members.within (Members.addTable key (sectionEntries lines).1) way
    addSections members lines
  | .element way key :: lines => do
    let members ← members.within (Members.addElement key (sectionEntries lines).1) way
    addSections members lines
  | _ :: lines => addSections members lines

/-- The root table of a document. A byte order mark at the start is passed over. -/
def parse? (text : List Char) : Option Members := do
  let text := (Text.stripLead? ['\ufeff'] text).getD text
  let (lines, _) ← (linesWithin (text.length + 1)).run text
  let root ← Members.putAll [] (sectionEntries lines).1
  addSections root lines

end CheckerFixtures.Toml
