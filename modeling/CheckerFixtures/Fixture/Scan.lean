/-
**Reading a fixture line by line.**

Each line is searched for a comment; the pragma in it is attached to a code line. A pragma on a
comment line of its own describes the next line, and such lines chain: the pragmas of a run of
them, and one behind the code, end up together on the code line.

    // [E1]: 1 "a"          describes the next line
    // [E2]: 2 "b"          joins it on the same code line
    doSomething() // [E3]   describes this line

* `Scan.feed`: one line of the pass;
* `ofText`, `ofBytes`: the fixture of a text, and of bytes that are decoded line by line.
-/

import CheckerFixtures.Fixture
import CheckerFixtures.Path
import CheckerFixtures.Pragma.Clause
import CheckerFixtures.Text.Lines
import CheckerFixtures.Text.Utf8

namespace CheckerFixtures

/-! ### One line -/

/-- A pragma as it was found on a line. -/
structure Annotation where
  pragma : Pragma
  /-- Whether the line holds nothing in front of the comment. -/
  standalone : Bool
deriving DecidableEq, Inhabited

/-- The comment of a line: the first token, in the order given, that occurs in the line, and the
text behind its first occurrence. -/
def comment? (tokens : List (List Char)) (line : List Char) : Option (List Char × List Char) :=
  tokens.findSome? fun token => (Text.after? token line).map fun body => (token, body)

/-- The annotation of a line. -/
def annotation? (tokens : List (List Char)) (line : List Char) : Option Annotation :=
  match comment? tokens line with
  | none => none
  | some (token, body) =>
    (Clause.parse? body).map fun pragma => ⟨pragma, Text.startsWith token (Text.trim line)⟩

def directiveOn? (tokens : List (List Char)) (line : List Char) : Option Directive :=
  match comment? tokens line with
  | none => none
  | some (_, body) => Directive.parse? body

/-- Whether the line begins with some comment token. -/
def isCommentLine (tokens : List (List Char)) (line : List Char) : Bool :=
  tokens.any fun token => Text.startsWith token (Text.trim line)

/-! ### The pass -/

/-- A pragma stored for a code line. -/
structure Slot where
  pragma : Pragma
  /-- The line that wrote the slot last. -/
  origin : Nat
  /-- Whether that was a comment line of its own. -/
  standalone : Bool
deriving DecidableEq, Inhabited

/-- What is known after some lines. -/
structure Scan where
  /-- The pragmas by code line. -/
  slots : SortedMap Nat Slot
  /-- The latest line that held a standalone pragma. -/
  pending : Option Nat
  /-- Whether the previous line was a comment line. -/
  afterComment : Bool
  /-- The directive of the first line. -/
  directive : Option Directive
deriving DecidableEq, Inhabited

namespace Scan

/-- Nothing is known before the first line. -/
def start : Scan := ⟨∅, none, false, none⟩

/-- A pragma merged behind the one of a slot. -/
def mergeBehind (slot? : Option Slot) (pragma : Pragma) : Pragma :=
  match slot? with
  | none => pragma
  | some slot => slot.pragma.extend pragma

/-- Attaches the annotation of a line to its code line. The slot right above is folded in if it
was written by an earlier standalone line and nothing but comments lies between. -/
def place (scan : Scan) (number : Nat) (found : Annotation) : Scan :=
  let target := if found.standalone then number + 1 else number
  let pending := if found.standalone then some number else scan.pending
  let merged := mergeBehind (scan.slots.get? target) found.pragma
  let slots := scan.slots.erase target
  -- only a run of comment lines carries its pragmas on to the next line
  let above? :=
    if found.standalone || scan.afterComment then
      (slots.get? (target - 1)).filter fun above => above.standalone && some above.origin != pending
    else none
  let slots := if above?.isSome then slots.erase (target - 1) else slots
  { scan with
    slots := slots.insert target ⟨mergeBehind above? merged, number, found.standalone⟩
    pending := pending }

/-- Takes one line into account. -/
def feed (tokens : List (List Char)) (scan : Scan) (number : Nat) (line : List Char) : Scan :=
  let scan :=
    if number = 1 then { scan with directive := directiveOn? tokens line } else scan
  let scan :=
    match annotation? tokens line with
    | none => scan
    | some found => scan.place number found
  { scan with afterComment := isCommentLine tokens line }

/-- Takes lines into account that are numbered from a given one. -/
def feedFrom (tokens : List (List Char)) (scan : Scan) (number : Nat) : List (List Char) → Scan
  | [] => scan
  | line :: lines => feedFrom tokens (feed tokens scan number line) (number + 1) lines

/-- What is known after all lines of a text. -/
def ofLines (tokens : List (List Char)) (lines : List (List Char)) : Scan :=
  feedFrom tokens start 1 lines

end Scan

/-! ### Whole files -/

namespace Fixture

/-- The tokens that can be looked for: all but the empty one. -/
def usableTokens (tokens : List String) : List String := tokens.filter (· ≠ "")

/-- The fixture of a file name, its text, and its lines. -/
def ofLines (name : String) (content : List Char) (tokens : List String)
    (lines : List (List Char)) : Fixture :=
  let scan := Scan.ofLines ((usableTokens tokens).map String.toList) lines
  { name := (Path.withoutExtension ⟨name⟩).text
    content := String.ofList content
    tokens := usableTokens tokens
    pragmas := scan.slots.mapValues fun _ slot => slot.pragma
    directive := scan.directive }

/-- The fixture of a file name and a text. -/
def ofText (name : String) (content : String) (tokens : List String) : Fixture :=
  ofLines name content.toList tokens (Text.lines content.toList)

/-- The pieces of a byte string that come before the first one that is no UTF-8, decoded. -/
def decodedPieces (bytes : List UInt8) : List (List Char) :=
  ((Text.cutBehind 0x0A bytes).map Utf8.decode?).takeWhile Option.isSome |>.filterMap id

/-- The fixture of a file name and bytes. Reading stops at the first line that is no UTF-8. -/
def ofBytes (name : String) (bytes : List UInt8) (tokens : List String) : Fixture :=
  let pieces := decodedPieces bytes
  ofLines name pieces.flatten tokens (pieces.map Text.lineOfStreamed)

/-- The number of lines that were read before one that is no UTF-8, if there is such a line. -/
def stoppedAfter? (bytes : List UInt8) : Option Nat :=
  let decoded := (decodedPieces bytes).length
  if decoded < (Text.cutBehind 0x0A bytes).length then some decoded else none

end Fixture

end CheckerFixtures
