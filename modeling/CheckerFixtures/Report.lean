/-
**Reports on collections.**

A collection is reported for readers, as JSON, or compactly with one line for each expectation.

* `compact`: the compact report; `compactLines` are its lines;
* `text`: the report for readers; `textLines` are its lines;
* `length_compactLines`: a compact report has a line for each expectation.
-/

import CheckerFixtures.Expectation
import CheckerFixtures.Json.Encode
import CheckerFixtures.Text.Quoted

namespace CheckerFixtures.Report

/-! ### Formats -/

/-- The form of a report. -/
inductive Format where
  | text
  | json
  | compact
deriving DecidableEq, Repr, Inhabited

/-- The format of a name. -/
def Format.ofName? : String → Option Format
  | "text" => some text
  | "json" => some json
  | "compact" => some compact
  | _ => none

/-! ### Pieces of lines -/

def decimal (number : Nat) : List Char := Nat.toDigits 10 number

/-- A text with blanks in front of it, up to a width. -/
def alignRight (width : Nat) (text : List Char) : List Char :=
  List.replicate (width - text.length) ' ' ++ text

def bracketed (code : String) : List Char := '[' :: (code.toList ++ [']'])

/-- Lines as one text, with line breaks between them. -/
def joinLines (lines : List (List Char)) : List Char := List.intercalate ['\n'] lines

/-- Lines as one text, with a line break behind each. -/
def endLines (lines : List (List Char)) : List Char := lines.flatMap fun line => line ++ ['\n']

/-! ### Compact reports -/

/-- The line of an expectation in the fixture at a path. -/
def compactLine (path : Path) (expectation : Expectation) : List Char :=
  let place := path.text.toList ++ ':' :: decimal expectation.line
  let code := ':' :: ' ' :: bracketed expectation.code
  match expectation.issue? with
  | none => place ++ code
  | some issue =>
    let message := if issue.message = "" then [] else ' ' :: issue.message.toList
    place ++ ':' :: decimal issue.column ++ code ++ message

def compactLines (collection : Collection) : List (List Char) :=
  collection.fixtures.flatMap fun found =>
    (Expectation.ofFixture found.fixture).map (compactLine found.path)

def compact (collection : Collection) : List Char := joinLines (compactLines collection)

/-- A compact report has a line for each expectation. -/
theorem length_compactLines (collection : Collection) :
    (compactLines collection).length =
      (collection.fixtures.flatMap fun found => Expectation.ofFixture found.fixture).length := by
  simp [compactLines, List.length_flatMap]

/-! ### Reports for readers -/

/-- How a terminal is told to change its colours. -/
inductive Style where
  | bold
  | yellow
  | green
  | plain
deriving DecidableEq, Repr

/-- The control sequence of a style. -/
def Style.sequence : Style → List Char
  | bold => "\x1b[1m".toList
  | yellow => "\x1b[33m".toList
  | green => "\x1b[32m".toList
  | plain => "\x1b[0m".toList

/-- A text in a style. -/
def styled (style : Style) (text : List Char) : List Char :=
  style.sequence ++ text ++ Style.plain.sequence

/-- The column and the message of an issue in words; nothing stands for any. -/
def describe (issue : Issue) : List Char :=
  (if issue.column = 0 then "any column".toList else "col ".toList ++ decimal issue.column) ++
    ", ".toList ++
    (if issue.message = "" then "any message".toList else Text.quote issue.message.toList)

def textLine (expectation : Expectation) : List Char :=
  ' ' :: ' ' :: (alignRight 4 (decimal expectation.line) ++ ':' :: ' ' ::
    (bracketed expectation.code ++ ' ' ::
      match expectation.issue? with
      | none => "any".toList
      | some issue => describe issue))

/-- How the listed codes are meant, and which they are. -/
def modeSuffix (fixture : Fixture) : List Char :=
  match fixture.checkMode with
  | .all => []
  | mode =>
    ", ".toList ++ mode.name.toList ++ ": ".toList ++
      (String.intercalate ", " fixture.issueCodes).toList

/-- The line above the expectations of a fixture. -/
def titleLine (found : FoundFixture) : List Char :=
  styled .bold found.path.text.toList ++
    " (".toList ++ found.language.toList ++ modeSuffix found.fixture ++ [')']

def fixtureLines (found : FoundFixture) : List (List Char) :=
  titleLine found :: ((Expectation.ofFixture found.fixture).map textLine ++ [[]])

def summaryLine (collection : Collection) : List Char :=
  styled (if collection.fixtures = [] then .yellow else .green)
    ("Found ".toList ++ decimal collection.pragmaCount ++ " annotated line(s) in ".toList ++
      decimal collection.fixtures.length ++ " fixture(s), skipped ".toList ++
      decimal collection.skipped ++ " file(s)".toList)

def textLines (collection : Collection) : List (List Char) :=
  collection.fixtures.flatMap fixtureLines ++ [summaryLine collection]

/-- The report for readers. -/
def text (collection : Collection) : List Char := joinLines (textLines collection)

/-! ### All formats -/

def render (collection : Collection) : Format → List Char
  | .text => text collection
  | .json => Json.print 0 (Json.ofCollection collection)
  | .compact => compact collection

end CheckerFixtures.Report
