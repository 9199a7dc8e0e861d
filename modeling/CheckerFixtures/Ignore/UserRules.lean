/-
**Ignore rules of a user.**

Besides the ignore files in directories there is one with rules about the files of every directory.
The settings of the user may name it. Its rules are read as if it lay in the working directory:
what they see of a path is what stands behind the text of that directory, or all of it.

* `excludesFile?`: the file that settings name;
* `seenFrom`: what rules of a directory see of a path;
* `verdict?_of_none`: without rules nothing is said.
-/

import CheckerFixtures.Ignore.Rules

namespace CheckerFixtures.Ignore

/-! ### Settings -/

/-- A blank among the characters of one byte. -/
def isPlainBlank (c : Char) : Bool := c = ' ' || ('\t' ≤ c && c ≤ '\r')

/-- A text without the blanks around it. -/
def stripBlanks (text : List Char) : List Char :=
  ((text.dropWhile isPlainBlank).reverse.dropWhile isPlainBlank).reverse

/-- A value without the quotes and blanks around it. -/
def unquote (value : List Char) : List Char :=
  stripBlanks (Text.stripLast '"' ((Text.stripLead? ['"'] value).getD value))

/-- The file that a line of settings names. A name with blanks inside is none. -/
def excludesLine? (line : List Char) : Option (List Char) := do
  let value ← Text.after? ['='] line
  guard ((stripBlanks (line.takeWhile (· ≠ '='))).map Char.toLower = "excludesfile".toList)
  let name := unquote (stripBlanks value)
  guard (name ≠ [] && !name.any isPlainBlank)
  return name

/-- The file that settings name; the first line that names one counts. A tilde stands for the home
directory. -/
def excludesFile? (home? : Option Path) (settings : List UInt8) : Option Path :=
  ((readableLines settings).findSome? excludesLine?).map fun name =>
    ⟨String.ofList (match home? with
      | none => name
      | some home => name.flatMap fun c => if c = '~' then home.text.toList else [c])⟩

/-! ### Rules -/

/-- What rules of a directory see of a path. -/
def seenFrom (base path : Path) : List Char :=
  match Text.stripLead? base.text.toList path.text.toList with
  | none => path.text.toList
  | some behind => (Text.stripLead? ['/'] behind).getD behind

/-- Rules about the files of every directory. -/
structure UserRules where
  /-- The directory from which paths are seen. -/
  base : Path := ⟨""⟩
  rules : List Rule := []

/-- What the rules say about a path. -/
def UserRules.verdict? (user : UserRules) (path : Path) (isDirectory : Bool) : Option Verdict :=
  Ignore.verdict? user.rules (Utf8.encode (seenFrom user.base path)) isDirectory

/-! ### Laws -/

/-- Without rules nothing is said. -/
theorem UserRules.verdict?_of_none {user : UserRules} (none : user.rules = []) (path : Path)
    (isDirectory : Bool) : user.verdict? path isDirectory = .none := by
  rw [verdict?, none]
  rfl

/-- A name is seen wherever it stands, a path only from its directory. -/
example :
    excludesFile? none "[core]\n\tExcludesFile = \"rules\"\n".toUTF8.toList = some ⟨"rules"⟩ ∧
      seenFrom ⟨"/w"⟩ ⟨"/w/t/a.go"⟩ = "t/a.go".toList ∧
      seenFrom ⟨"/w/s"⟩ ⟨"/w/t/a.go"⟩ = "/w/t/a.go".toList := by
  decide +kernel

end CheckerFixtures.Ignore
