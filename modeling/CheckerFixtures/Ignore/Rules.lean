/-
**Ignore files.**

A directory may hold files with rules about what lies below it. The last rule of a file that fits
decides. Of the files of one kind the nearest with a fitting rule counts, and between kinds there
is a fixed order. The rules of a user about all files come last. Names that begin with a dot are
skipped unless a rule allows them.

* `verdict?_append`: a later fitting rule overrides the earlier ones;
* `verdictFor`: what all ignore files above an entry say about it;
* `visibleFiles`: the files below a directory that are not skipped.
-/

import CheckerFixtures.FileTree
import CheckerFixtures.Ignore.Pattern
import CheckerFixtures.Text.Blank
import CheckerFixtures.Text.Lines
import CheckerFixtures.Text.Search

namespace CheckerFixtures.Ignore

/-! ### Rules -/

/-- What rules say about an entry. -/
inductive Verdict where
  | ignore
  | allow
deriving DecidableEq, Repr

/-- One line of an ignore file. -/
structure Rule where
  verdict : Verdict
  /-- Whether the rule is about directories only. -/
  directoriesOnly : Bool
  matcher : Matcher
deriving Repr

/-- A line without the blanks at its end, unless a backslash protects the last one. -/
def trimLine (line : List Char) : List Char :=
  if line.reverse.take 2 = [' ', '\\'] then line else Text.trimEnd line

/-- A leading mark with a backslash before it stands for itself. -/
def unescapeMark? : List Char → Option (List Char)
  | '\\' :: '!' :: rest => some ('!' :: rest)
  | '\\' :: '#' :: rest => some ('#' :: rest)
  | _ => none

/-- A pattern without the slash at its end and a backslash before that, if it ends in a slash. -/
def stripDirectoryMark? (pattern : List Char) : Option (List Char) :=
  if pattern.getLast? = some '/' then some (Text.stripLast '\\' pattern.dropLast) else none

/-- Whether a pattern begins with any number of components already. -/
def hasLeadingComponents (pattern : List Char) : Bool :=
  pattern = ['*', '*'] || Text.startsWith ['*', '*', '/'] pattern

/-- The pattern for whole paths. One without a slash may fit at any depth, and one that ends in
any number of components fits what lies inside, not the directory itself. -/
def anchor (absolute : Bool) (pattern : List Char) : List Char :=
  let pattern :=
    if absolute || pattern.contains '/' || hasLeadingComponents pattern then pattern
    else ['*', '*', '/'] ++ pattern
  if pattern.reverse.take 3 = ['*', '*', '/'] then pattern ++ ['/', '*'] else pattern

/-- The rule of a line. Comments, blank lines and broken patterns are no rules. -/
def Rule.ofLine? (line : List Char) : Option Rule := do
  guard (line.head? ≠ some '#')
  let line := trimLine line
  guard (line ≠ [])
  -- behind a protected mark, neither a slash nor another mark has a meaning of its own
  let (verdict, absolute, pattern) := match unescapeMark? line with
    | some pattern => (Verdict.ignore, false, pattern)
    | none =>
      let (verdict, pattern) := match line with
        | '!' :: rest => (Verdict.allow, rest)
        | _ => (Verdict.ignore, line)
      match pattern with
      | '/' :: rest => (verdict, true, rest)
      | _ => (verdict, false, pattern)
  let bare := (stripDirectoryMark? pattern).getD pattern
  let matcher ← parse? (anchor absolute bare)
  return ⟨verdict, (stripDirectoryMark? pattern).isSome, matcher⟩

/-- Whether a rule fits an entry that has a path below the directory of the rule. -/
def Rule.fits (rule : Rule) (path : List UInt8) (isDirectory : Bool) : Bool :=
  (!rule.directoriesOnly || isDirectory) && rule.matcher.accepts path

/-- What rules say: the last that fits decides. -/
def verdict? (rules : List Rule) (path : List UInt8) (isDirectory : Bool) : Option Verdict :=
  (rules.reverse.find? fun rule => rule.fits path isDirectory).map Rule.verdict

/-- The decoded lines of a file, up to the first that is no UTF-8. A byte order mark at the start
is passed over. -/
def readableLines (bytes : List UInt8) : List (List Char) :=
  let decoded := ((Text.cutBehind 0x0A bytes).map Utf8.decode?).takeWhile Option.isSome
  match (decoded.filterMap id).map Text.lineOfPiece with
  | [] => []
  | first :: rest => first.dropWhile (· = '\ufeff') :: rest

def rulesOf (bytes : List UInt8) : List Rule := (readableLines bytes).filterMap Rule.ofLine?

/-! ### Files with rules -/

/-- Where each kind of ignore file lies in its directory; an earlier kind overrides the later. -/
def kinds : List Place := [[".ignore"], [".gitignore"], [".git", "info", "exclude"]]

/-- The rules of one kind in a directory. -/
def rulesAt (tree : FileTree) (directory kind : Place) : List Rule :=
  match tree.get? (directory ++ kind) with
  | some (.file bytes) => rulesOf bytes
  | _ => []

/-- The bytes of the path that some names make. -/
def pathBytes (names : Place) : List UInt8 := Utf8.encode (String.intercalate "/" names).toList

/-- The directories above a place, nearest first, each with the names that lead down from it. -/
def above (place : Place) : List (Place × Place) :=
  (List.range place.length).reverse.map fun count => (place.take count, place.drop count)

/-- What the files of one kind above an entry say about it. -/
def verdictOfKind (tree : FileTree) (place : Place) (isDirectory : Bool) (kind : Place) :
    Option Verdict :=
  (above place).findSome? fun (directory, names) =>
    verdict? (rulesAt tree directory kind) (pathBytes names) isDirectory

/-- What all ignore files above an entry say about it. -/
def verdictFor (tree : FileTree) (place : Place) (isDirectory : Bool) : Option Verdict :=
  kinds.findSome? (verdictOfKind tree place isDirectory)

/-! ### What is visible -/

def isHidden (name : String) : Bool := name.toList.head? = some '.'

/-- Whether an entry is skipped about which the rules of the user say something or nothing. All
rules may be left aside; hidden names are skipped in any case, unless a rule allows them. -/
def skips (tree : FileTree) (useRules : Bool) (user? : Option Verdict) (place : Place)
    (isDirectory : Bool) : Bool :=
  match (if useRules then (verdictFor tree place isDirectory).or user? else none) with
  | some .ignore => true
  | some .allow => false
  | none => (place.getLast?.map isHidden).getD false

variable (tree : FileTree) (useRules : Bool) (user? : Place → Bool → Option Verdict)

/-- Whether a file below a directory is found: neither it nor a directory on the way is
skipped. -/
def isVisible (directory names : Place) : Bool :=
  (List.range names.length).all fun count =>
    let isDirectory := count + 1 < names.length
    !skips tree useRules (user? (names.take (count + 1)) isDirectory)
      (directory ++ names.take (count + 1)) isDirectory

/-- The files below a directory that are found, by the names that lead to them. -/
def visibleFiles (directory : Place) : List (Place × List UInt8) :=
  (tree.filesBelow directory).filter fun (names, _) =>
    isVisible tree useRules user? directory names

/-! ### Laws -/

/-- A later fitting rule overrides the earlier ones. -/
theorem verdict?_append (earlier later : List Rule) (path : List UInt8) (isDirectory : Bool) :
    verdict? (earlier ++ later) path isDirectory =
      (verdict? later path isDirectory).or (verdict? earlier path isDirectory) := by
  simp only [verdict?, List.reverse_append, List.find?_append]
  cases later.reverse.find? fun rule => rule.fits path isDirectory <;> simp

/-- Of the rules of a user only what they say about paths below the directory matters, and nothing
if rules are left aside. -/
theorem visibleFiles_congr {user? user?' : Place → Bool → Option Verdict}
    (same : useRules = true → ∀ names isDirectory, names ≠ [] →
      user? names isDirectory = user?' names isDirectory) :
    visibleFiles tree useRules user? = visibleFiles tree useRules user?' := by
  funext directory
  refine List.filter_congr fun (names, _) _ => ?_
  unfold isVisible
  rw [Bool.eq_iff_iff, List.all_eq_true, List.all_eq_true]
  refine forall_congr' fun count => imp_congr_right fun inside => ?_
  have filled : names.take (count + 1) ≠ [] := by
    rintro none
    have length := congrArg List.length none
    have within := List.mem_range.mp inside
    rw [List.length_take, List.length_nil] at length
    omega
  dsimp only
  cases useRules with
  | true => rw [same rfl _ _ filled]
  | false => rfl

end CheckerFixtures.Ignore
