/-
**Paths.**

A path is its text. Slashes cut it into segments; an empty segment and a single dot name nothing,
except that a slash at the start is the root and a dot at the start the current directory. Paths
are never normalised: two texts may name the same components.

* `join_absolute`: an absolute path is not changed by joining it to another;
* `parent?_root`, `parent?_empty`: the ends of a chain of ancestors.
-/

namespace CheckerFixtures

/-- A path as it is written. -/
structure Path where
  text : String
deriving DecidableEq, Repr, Inhabited

namespace Path

instance : ToString Path := ⟨Path.text⟩

/-! ### Segments and components -/

/-- What a path passes through. -/
inductive Component where
  | root
  | current
  | parent
  | name (text : String)
deriving DecidableEq, Repr, Inhabited

/-- The parts of the text between slashes; there is always a first one. -/
def segments (path : Path) : List (List Char) := path.text.toList.splitOn '/'

/-- The segment in front of the first slash. -/
def headSegment (path : Path) : List Char := path.segments.headD []

/-- Behind the first slash, an empty segment and a single dot name nothing. -/
def isSilent (segment : List Char) : Bool := segment = [] || segment = ['.']

/-- The segments behind the first slash, without silent ones at the end. -/
def tailSegments (path : Path) : List (List Char) :=
  (path.segments.tail.reverse.dropWhile isSilent).reverse

def isAbsolute (path : Path) : Bool := path.text.toList.head? = some '/'

/-- What a segment that is not silent names. -/
def componentOf (segment : List Char) : Component :=
  if segment = ['.', '.'] then .parent else .name (String.ofList segment)

/-- What the first segment of a path names. -/
def headComponents (path : Path) : List Component :=
  if path.isAbsolute then [.root]
  else if path.headSegment = [] then []
  else if path.headSegment = ['.'] then [.current]
  else [componentOf path.headSegment]

def components (path : Path) : List Component :=
  path.headComponents ++
    (path.segments.tail.filter fun segment => !isSilent segment).map componentOf

def ofSegments (segments : List (List Char)) : Path :=
  ⟨String.ofList (List.intercalate ['/'] segments)⟩

/-! ### The last component -/

/-- The path without its last component; a root and an empty path have none. -/
def parent? (path : Path) : Option Path :=
  match path.tailSegments with
  | [] => if path.headSegment = [] then none else some ⟨""⟩
  | first :: rest =>
    -- dropping the last segment can bare silent ones before it
    match ((first :: rest).dropLast.reverse.dropWhile isSilent).reverse with
    | [] => some (if path.headSegment = [] then ⟨"/"⟩ else ofSegments [path.headSegment])
    | kept => some (ofSegments (path.headSegment :: kept))

/-- A path, its parent, the parent of that, and so on. A parent has a shorter text; the bound on
the steps is the length of the text. -/
def ancestorsWithin : Nat → Path → List Path
  | 0, path => [path]
  | bound + 1, path =>
    path :: match path.parent? with
      | none => []
      | some parent => ancestorsWithin bound parent

/-- The path and all its ancestors, nearest first. -/
def ancestors (path : Path) : List Path := ancestorsWithin path.text.length path

/-- The name at the end of the path, unless it ends in the root or in dots. -/
def fileName? (path : Path) : Option String :=
  match path.components.getLast? with
  | some (.name text) => some text
  | _ => none

/-- A file name cut at its last dot, unless that is missing or the first character. -/
def splitName (name : String) : String × Option String :=
  let behind := (name.toList.reverse.takeWhile (· ≠ '.')).reverse
  let before := (name.toList.reverse.dropWhile (· ≠ '.')).reverse.dropLast
  if before = [] then (name, none) else (String.ofList before, some (String.ofList behind))

/-- What stands behind the last dot of the file name. -/
def extension? (path : Path) : Option String := path.fileName?.bind fun name => (splitName name).2

/-- The path up to the stem of its file name. -/
def withoutExtension (path : Path) : Path :=
  match path.fileName? with
  | none => path
  | some name =>
    let stem := (splitName name).1.toList
    match path.tailSegments with
    | [] => ofSegments [stem]
    | first :: rest => ofSegments (path.headSegment :: ((first :: rest).dropLast ++ [stem]))

/-! ### Joining and cutting -/

/-- A path read relative to another one. An absolute path stays as it is. -/
def join (base path : Path) : Path :=
  if path.isAbsolute then path
  else if base.text = "" ∨ base.text.toList.getLast? = some '/' then ⟨base.text ++ path.text⟩
  else ⟨base.text ++ "/" ++ path.text⟩

/-- A name in a directory. -/
def child (base : Path) (name : String) : Path := base.join ⟨name⟩

/-- Drops segments up to a number of ones that are not silent. -/
def dropNamed : Nat → List (List Char) → List (List Char)
  | 0, segments => segments
  | _ + 1, [] => []
  | count + 1, segment :: rest =>
    if isSilent segment then dropNamed (count + 1) rest else dropNamed count rest

/-- What is left of a path behind a base that its components begin with. -/
def relativeTo? (path base : Path) : Option Path :=
  if base.components.isPrefixOf path.components then
    if base.components = [] then some path
    else
      let behind := dropNamed (base.components.length - 1) path.segments.tail
      some (ofSegments ((behind.dropWhile isSilent).reverse.dropWhile isSilent).reverse)
  else none

/-! ### Order -/

/-- The place of a kind of component in the order. -/
def Component.rank : Component → Nat
  | root => 0
  | current => 1
  | parent => 2
  | name _ => 3

/-- The name of a component, empty for the others. -/
def Component.label : Component → String
  | name text => text
  | _ => ""

/-- Components come by kind, names by their characters. -/
def Component.before (first second : Component) : Bool :=
  first.rank < second.rank || (first.rank = second.rank && first.label < second.label)

/-- Paths are compared component by component. -/
def before (first second : Path) : Bool :=
  List.lex first.components second.components Component.before

/-! ### Laws -/

/-- An absolute path stays as it is. -/
theorem join_absolute {base path : Path} (absolute : path.isAbsolute = true) :
    base.join path = path := by
  simp [join, absolute]

/-- The root has no parent. -/
theorem parent?_root : parent? ⟨"/"⟩ = none := by decide

/-- The empty path has no parent. -/
theorem parent?_empty : parent? ⟨""⟩ = none := by decide

end Path

end CheckerFixtures
