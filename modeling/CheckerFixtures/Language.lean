/-
**Comment syntax by language.**

A language is known by file extensions or whole file names, and by the tokens that start a
comment. A table holds languages by name, so that of several that claim a file the first by name
is taken.

* `get?_insert`: a later language of the same name replaces an earlier one;
* `claims_of_forPath?`: the language of a path claims the path.
-/

import CheckerFixtures.Path
import CheckerFixtures.SortedMap

namespace CheckerFixtures

/-- The comment syntax of one language. -/
structure Language where
  name : String
  /-- Extensions without the dot, or whole file names. -/
  extensions : List String
  /-- The tokens that start a comment, in the order in which they are tried. -/
  tokens : List String
deriving DecidableEq, Repr, Inhabited

namespace Language

/-- Whether two texts agree but for the case of ASCII letters. -/
def sameButCase (first second : String) : Bool :=
  first.toList.map Char.toLower = second.toList.map Char.toLower

/-- Whether the language claims a path: by its file name exactly, or by its extension in any
case. -/
def claims (language : Language) (path : Path) : Bool :=
  language.extensions.any fun extension =>
    path.fileName? = some extension || path.extension?.any fun found => sameButCase found extension

/-- The built-in languages in name order. -/
def builtin : List Language :=
  [⟨"c", ["c", "h"], ["//", "/*"]⟩,
    ⟨"cpp", ["cc", "cpp", "cxx", "hpp", "hh"], ["//", "/*"]⟩,
    ⟨"dockerfile", ["Dockerfile", "dockerfile"], ["#"]⟩,
    ⟨"go", ["go"], ["//"]⟩,
    ⟨"java", ["java"], ["//"]⟩,
    ⟨"javascript", ["js", "jsx", "mjs", "cjs"], ["//"]⟩,
    ⟨"kotlin", ["kt", "kts"], ["//"]⟩,
    ⟨"lua", ["lua"], ["--"]⟩,
    ⟨"php", ["php"], ["//", "#"]⟩,
    ⟨"python", ["py", "pyi"], ["#"]⟩,
    ⟨"ruby", ["rb"], ["#"]⟩,
    ⟨"rust", ["rs"], ["//"]⟩,
    ⟨"shell", ["sh", "bash", "zsh"], ["#"]⟩,
    ⟨"sql", ["sql"], ["--"]⟩,
    ⟨"terraform", ["tf", "tfvars", "hcl"], ["#", "//"]⟩,
    ⟨"toml", ["toml"], ["#"]⟩,
    ⟨"typescript", ["ts", "tsx", "mts", "cts"], ["//"]⟩,
    ⟨"yaml", ["yml", "yaml"], ["#"]⟩]

end Language

/-- Languages by name. -/
structure LanguageTable where
  byName : SortedMap String Language
deriving DecidableEq, Inhabited

namespace LanguageTable

/-! ### Building -/

/-- The table without languages. -/
def empty : LanguageTable := ⟨∅⟩

/-- Adds a language, in place of any other of its name. -/
def insert (table : LanguageTable) (language : Language) : LanguageTable :=
  ⟨table.byName.insert language.name language⟩

/-- Adds languages one after the other. -/
def insertAll (table : LanguageTable) (languages : List Language) : LanguageTable :=
  languages.foldl insert table

/-- The table of the built-in languages. -/
def builtin : LanguageTable := empty.insertAll Language.builtin

/-! ### Reading -/

def get? (table : LanguageTable) (name : String) : Option Language := table.byName.get? name

/-- The languages in name order. -/
def toList (table : LanguageTable) : List Language := table.byName.values

def size (table : LanguageTable) : Nat := table.byName.size

/-- The language of a path: the first by name that claims it. -/
def forPath? (table : LanguageTable) (path : Path) : Option Language :=
  table.toList.find? fun language => language.claims path

/-! ### Laws -/

/-- A later language of the same name replaces an earlier one. -/
theorem get?_insert (table : LanguageTable) (language : Language) (name : String) :
    (table.insert language).get? name =
      if name = language.name then some language else table.get? name :=
  SortedMap.get?_insert table.byName language.name name language

/-- The language of a path claims the path. -/
theorem claims_of_forPath? {table : LanguageTable} {path : Path} {language : Language}
    (found : table.forPath? path = some language) : language.claims path = true := by
  rw [forPath?] at found
  simpa using List.find?_some found

end LanguageTable

end CheckerFixtures
