/-
**Configuration.**

A configuration says where the fixtures are, what to leave out, and which languages there are
besides the built-in ones. It is read from a TOML document and then checked: each configured
language needs an extension and a comment token.

* `ofDocument?`: the settings of a document;
* `validate`: checks the languages, and reports the first that lacks something.
-/

import CheckerFixtures.FileTree
import CheckerFixtures.Language
import CheckerFixtures.Toml.Document

namespace CheckerFixtures

/-- Settings for a collection of fixtures. -/
structure Config where
  /-- Where the fixtures are. -/
  root : Path := ⟨"."⟩
  /-- Patterns of paths to leave out. -/
  exclude : List String := ["**/target/**", "**/node_modules/**"]
  /-- Whether ignore files count. -/
  useIgnoreFiles : Bool := true
  /-- The configured languages by name. -/
  languages : SortedMap String Language := ∅
deriving DecidableEq

instance : Inhabited Config := ⟨{}⟩

/-- What a configured language lacks. -/
inductive LanguageProblem where
  | noTokens
  | noExtensions
deriving DecidableEq, Repr

def LanguageProblem.message : LanguageProblem → String
  | noTokens => "no comment_prefixes"
  | noExtensions => "no extensions"

/-- Why there is no configuration. -/
inductive ConfigError where
  | unreadable (path : Path) (cause : FileError)
  /-- The text is no TOML document, or a value is of the wrong type. -/
  | malformed
  | invalidLanguage (name : String) (problem : LanguageProblem)
deriving DecidableEq, Repr

/-- The text of an error, without the details of a malformed document. -/
def ConfigError.message : ConfigError → String
  | unreadable path cause => "Failed to read config file " ++ path.text ++ ": " ++ cause.message
  | malformed => "Failed to parse config:"
  | invalidLanguage name problem => "Invalid language '" ++ name ++ "': " ++ problem.message

/-- The text of an error and of what caused it. -/
def ConfigError.chain (error : ConfigError) : List String :=
  match error with
  | unreadable _ cause => [error.message, cause.message]
  | malformed | invalidLanguage _ _ => [error.message]

namespace Config

open Toml

/-! ### Reading values -/

def text? : Value → Option String
  | .text content => some content
  | _ => none

def truth? : Value → Option Bool
  | .truth value => some value
  | _ => none

def texts? : Value → Option (List String)
  | .array items => items.mapM text?
  | _ => none

/-- The fields of a record in order of declaration: by name from a table, or one after the other
from an array, of which surplus elements are passed over. A moment counts as a table without any
of the names. -/
def fields? (names : List String) : Value → Option (List (Option Value))
  | .table _ members => some (names.map fun name => Members.get? name members)
  | .array items => some ((List.range names.length).map fun index => items[index]?)
  -- repeated headers make an array whose items are tables
  | .tables elements =>
    some ((List.range names.length).map fun index => elements[index]?.map (.table .opened))
  | .moment => some (names.map fun _ => none)
  | _ => none

/-- A field that may be missing. -/
def field? {α : Type} (read : Value → Option α) (default : α) : Option Value → Option α
  | none => some default
  | some value => read value

/-- A language. Its name is read but does not count. -/
def language? (value : Value) : Option Language := do
  match ← fields? ["name", "extensions", "comment_prefixes"] value with
  | [name, extensions, tokens] =>
    return ⟨← field? text? "" name, ← field? texts? [] extensions, ← field? texts? [] tokens⟩
  | _ => none

def languages? : Value → Option (SortedMap String Language)
  | .table _ members => do
    let entries ← members.mapM fun (name, value) =>
      (language? value).map fun language => (name, language)
    return .ofList entries
  | _ => none

/-- The settings for finding fixtures, without languages. -/
def fixtures? (value : Value) : Option Config := do
  match ← fields? ["root", "exclude", "respect_gitignore"] value with
  | [root, exclude, useIgnoreFiles] =>
    let defaults : Config := {}
    return {
      root := ⟨← field? text? defaults.root.text root⟩
      exclude := ← field? texts? defaults.exclude exclude
      useIgnoreFiles := ← field? truth? defaults.useIgnoreFiles useIgnoreFiles }
  | _ => none

/-- The configuration of a document, before it is checked. -/
def ofDocument? (members : Members) : Option Config := do
  let config ← field? fixtures? {} (members.get? "fixtures")
  return { config with languages := ← field? languages? ∅ (members.get? "languages") }

/-! ### Checking -/

/-- The tokens of a language that are not empty. -/
def usableTokens (language : Language) : List String := language.tokens.filter (· ≠ "")

/-- What a configured language lacks, if anything. -/
def problem? (language : Language) : Option LanguageProblem :=
  if usableTokens language = [] then some .noTokens
  else if language.extensions = [] then some .noExtensions
  else none

/-- A language as it is filed under a name. -/
def filed (name : String) (language : Language) : Language :=
  ⟨name, language.extensions, usableTokens language⟩

/-- Accepts a configuration whose languages are all usable. Otherwise the first language by name
that lacks something is reported. -/
def validate (config : Config) : Except ConfigError Config :=
  let problems := config.languages.entries.filterMap fun (name, language) =>
    (problem? language).map fun problem => (name, problem)
  match problems with
  | [] => .ok { config with languages := config.languages.mapValues filed }
  | (name, problem) :: _ => .error (.invalidLanguage name problem)

def parse (text : List Char) : Except ConfigError Config :=
  match (Toml.parse? text).bind ofDocument? with
  | none => .error .malformed
  | some config => config.validate

/-- The built-in languages with the configured ones in place of those of the same name. -/
def languageTable (config : Config) : LanguageTable :=
  LanguageTable.builtin.insertAll config.languages.values

def ofFile (tree : FileTree) (start : Place) (path : Path) : Except ConfigError Config :=
  match tree.readText start path with
  | .error cause => .error (.unreadable path cause)
  | .ok text => parse text

end Config

end CheckerFixtures
