/-
**The list of known languages.**

A table with a line for each language, and below it how to configure another one.
-/

import CheckerFixtures.Language

namespace CheckerFixtures.Report

/-- A text with blanks behind it, up to a width. -/
def alignLeft (width : Nat) (text : List Char) : List Char :=
  text ++ List.replicate (width - text.length) ' '

/-- A line of the table. -/
def languageLine (name extensions tokens : String) : List Char :=
  alignLeft 12 name.toList ++ ' ' :: (alignLeft 24 extensions.toList ++ ' ' :: tokens.toList)

def lineOfLanguage (language : Language) : List Char :=
  languageLine language.name (String.intercalate ", " language.extensions)
    (String.intercalate " " language.tokens)

def languageLines (table : LanguageTable) : List (List Char) :=
  ["Known languages:".toList,
    [],
    languageLine "Name" "Extensions" "Comment prefixes",
    List.replicate 64 '-'] ++
  table.toList.map lineOfLanguage ++
  [[],
    "Add or override a language in scatr.toml, e.g.:".toList,
    "  [languages.nix]".toList,
    "  extensions = [\"nix\"]".toList,
    "  comment_prefixes = [\"#\"]".toList]

end CheckerFixtures.Report
