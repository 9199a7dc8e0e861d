/-
**JSON values.**

Objects keep the order of their members. Integers are exact; any other number is kept as its text.

* `print`: the printed form, two blanks for each level;
* `quoteChars_append`: quoting works character by character.
-/

namespace CheckerFixtures

inductive Json where
  | null
  | bool (value : Bool)
  | int (value : Int)
  /-- A number with a fraction or an exponent, as it is written. -/
  | decimal (text : String)
  | str (text : String)
  | arr (items : List Json)
  | obj (members : List (String × Json))
deriving Inhabited

namespace Json

/-! ### Building -/

def nat (value : Nat) : Json := int value

def strings (texts : List String) : Json := arr (texts.map str)

/-- The first member of an object with a key. -/
def member? (key : String) : List (String × Json) → Option Json
  | [] => none
  | (other, value) :: members => if other = key then some value else member? key members

/-! ### Quoted text -/

/-- The hexadecimal digit of a number below sixteen. -/
def hexDigit (value : Nat) : Char := (Nat.digitChar value)

/-- A character inside a quoted text: quotes, backslashes and control characters are escaped. -/
def quoteChar (c : Char) : List Char :=
  if c = '"' then ['\\', '"']
  else if c = '\\' then ['\\', '\\']
  else if c = '\x08' then ['\\', 'b']
  else if c = '\x0c' then ['\\', 'f']
  else if c = '\n' then ['\\', 'n']
  else if c = '\r' then ['\\', 'r']
  else if c = '\t' then ['\\', 't']
  else if c.toNat < 0x20 then
    ['\\', 'u', '0', '0', hexDigit (c.toNat / 16), hexDigit (c.toNat % 16)]
  else [c]

/-- The characters of a text inside quotes. -/
def quoteChars (text : List Char) : List Char := text.flatMap quoteChar

def quote (text : String) : List Char := '"' :: (quoteChars text.toList ++ ['"'])

/-- Quoting works character by character. -/
theorem quoteChars_append (first second : List Char) :
    quoteChars (first ++ second) = quoteChars first ++ quoteChars second := by
  simp [quoteChars]

/-! ### Printing -/

/-- A line break and the blanks of a level. -/
def lineBreak (level : Nat) : List Char := '\n' :: List.replicate (2 * level) ' '

mutual

/-- The printed form of a value at a level. An empty array or object is written in two characters,
any other over several lines. -/
def print (level : Nat) : Json → List Char
  | null => "null".toList
  | bool value => (if value then "true" else "false").toList
  | int value => (toString value).toList
  | decimal text => text.toList
  | str text => quote text
  | arr [] => ['[', ']']
  | arr (item :: items) =>
    '[' :: (lineBreak (level + 1) ++ print (level + 1) item ++ printItems (level + 1) items ++
      lineBreak level ++ [']'])
  | obj [] => ['{', '}']
  | obj ((key, value) :: members) =>
    '{' :: (lineBreak (level + 1) ++ quote key ++ [':', ' '] ++ print (level + 1) value ++
      printMembers (level + 1) members ++ lineBreak level ++ ['}'])

/-- The items of an array behind the first. -/
def printItems (level : Nat) : List Json → List Char
  | [] => []
  | item :: items => ',' :: (lineBreak level ++ print level item ++ printItems level items)

/-- The members of an object behind the first. -/
def printMembers (level : Nat) : List (String × Json) → List Char
  | [] => []
  | (key, value) :: members =>
    ',' :: (lineBreak level ++ quote key ++ [':', ' '] ++ print level value ++
      printMembers level members)

end

end Json

end CheckerFixtures
