/-
**TOML values and how tables grow.**

A document is built section by section. Each table remembers how it came to be, because that
decides who may add to it: a table written inline is closed, a table opened by a header is added
to by its own section only, and a table that merely lies on the way to another can still be
opened.

* `put`: a dotted key inside a section;
* `within`: the way to the table of a header;
* `addTable`, `addElement`: whole sections;
* `put_fresh`: a key can be added to a table exactly when it is not there yet.
-/

namespace CheckerFixtures.Toml

/-! ### Values -/

/-- How a table came to be. -/
inductive TableKind where
  /-- Written between braces. -/
  | inlined
  /-- Opened by a header. -/
  | opened
  /-- On the way to the table of a header. -/
  | implied
  /-- Made by a dotted key. -/
  | dotted
deriving DecidableEq, Repr

/-- A TOML value. Numbers and moments are checked but not kept: nothing here asks for them. -/
inductive Value where
  | text (content : String)
  | truth (value : Bool)
  | number
  | moment
  | array (items : List Value)
  | table (kind : TableKind) (members : List (String × Value))
  /-- The elements of repeated headers. -/
  | tables (elements : List (List (String × Value)))
deriving Inhabited

/-- The members of a table in order of appearance. -/
abbrev Members := List (String × Value)

namespace Members

def get? (key : String) (members : Members) : Option Value := members.lookup key

/-- The members with the value of a key replaced, or added at the end. -/
def set (key : String) (value : Value) : Members → Members
  | [] => [(key, value)]
  | (other, old) :: rest =>
    if other = key then (key, value) :: rest else (other, old) :: set key value rest

/-! ### Dotted keys -/

/-- Adds a value under a dotted key. The tables on the way may be new, made by other dotted keys,
or implied by headers; the last of them has to be one of dotted keys. -/
def put : List String → String → Value → Members → Option Members
  | [], key, value, members =>
    match members.get? key with
    | none => some (members.set key value)
    | some _ => none
  | step :: way, key, value, members => do
    let (inner, rebuild) ← match members.get? step with
      | none => some ([], Value.table .dotted)
      | some (.table .dotted inner) => some (inner, Value.table .dotted)
      | some (.table .implied inner) =>
        if way = [] then none else some (inner, Value.table .implied)
      | some (.tables elements) =>
        if way = [] then none
        else some (elements.getLast?.getD [], fun last => .tables (elements.dropLast ++ [last]))
      | some _ => none
    let changed ← put way key value inner
    return members.set step (rebuild changed)

/-- Adds values under dotted keys one after the other. -/
def putAll (members : Members) (entries : List (List String × String × Value)) : Option Members :=
  entries.foldlM (fun members entry => put entry.1 entry.2.1 entry.2.2 members) members

/-! ### Sections -/

/-- Changes the table at the end of a way of headers. Missing tables on the way are implied; of
repeated headers the last element is meant. -/
def within (change : Members → Option Members) : List String → Members → Option Members
  | [], members => change members
  | step :: way, members => do
    let (inner, rebuild) ← match members.get? step with
      | none => some ([], Value.table .implied)
      | some (.table kind inner) => if kind = .inlined then none else some (inner, Value.table kind)
      | some (.tables elements) =>
        some (elements.getLast?.getD [], fun last => .tables (elements.dropLast ++ [last]))
      | some _ => none
    let changed ← within change way inner
    return members.set step (rebuild changed)

/-- Opens a table and fills it. A table can be opened once, also after tables inside it. -/
def addTable (key : String) (entries : List (List String × String × Value)) (members : Members) :
    Option Members := do
  let inner ← match members.get? key with
    | none => some []
    | some (.table .implied inner) => some inner
    | some _ => none
  let filled ← putAll inner entries
  return members.set key (.table .opened filled)

/-- Adds an element to the tables of a repeated header. -/
def addElement (key : String) (entries : List (List String × String × Value)) (members : Members) :
    Option Members := do
  let elements ← match members.get? key with
    | none => some []
    | some (.tables elements) => some elements
    | some _ => none
  let filled ← putAll [] entries
  return members.set key (.tables (elements ++ [filled]))

/-- A key can be added to a table exactly when it is not there yet. -/
theorem put_fresh (key : String) (value : Value) (members : Members) :
    (put [] key value members).isSome = (members.get? key).isNone := by
  rw [put]
  split <;> simp_all

end Members

end CheckerFixtures.Toml
