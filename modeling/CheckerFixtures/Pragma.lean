/-
**Pragmas.**

A pragma is what is expected on one line: for each issue code its issues in order of declaration,
and whether an issue of the code was observed. A code without issues must occur, with nothing
said about column or message.

* `get?_issues_extend`, `get?_hit_extend`: a merge keeps the issues of both sides in order and
  the disjunction of their flags;
* `get?_issues_expect`, `get?_hit_expect`: a declaration appends issues and never lowers a flag.
-/

import CheckerFixtures.Issue
import CheckerFixtures.SortedMap

namespace CheckerFixtures

/-- The expectations on one line. -/
structure Pragma where
  /-- The expected issues of each code, in order of declaration. -/
  issues : SortedMap String (List Issue)
  /-- Whether an issue of the code was observed. -/
  hit : SortedMap String Bool
deriving DecidableEq, Inhabited

namespace Pragma

/-! ### Building -/

/-- The pragma that expects nothing. -/
def empty : Pragma := ⟨∅, ∅⟩

instance : EmptyCollection Pragma := ⟨empty⟩

/-- Expects a code and appends issues to it. -/
def expect (pragma : Pragma) (code : String) (issues : List Issue) : Pragma where
  issues := pragma.issues.alter code fun old => some (old.getD [] ++ issues)
  hit := pragma.hit.alter code fun old => some (old.getD false)

/-- Expects a code without constraining it. -/
def declare (pragma : Pragma) (code : String) : Pragma := pragma.expect code []

/-- Appends one expected issue. -/
def push (pragma : Pragma) (code : String) (issue : Issue) : Pragma := pragma.expect code [issue]

/-- Appends the issues of a code to those of a map. -/
def appendIssues (map : SortedMap String (List Issue)) (entry : String × List Issue) :
    SortedMap String (List Issue) :=
  map.alter entry.1 fun old => some (old.getD [] ++ entry.2)

/-- Raises the flag of a code in a map if a given flag is raised. -/
def raiseFlag (map : SortedMap String Bool) (entry : String × Bool) : SortedMap String Bool :=
  map.alter entry.1 fun old => some (old.getD false || entry.2)

/-- Merges a pragma that stands further down: its issues come after the ones already there. -/
def extend (pragma later : Pragma) : Pragma where
  issues := later.issues.entries.foldl appendIssues pragma.issues
  hit := later.hit.entries.foldl raiseFlag pragma.hit

/-! ### Reading -/

def isEmpty (pragma : Pragma) : Bool := pragma.issues.isEmpty

/-- The declared codes, ascending. -/
def codes (pragma : Pragma) : List String := pragma.issues.keys

def contains (pragma : Pragma) (code : String) : Bool := pragma.issues.contains code

def issues? (pragma : Pragma) (code : String) : Option (List Issue) := pragma.issues.get? code

/-- Whether an issue of the code was observed. -/
def isHit (pragma : Pragma) (code : String) : Bool := (pragma.hit.get? code).getD false

/-- The number of expected issues of all codes. -/
def issueCount (pragma : Pragma) : Nat := pragma.issues.values.flatten.length

/-! ### Recording what was observed -/

/-- Records that a code was observed; the answer is whether its flag exists. -/
def markHit (pragma : Pragma) (code : String) : Bool × Pragma :=
  if pragma.hit.contains code then (true, { pragma with hit := pragma.hit.insert code true })
  else (false, pragma)

/-- Sets the flag of one expected issue, if that issue exists. -/
def setHit? (pragma : Pragma) (code : String) (index : Nat) (value : Bool) :
    Option (Issue × Pragma) := do
  let issues ← pragma.issues? code
  let issue ← issues[index]?
  let marked := { issue with hit := value }
  return (marked, { pragma with issues := pragma.issues.insert code (issues.set index marked) })

/-! ### Laws -/

/-- A pragma is determined by the issues and the flags of its codes. -/
theorem ext_get? {first second : Pragma}
    (issues : ∀ code, first.issues.get? code = second.issues.get? code)
    (hit : ∀ code, first.hit.get? code = second.hit.get? code) : first = second := by
  cases first
  cases second
  congr
  · exact SortedMap.ext_get? issues
  · exact SortedMap.ext_get? hit

/-- The issues of each code after an expectation was added. -/
theorem get?_issues_expect (pragma : Pragma) (code probe : String) (issues : List Issue) :
    (pragma.expect code issues).issues.get? probe =
      if probe = code then some ((pragma.issues.get? code).getD [] ++ issues)
      else pragma.issues.get? probe :=
  SortedMap.get?_alter pragma.issues code probe _

/-- The flag of each code after an expectation was added. -/
theorem get?_hit_expect (pragma : Pragma) (code probe : String) (issues : List Issue) :
    (pragma.expect code issues).hit.get? probe =
      if probe = code then some ((pragma.hit.get? code).getD false) else pragma.hit.get? probe :=
  SortedMap.get?_alter pragma.hit code probe _

/-- Two optional values combined; one alone stays as it is. -/
def combine {α : Type} (join : α → α → α) : Option α → Option α → Option α
  | some first, some second => some (join first second)
  | first, none => first
  | none, second => second

/-- Folding entries into a map combines the values of each key. -/
theorem get?_foldl_alter {Value : Type} (join : Value → Value → Value) (unit : Value)
    (unit_join : ∀ value, join unit value = value)
    {entries : List (String × Value)} (ascending : entries.Pairwise fun x y => x.1 < y.1)
    (map : SortedMap String Value) (probe : String) :
    (entries.foldl
        (fun map entry => map.alter entry.1 fun old => some (join (old.getD unit) entry.2))
        map).get? probe = combine join (map.get? probe) (entries.lookup probe) := by
  induction entries generalizing map with
  | nil =>
    rw [List.foldl_nil, List.lookup_nil]
    cases map.get? probe <;> rfl
  | cons head rest ih =>
    obtain ⟨code, value⟩ := head
    obtain ⟨below, sorted⟩ := List.pairwise_cons.mp ascending
    rw [List.foldl_cons, ih sorted, SortedMap.get?_alter, SortedMap.lookup_entry]
    by_cases same : probe = code
    · subst same
      have absent : rest.lookup probe = none :=
        SortedMap.lookup_eq_none_of_below fun entry member => below entry member
      cases map.get? probe <;> simp [absent, combine, unit_join]
    · simp [same]

/-- The issues after a merge: those of the receiver before those of the other side. -/
theorem get?_issues_extend (pragma later : Pragma) (code : String) :
    (pragma.extend later).issues.get? code =
      combine (· ++ ·) (pragma.issues.get? code) (later.issues.get? code) :=
  get?_foldl_alter (· ++ ·) [] (fun _ => rfl) later.issues.ascending pragma.issues code

/-- The flags after a merge: the disjunction of both sides. -/
theorem get?_hit_extend (pragma later : Pragma) (code : String) :
    (pragma.extend later).hit.get? code =
      combine (· || ·) (pragma.hit.get? code) (later.hit.get? code) :=
  get?_foldl_alter (· || ·) false Bool.false_or later.hit.ascending pragma.hit code

end Pragma

end CheckerFixtures
