/-
**The comment of a line, and the kind of a line.**

The search for a comment is described without the search: a token counts if no earlier one occurs
in the line, and its body stands behind the place where it occurs first. From the comment follows
the kind of the line: a pragma that stands alone, a pragma behind code, or neither.

* `after?_eq_some_iff`, `after?_eq_none_iff`: the search finds the first occurrence if there is one;
* `comment?_eq_some_iff`: the comment of a line by list order and first occurrence;
* `hasKind_iff`: every line has exactly one kind, the one that `lineKind` computes.
-/

import CheckerFixtures.Fixture.Scan
import Mathlib.Data.List.Infix

namespace CheckerFixtures

/-! ### First occurrences -/

/-- A line cut at the first place where a token stands. -/
structure FirstOccurrence (token line before body : List Char) : Prop where
  cut : line = before ++ (token ++ body)
  first : ∀ before' body', line = before' ++ (token ++ body') → before.length ≤ before'.length

namespace Text

theorem startsWith_iff {lead text : List Char} : startsWith lead text = true ↔ lead <+: text := by
  rw [startsWith, Option.isSome_iff_exists]
  constructor
  · rintro ⟨rest, stripped⟩
    exact ⟨rest, (stripLead?_eq_some_iff.mp stripped).symm⟩
  · rintro ⟨rest, whole⟩
    exact ⟨rest, stripLead?_eq_some_iff.mpr whole.symm⟩

theorem stripLead?_eq_none_iff {lead text : List Char} :
    stripLead? lead text = none ↔ ¬ lead <+: text := by
  rw [← startsWith_iff, startsWith, Option.not_isSome_iff_eq_none]

/-- The search fails exactly where the needle does not occur. -/
theorem after?_eq_none_iff {needle text : List Char} :
    after? needle text = none ↔ ¬ needle <:+: text := by
  rw [← not_iff_not, not_not]
  constructor
  · intro found
    obtain ⟨rest, found⟩ := Option.ne_none_iff_exists'.mp found
    obtain ⟨before, whole⟩ := exists_of_after?_eq_some found
    exact ⟨before, rest, by rw [whole, List.append_assoc]⟩
  · rintro ⟨before, rest, rfl⟩
    rw [List.append_assoc, ← ne_eq, ← Option.isSome_iff_ne_none]
    exact after?_isSome_of_append before needle rest

/-- The search stops at the first occurrence. -/
theorem after?_of_firstOccurrence {token line before body : List Char}
    (occurrence : FirstOccurrence token line before body) : after? token line = some body := by
  induction before generalizing line with
  | nil =>
    have here : stripLead? token line = some body :=
      stripLead?_eq_some_iff.mpr (by simpa using occurrence.cut)
    cases line with
    | nil => exact here
    | cons c line => rw [after?, here]
  | cons c before ih =>
    obtain ⟨rfl, first⟩ := occurrence
    rw [List.cons_append, after?]
    have notHere : stripLead? token (c :: (before ++ (token ++ body))) = none := by
      rw [stripLead?_eq_none_iff]
      rintro ⟨body', whole⟩
      have tooFar := first [] body' (by rw [List.nil_append, whole, List.cons_append])
      simp at tooFar
    rw [notHere]
    refine ih ⟨rfl, fun before' body' whole => ?_⟩
    have later := first (c :: before') body' (by rw [List.cons_append, List.cons_append, whole])
    simpa using later

/-- What the search finds is the first occurrence. -/
theorem after?_eq_some_iff {token line body : List Char} :
    after? token line = some body ↔ ∃ before, FirstOccurrence token line before body := by
  constructor
  · intro found
    induction line with
    | nil =>
      have whole := stripLead?_eq_some_iff.mp found
      exact ⟨[], by simpa using whole, fun _ _ _ => Nat.zero_le _⟩
    | cons c line ih =>
      rw [after?] at found
      split at found
      · rename_i rest here
        have whole := stripLead?_eq_some_iff.mp here
        cases found
        exact ⟨[], whole, fun _ _ _ => Nat.zero_le _⟩
      · rename_i notHere
        obtain ⟨before, cut, first⟩ := ih found
        refine ⟨c :: before, by rw [cut, List.cons_append], fun before' body' whole => ?_⟩
        cases before' with
        | nil =>
          rw [stripLead?_eq_none_iff] at notHere
          exact absurd ⟨body', whole.symm⟩ notHere
        | cons c' before' =>
          have tail : line = before' ++ (token ++ body') := (List.cons.inj whole).2
          simpa using first before' body' tail
  · rintro ⟨before, occurrence⟩
    exact after?_of_firstOccurrence occurrence

end Text

/-! ### Comments -/

/-- The comment that a line holds: the first token of the list, empty ones apart, that occurs in
the line, and the text behind the place where it occurs first. -/
structure HoldsComment (tokens : List String) (line : List Char) (token : String)
    (body : List Char) : Prop where
  listed : ∃ earlier later, tokens = earlier ++ token :: later ∧
    ∀ other ∈ earlier, other ≠ "" → ¬ other.toList <:+: line
  usable : token ≠ ""
  occurs : ∃ before, FirstOccurrence token.toList line before body

/-- The tokens that a fixture looks for, as lists of characters. -/
abbrev searched (tokens : List String) : List (List Char) :=
  (Fixture.usableTokens tokens).map String.toList

theorem searched_singleton {token : String} (usable : token ≠ "") :
    searched [token] = [token.toList] := by
  unfold searched Fixture.usableTokens
  rw [List.filter_cons_of_pos (by simpa using usable)]
  rfl

theorem comment?_cons (head : String) (tokens : List String) (line : List Char) :
    comment? (searched (head :: tokens)) line =
      if head = "" then comment? (searched tokens) line
      else ((Text.after? head.toList line).map fun body => (head.toList, body)).or
        (comment? (searched tokens) line) := by
  by_cases empty : head = ""
  · simp [searched, Fixture.usableTokens, empty]
  · rw [if_neg empty, searched, Fixture.usableTokens,
      List.filter_cons_of_pos (by simpa using empty), List.map_cons, comment?, List.findSome?_cons]
    cases Text.after? head.toList line <;> rfl

namespace HoldsComment

variable {head token : String} {tokens : List String} {line body : List Char}

/-- The first token holds the comment if it occurs. -/
theorem here (usable : head ≠ "") (occurs : ∃ before, FirstOccurrence head.toList line before body) :
    HoldsComment (head :: tokens) line head body :=
  ⟨⟨[], tokens, rfl, fun _ member => by cases member⟩, usable, occurs⟩

/-- A token that is empty or does not occur is passed over. -/
theorem skip (passed : head ≠ "" → ¬ head.toList <:+: line)
    (comment : HoldsComment tokens line token body) :
    HoldsComment (head :: tokens) line token body := by
  obtain ⟨⟨earlier, later, whole, absent⟩, usable, occurs⟩ := comment
  refine ⟨⟨head :: earlier, later, by rw [whole, List.cons_append], fun other member => ?_⟩, usable,
    occurs⟩
  rcases List.mem_cons.mp member with rfl | member
  · exact passed
  · exact absent other member

/-- The comment belongs to the first token, or that token is passed over. -/
theorem cases_cons (comment : HoldsComment (head :: tokens) line token body) :
    (token = head ∧ head ≠ "" ∧ ∃ before, FirstOccurrence head.toList line before body) ∨
      ((head ≠ "" → ¬ head.toList <:+: line) ∧ HoldsComment tokens line token body) := by
  obtain ⟨⟨earlier, later, whole, absent⟩, usable, occurs⟩ := comment
  cases earlier with
  | nil =>
    obtain ⟨rfl, rfl⟩ := List.cons.inj whole
    exact .inl ⟨rfl, usable, occurs⟩
  | cons first earlier =>
    obtain ⟨rfl, tail⟩ := List.cons.inj whole
    exact .inr ⟨absent head List.mem_cons_self,
      ⟨earlier, later, tail, fun other member => absent other (List.mem_cons_of_mem _ member)⟩,
      usable, occurs⟩

end HoldsComment

/-- The search by list order and first occurrence finds the comment of a line. -/
theorem comment?_eq_some_iff {tokens : List String} {line body : List Char} {token : String} :
    comment? (searched tokens) line = some (token.toList, body) ↔
      HoldsComment tokens line token body := by
  induction tokens with
  | nil =>
    constructor
    · intro found
      cases found
    · rintro ⟨⟨earlier, later, whole, _⟩, _, _⟩
      simp at whole
  | cons head tokens ih =>
    rw [comment?_cons]
    by_cases empty : head = ""
    · rw [if_pos empty, ih]
      constructor
      · exact HoldsComment.skip fun usable => absurd empty usable
      · intro comment
        rcases comment.cases_cons with ⟨_, usable, _⟩ | ⟨_, comment⟩
        · exact absurd empty usable
        · exact comment
    · rw [if_neg empty]
      cases search : Text.after? head.toList line with
      | none =>
        rw [Option.map_none, Option.none_or, ih]
        constructor
        · exact HoldsComment.skip fun _ => Text.after?_eq_none_iff.mp search
        · intro comment
          rcases comment.cases_cons with ⟨_, _, occurs⟩ | ⟨_, comment⟩
          · rw [← Text.after?_eq_some_iff, search] at occurs
            cases occurs
          · exact comment
      | some found =>
        rw [Option.map_some, Option.some_or, Option.some.injEq, Prod.mk.injEq]
        constructor
        · rintro ⟨same, rfl⟩
          rw [String.toList_inj] at same
          subst same
          exact HoldsComment.here empty (Text.after?_eq_some_iff.mp search)
        · intro comment
          rcases comment.cases_cons with ⟨rfl, _, occurs⟩ | ⟨absent, _⟩
          · rw [← Text.after?_eq_some_iff, search] at occurs
            exact ⟨rfl, Option.some.inj occurs⟩
          · rw [Text.after?_eq_none_iff.mpr (absent empty)] at search
            cases search

/-- Without a comment none of the usable tokens occurs. -/
theorem comment?_eq_none_iff {tokens : List String} {line : List Char} :
    comment? (searched tokens) line = none ↔
      ∀ token ∈ tokens, token ≠ "" → ¬ token.toList <:+: line := by
  simp only [comment?, List.findSome?_eq_none_iff, List.mem_map, Fixture.usableTokens,
    List.mem_filter, decide_eq_true_eq, Option.map_eq_none_iff, Text.after?_eq_none_iff]
  constructor
  · intro absent token member usable
    exact absent _ ⟨token, ⟨member, usable⟩, rfl⟩
  · rintro absent _ ⟨token, ⟨member, usable⟩, rfl⟩
    exact absent token member usable

/-! ### Kinds of lines -/

/-- What a line adds to the expectations. -/
inductive LineKind where
  /-- A pragma in front of which the line holds nothing. -/
  | standalone (pragma : Pragma)
  /-- A pragma behind code. -/
  | trailing (pragma : Pragma)
  /-- No pragma. -/
  | plain
deriving DecidableEq, Inhabited

namespace LineKind

/-- The pragma on a line. -/
def pragma? : LineKind → Option Pragma
  | standalone pragma => some pragma
  | trailing pragma => some pragma
  | plain => none

def IsStandalone (kind : LineKind) : Prop := ∃ pragma, kind = standalone pragma

def IsTrailing (kind : LineKind) : Prop := ∃ pragma, kind = trailing pragma

end LineKind

/-- A line has a kind by its comment, by the pragma in that, and by what it begins with. -/
inductive HasKind (tokens : List String) (line : List Char) : LineKind → Prop
  | standalone {token : String} {body : List Char} {pragma : Pragma} :
      HoldsComment tokens line token body → Clause.parse? body = some pragma →
      token.toList <+: Text.trim line → HasKind tokens line (.standalone pragma)
  | trailing {token : String} {body : List Char} {pragma : Pragma} :
      HoldsComment tokens line token body → Clause.parse? body = some pragma →
      ¬ token.toList <+: Text.trim line → HasKind tokens line (.trailing pragma)
  | plain : (∀ token body, HoldsComment tokens line token body → Clause.parse? body = none) →
      HasKind tokens line .plain

/-- The kind of an annotation. -/
def Annotation.kind (found : Annotation) : LineKind :=
  if found.standalone then .standalone found.pragma else .trailing found.pragma

/-- The kind of a line, computed. -/
def lineKind (tokens : List (List Char)) (line : List Char) : LineKind :=
  (annotation? tokens line).elim .plain Annotation.kind

/-- A comment that is no pragma makes a line plain. -/
theorem lineKind_of_none {tokens : List (List Char)} {line : List Char}
    (unparsed : ∀ token body, comment? tokens line = some (token, body) →
      Clause.parse? body = none) : lineKind tokens line = .plain := by
  rw [lineKind, annotation?]
  cases found : comment? tokens line with
  | none => rfl
  | some pair =>
    show ((Clause.parse? pair.2).map _).elim _ _ = _
    rw [unparsed pair.1 pair.2 found]
    rfl

/-- The pragma of a comment stands alone if its token begins the trimmed line. -/
theorem lineKind_of_some {tokens : List (List Char)} {line token body : List Char}
    {pragma : Pragma} (found : comment? tokens line = some (token, body))
    (parsed : Clause.parse? body = some pragma) :
    lineKind tokens line =
      if Text.startsWith token (Text.trim line) then .standalone pragma else .trailing pragma := by
  rw [lineKind, annotation?, found]
  show ((Clause.parse? body).map _).elim _ _ = _
  rw [parsed]
  rfl

theorem exists_token_of_comment? {tokens : List String} {line token body : List Char}
    (found : comment? (searched tokens) line = some (token, body)) :
    ∃ name : String, name.toList = token := by
  obtain ⟨listed, member, found⟩ := List.exists_of_findSome?_eq_some found
  obtain ⟨name, _, rfl⟩ := List.mem_map.mp member
  obtain ⟨behind, _, same⟩ := Option.map_eq_some_iff.mp found
  exact ⟨name, (Prod.mk.inj same).1⟩

theorem hasKind_lineKind (tokens : List String) (line : List Char) :
    HasKind tokens line (lineKind (searched tokens) line) := by
  by_cases parses : ∃ token body, comment? (searched tokens) line = some (token, body) ∧
      Clause.parse? body ≠ none
  · obtain ⟨token, body, found, parsed⟩ := parses
    obtain ⟨pragma, parsed⟩ := Option.ne_none_iff_exists'.mp parsed
    obtain ⟨token, rfl⟩ := exists_token_of_comment? found
    have comment := comment?_eq_some_iff.mp found
    rw [lineKind_of_some found parsed]
    split
    · rename_i leads
      exact .standalone comment parsed (Text.startsWith_iff.mp leads)
    · rename_i differs
      exact .trailing comment parsed fun leads => differs (Text.startsWith_iff.mpr leads)
  · have unparsed : ∀ token body, comment? (searched tokens) line = some (token, body) →
        Clause.parse? body = none := by
      intro token body found
      by_contra parsed
      exact parses ⟨token, body, found, parsed⟩
    rw [lineKind_of_none unparsed]
    exact .plain fun token body comment => unparsed _ _ (comment?_eq_some_iff.mpr comment)

/-- The pragma of a line was read from its comment. -/
theorem exists_parse?_of_pragma? {tokens : List String} {line : List Char} {pragma : Pragma}
    (found : (lineKind (searched tokens) line).pragma? = some pragma) :
    ∃ body, Clause.parse? body = some pragma := by
  have kind := hasKind_lineKind tokens line
  generalize lineKind (searched tokens) line = own at kind found
  cases kind with
  | @standalone _ body _ _ read _ | @trailing _ body _ _ read _ =>
    cases found
    exact ⟨body, read⟩
  | plain => cases found

/-- **Every line has exactly one kind**, and it is computed from the search for a comment. -/
theorem hasKind_iff {tokens : List String} {line : List Char} {kind : LineKind} :
    HasKind tokens line kind ↔ lineKind (searched tokens) line = kind := by
  constructor
  · intro holds
    cases holds with
    | standalone comment parsed leads =>
      rw [lineKind_of_some (comment?_eq_some_iff.mpr comment) parsed,
        if_pos (Text.startsWith_iff.mpr leads)]
    | trailing comment parsed differs =>
      rw [lineKind_of_some (comment?_eq_some_iff.mpr comment) parsed,
        if_neg fun leads => differs (Text.startsWith_iff.mp leads)]
    | plain unparsed =>
      refine lineKind_of_none fun token body found => ?_
      obtain ⟨token, rfl⟩ := exists_token_of_comment? found
      exact unparsed token body (comment?_eq_some_iff.mp found)
  · rintro rfl
    exact hasKind_lineKind tokens line

end CheckerFixtures
