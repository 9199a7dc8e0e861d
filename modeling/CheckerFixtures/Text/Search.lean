/-
**Finding one text inside another.**

* `stripLead?_eq_some_iff`: stripping a lead succeeds exactly on texts that begin with it;
* `exists_of_after?_eq_some`: a search yields what stands behind an occurrence;
* `after?_isSome_of_append`: a search fails only where there is none;
* `mem_intercalate`: what joined texts are made of.
-/

namespace CheckerFixtures.Text

/-! ### A given beginning -/

/-- What is left of the text behind a given beginning. -/
def stripLead? : List Char → List Char → Option (List Char)
  | [], text => some text
  | _ :: _, [] => none
  | c :: lead, d :: text => if c = d then stripLead? lead text else none

/-- Whether the text has the given beginning. -/
def startsWith (lead text : List Char) : Bool := (stripLead? lead text).isSome

theorem stripLead?_eq_some_iff {lead text rest : List Char} :
    stripLead? lead text = some rest ↔ text = lead ++ rest := by
  induction lead generalizing text with
  | nil => simp [stripLead?]
  | cons c lead ih =>
    cases text with
    | nil => simp [stripLead?]
    | cons d text =>
      by_cases same : c = d
      · simp [stripLead?, same, ih]
      · simp [stripLead?, same, Ne.symm same]

/-! ### The first occurrence -/

/-- What stands behind the first occurrence of `needle`. -/
def after? (needle : List Char) : List Char → Option (List Char)
  | [] => stripLead? needle []
  | c :: text =>
    match stripLead? needle (c :: text) with
    | some rest => some rest
    | none => after? needle text

/-- A successful search ends right behind an occurrence. -/
theorem exists_of_after?_eq_some {needle text rest : List Char}
    (found : after? needle text = some rest) : ∃ before, text = before ++ (needle ++ rest) := by
  induction text with
  | nil => exact ⟨[], by simpa using stripLead?_eq_some_iff.mp found⟩
  | cons c text ih =>
    rw [after?] at found
    split at found
    · rename_i here
      exact ⟨[], by rw [← Option.some.inj found]; simpa using stripLead?_eq_some_iff.mp here⟩
    · obtain ⟨before, rfl⟩ := ih found
      exact ⟨c :: before, rfl⟩

/-- The search succeeds on every text that holds the needle. -/
theorem after?_isSome_of_append (before needle rest : List Char) :
    (after? needle (before ++ (needle ++ rest))).isSome := by
  induction before with
  | nil =>
    have here : stripLead? needle (needle ++ rest) = some rest := stripLead?_eq_some_iff.mpr rfl
    rw [List.nil_append]
    generalize needle ++ rest = text at here
    cases text <;> simp [after?, here]
  | cons c before ih =>
    rw [List.cons_append, after?]
    split
    · rfl
    · exact ih

/-! ### Joined texts -/

/-- A character of joined texts is one of the separator or of a text. -/
theorem mem_intercalate {separator : List Char} {parts : List (List Char)} {c : Char}
    (member : c ∈ List.intercalate separator parts) :
    c ∈ separator ∨ ∃ part ∈ parts, c ∈ part := by
  induction parts with
  | nil => cases member
  | cons part parts ih =>
    cases parts with
    | nil =>
      rw [List.intercalate_singleton] at member
      exact .inr ⟨part, List.mem_cons_self, member⟩
    | cons next parts =>
      rw [List.intercalate_cons_cons, List.mem_append, List.mem_append] at member
      rcases member with (here | between) | later
      · exact .inr ⟨part, List.mem_cons_self, here⟩
      · exact .inl between
      · rcases ih later with between | ⟨other, listed, inside⟩
        · exact .inl between
        · exact .inr ⟨other, List.mem_cons_of_mem part listed, inside⟩

end CheckerFixtures.Text
