/-
**Texts one behind the other.**

A text of complete lines is followed by another text. The lines of the first keep their entries; the
second is scanned as it is alone, but for the one line that the run of standalone lines across the
seam describes. What waits behind the first text is all that the second one takes over from it.

* `groupOf_append_right`: the groups behind a seam;
* `mergeAll_append`: merging a group that was cut in two;
* `lines_append`: behind complete lines the lines start afresh;
* `pragmaAt?_append_right`: the entries behind the seam, by what waits in front of it;
* `Fixture.pragmaAt?_append`: the entries of the whole.
-/

import CheckerFixtures.Proofs.Merging
import CheckerFixtures.Proofs.RoundTrip

namespace CheckerFixtures

/-! ### Kinds in two parts -/

section Parts

variable (first second : List LineKind)

theorem kindAt_append_right {line : Nat} (positive : 1 ≤ line) :
    kindAt (first ++ second) (first.length + line) = kindAt second line := by
  cases line with
  | zero => cases positive
  | succ index =>
    show (first ++ second)[first.length + index]?.getD .plain = _
    rw [List.getElem?_append_right (Nat.le_add_right _ _), Nat.add_sub_cancel_left]
    rfl

/-- The number of standalone lines with which some lines begin. -/
def leadingRun : List LineKind → Nat
  | .standalone _ :: kinds => leadingRun kinds + 1
  | _ => 0

theorem isStandalone_of_le_leadingRun {kinds : List LineKind} {line : Nat} (positive : 1 ≤ line)
    (inside : line ≤ leadingRun kinds) : (kindAt kinds line).IsStandalone := by
  induction kinds generalizing line with
  | nil => exact absurd (positive.trans inside) (Nat.not_succ_le_zero 0)
  | cons kind kinds ih =>
    cases kind with
    | standalone pragma =>
      match line with
      | 1 => exact ⟨pragma, rfl⟩
      | line + 2 =>
        show (kindAt kinds (line + 1)).IsStandalone
        exact ih (Nat.le_add_left 1 line) (Nat.le_of_succ_le_succ inside)
    | trailing _ | plain => exact absurd (positive.trans inside) (Nat.not_succ_le_zero 0)

theorem not_isStandalone_leadingRun (kinds : List LineKind) :
    ¬ (kindAt kinds (leadingRun kinds + 1)).IsStandalone := by
  induction kinds with
  | nil => rintro ⟨_, ⟨⟩⟩
  | cons kind kinds ih =>
    cases kind with
    | standalone pragma => exact ih
    | trailing _ | plain => rintro ⟨_, ⟨⟩⟩

/-- Only a run that begins right behind the seam reaches across it. -/
theorem runEndingAt_append_right (line : Nat) :
    runEndingAt (first ++ second) (first.length + line) =
      if line ≤ leadingRun second then
        runEndingAt first first.length ++ runEndingAt second line
      else runEndingAt second line := by
  induction line with
  | zero =>
    rw [if_pos (Nat.zero_le _), Nat.add_zero, runEndingAt_append_left first second le_rfl]
    exact (List.append_nil _).symm
  | succ line ih =>
    have kind := kindAt_append_right first second (Nat.le_add_left 1 line)
    cases own : kindAt second (line + 1) with
    | standalone pragma =>
      rw [own] at kind
      have next : line + 1 ≤ leadingRun second ↔ line ≤ leadingRun second := by
        constructor
        · omega
        · intro inside
          rcases Nat.lt_or_ge line (leadingRun second) with before | last
          · exact before
          · have opened := not_isStandalone_leadingRun second
            rw [show leadingRun second = line by omega, own] at opened
            exact absurd ⟨pragma, rfl⟩ opened
      have whole : runEndingAt (first ++ second) (first.length + (line + 1)) =
          runEndingAt (first ++ second) (first.length + line) ++ [pragma] :=
        runEndingAt_succ_standalone kind
      rw [whole, runEndingAt_succ_standalone own, ih]
      simp only [next]
      split
      · exact List.append_assoc ..
      · rfl
    | trailing _ | plain =>
      have closed : ¬ (kindAt second (line + 1)).IsStandalone := by
        rw [own]
        rintro ⟨_, ⟨⟩⟩
      have beyond : ¬ line + 1 ≤ leadingRun second := fun inside =>
        closed (isStandalone_of_le_leadingRun (Nat.le_add_left 1 line) inside)
      rw [if_neg beyond, runEndingAt_eq_nil_iff.mpr closed, runEndingAt_eq_nil_iff, kind]
      exact closed

/-- **The groups behind a seam** are those of the second part, and the run that ends at the seam
goes to the first line there that is not standalone. -/
theorem groupOf_append_right {line : Nat} (positive : 1 ≤ line) :
    groupOf (first ++ second) (first.length + line) =
      if line = leadingRun second + 1 then groupOf first (first.length + 1) ++ groupOf second line
      else groupOf second line := by
  have kind := kindAt_append_right first second positive
  have above := runEndingAt_append_right first second (line - 1)
  rw [← Nat.add_sub_assoc positive] at above
  rw [groupOf_length_succ]
  by_cases standalone : (kindAt second line).IsStandalone
  · have later : line ≠ leadingRun second + 1 := by
      rintro rfl
      exact not_isStandalone_leadingRun second standalone
    obtain ⟨pragma, own⟩ := standalone
    unfold groupOf
    rw [if_neg later, kind, own]
  · have beyond : leadingRun second < line := by
      by_contra inside
      exact standalone (isStandalone_of_le_leadingRun positive (by omega))
    have next : line - 1 ≤ leadingRun second ↔ line = leadingRun second + 1 := by omega
    simp only [next] at above
    unfold groupOf
    rw [kind, above]
    cases own : kindAt second line with
    | standalone pragma => exact absurd ⟨pragma, own⟩ standalone
    | trailing pragma =>
      dsimp only
      split
      · exact List.append_assoc ..
      · rfl
    | plain => rfl

end Parts

/-- Merging a group that was cut in two. -/
theorem mergeAll_append (above below : List Pragma) :
    mergeAll (above ++ below) =
      Pragma.combine Pragma.extend (mergeAll above) (mergeAll below) := by
  induction below using List.reverseRecOn with
  | nil =>
    rw [List.append_nil]
    cases mergeAll above <;> rfl
  | append_singleton below last ih =>
    rw [← List.append_assoc, mergeAll_concat, mergeAll_concat, ih]
    cases mergeAll above with
    | none => rw [Pragma.combine_none_left, Pragma.combine_none_left]
    | some waiting =>
      cases mergeAll below with
      | none => rfl
      | some merged => exact congrArg some (Pragma.extend_assoc waiting merged last)

/-! ### Texts in two parts -/

/-- A text of so many lines, each of which ends with a line feed. -/
inductive CompleteLines : Nat → List Char → Prop
  | nil : CompleteLines 0 []
  | cons {count : Nat} {line text : List Char} :
      '\n' ∉ line → CompleteLines count text → CompleteLines (count + 1) (line ++ '\n' :: text)

/-- Behind complete lines the lines start afresh. -/
theorem lines_append {count : Nat} {above : List Char} (complete : CompleteLines count above)
    (below : List Char) : Text.lines (above ++ below) = Text.lines above ++ Text.lines below := by
  induction complete with
  | nil => rfl
  | cons single _ ih =>
    rw [List.append_assoc, List.cons_append, Text.lines_line single, Text.lines_line single, ih,
      List.cons_append]

theorem length_lines {count : Nat} {text : List Char} (complete : CompleteLines count text) :
    (Text.lines text).length = count := by
  induction complete with
  | nil => rfl
  | cons single _ ih => rw [Text.lines_line single, List.length_cons, ih]

/-- Whether a line of a text, counted from one, is a standalone pragma line. -/
def StandsAlone (tokens : List String) (text : String) (number : Nat) : Prop :=
  ∃ line pragma, 1 ≤ number ∧ (Text.lines text.toList)[number - 1]? = some line ∧
    HasKind tokens line (.standalone pragma)

/-- The kinds of the lines of a text. -/
abbrev textKinds (tokens : List String) (text : String) : List LineKind :=
  kindsOf tokens (Text.lines text.toList)

theorem standsAlone_iff {tokens : List String} {text : String} {number : Nat} :
    StandsAlone tokens text number ↔ (kindAt (textKinds tokens text) number).IsStandalone := by
  cases number with
  | zero =>
    constructor
    · rintro ⟨_, _, positive, _⟩
      cases positive
    · rintro ⟨_, ⟨⟩⟩
  | succ index =>
    unfold StandsAlone textKinds kindsOf
    simp only [kindAt, List.getElem?_map, hasKind_iff, Nat.add_sub_cancel]
    constructor
    · rintro ⟨line, pragma, -, there, kind⟩
      exact ⟨pragma, by rw [there, Option.map_some, Option.getD_some, kind]⟩
    · rintro ⟨pragma, kind⟩
      cases there : (Text.lines text.toList)[index]? with
      | none =>
        rw [there] at kind
        cases kind
      | some line =>
        rw [there] at kind
        exact ⟨line, pragma, Nat.le_add_left 1 index, rfl, kind⟩

theorem pragmaAt?_ofText (name : String) (tokens : List String) (text : String) (line : Nat) :
    (Fixture.ofText name text tokens).pragmaAt? line =
      mergeAll (groupOf (textKinds tokens text) line) :=
  get?_pragmas_ofLines name text.toList tokens _ line

/-! ### The entries of the whole -/

section Append

variable (name : String) (tokens : List String) {above : String} {count : Nat}
  (complete : CompleteLines count above.toList) (below : String)

include complete

theorem textKinds_append :
    textKinds tokens (above ++ below) = textKinds tokens above ++ textKinds tokens below := by
  unfold textKinds kindsOf
  rw [String.toList_append, lines_append complete, List.map_append]

theorem length_textKinds : (textKinds tokens above).length = count := by
  unfold textKinds kindsOf
  rw [List.length_map, length_lines complete]

/-- Lines in front of the seam keep their entries. -/
theorem pragmaAt?_append_left {line : Nat} (inside : line ≤ count) :
    (Fixture.ofText name (above ++ below) tokens).pragmaAt? line =
      (Fixture.ofText name above tokens).pragmaAt? line := by
  rw [← length_textKinds tokens complete] at inside
  rw [pragmaAt?_ofText, pragmaAt?_ofText, textKinds_append tokens complete,
    groupOf_append_left _ _ inside]

/-- **The entries behind the seam**: what waits there is merged above the entry of one line. -/
theorem pragmaAt?_append_right {line : Nat} (positive : 1 ≤ line) :
    (Fixture.ofText name (above ++ below) tokens).pragmaAt? (count + line) =
      if line = leadingRun (textKinds tokens below) + 1 then
        Pragma.combine Pragma.extend ((Fixture.ofText name above tokens).pragmaAt? (count + 1))
          ((Fixture.ofText name below tokens).pragmaAt? line)
      else (Fixture.ofText name below tokens).pragmaAt? line := by
  have groups := groupOf_append_right (textKinds tokens above) (textKinds tokens below) positive
  rw [length_textKinds tokens complete] at groups
  rw [pragmaAt?_ofText, pragmaAt?_ofText, pragmaAt?_ofText, textKinds_append tokens complete,
    groups]
  split
  · exact mergeAll_append _ _
  · rfl

/-- Something waits behind complete lines exactly if the last of them is standalone. -/
theorem isSome_pragmaAt?_behind :
    ((Fixture.ofText name above tokens).pragmaAt? (count + 1)).isSome = true ↔
      StandsAlone tokens above count := by
  have length := length_textKinds tokens complete
  have behind := groupOf_length_succ (textKinds tokens above)
  rw [length] at behind
  rw [pragmaAt?_ofText, behind, standsAlone_iff, Option.isSome_iff_ne_none, ne_eq,
    mergeAll_eq_none_iff, runEndingAt_eq_nil_iff, not_not]

end Append

namespace Fixture

/-- **Extraction composes over concatenation.** Behind a text of complete lines the entries of
another text are those that it has alone. Only if the last line in front is standalone, what waits
behind it goes to the first line of the second text that is not standalone, above the entry which
that line has of its own. Nothing else of the first text has any influence. -/
theorem pragmaAt?_append (name : String) (tokens : List String) {above : String} {count : Nat}
    (complete : CompleteLines count above.toList) (below : String) :
    (∀ line ≤ count, (ofText name (above ++ below) tokens).pragmaAt? line =
        (ofText name above tokens).pragmaAt? line) ∧
      (¬ StandsAlone tokens above count → ∀ line, count < line →
        (ofText name (above ++ below) tokens).pragmaAt? line =
          (ofText name below tokens).pragmaAt? (line - count)) ∧
      (StandsAlone tokens above count → ∃ waiting run,
        (ofText name above tokens).pragmaAt? (count + 1) = some waiting ∧
        (∀ number, 1 ≤ number → number ≤ run → StandsAlone tokens below number) ∧
        ¬ StandsAlone tokens below (run + 1) ∧
        ∀ line, count < line → (ofText name (above ++ below) tokens).pragmaAt? line =
          if line = count + run + 1 then
            some (((ofText name below tokens).pragmaAt? (run + 1)).elim waiting waiting.extend)
          else (ofText name below tokens).pragmaAt? (line - count)) ∧
      ∀ (other : String) (count' : Nat), CompleteLines count' other.toList →
        (ofText name other tokens).pragmaAt? (count' + 1) =
          (ofText name above tokens).pragmaAt? (count + 1) →
        ∀ line, 1 ≤ line → (ofText name (other ++ below) tokens).pragmaAt? (count' + line) =
          (ofText name (above ++ below) tokens).pragmaAt? (count + line) := by
  have behind : ∀ line, count < line → _ := fun line later =>
    pragmaAt?_append_right name tokens complete below (Nat.sub_pos_of_lt later)
  have waits := isSome_pragmaAt?_behind name tokens complete
  refine ⟨fun line => pragmaAt?_append_left name tokens complete below, ?_, ?_, ?_⟩
  · intro closed line later
    rw [← waits, Bool.not_eq_true, Option.isSome_eq_false_iff, Option.isNone_iff_eq_none] at closed
    have entry := behind line later
    rw [closed, Pragma.combine_none_left, ite_self, Nat.add_sub_of_le later.le] at entry
    exact entry
  · intro standalone
    obtain ⟨waiting, found⟩ := Option.isSome_iff_exists.mp (waits.mpr standalone)
    refine ⟨waiting, leadingRun (textKinds tokens below), found, ?_, ?_, ?_⟩
    · intro number positive inside
      exact standsAlone_iff.mpr (isStandalone_of_le_leadingRun positive inside)
    · exact fun inside => not_isStandalone_leadingRun _ (standsAlone_iff.mp inside)
    · intro line later
      have entry := behind line later
      have here : line - count = leadingRun (textKinds tokens below) + 1 ↔
          line = count + leadingRun (textKinds tokens below) + 1 := by omega
      rw [found, Nat.add_sub_of_le later.le] at entry
      simp only [here] at entry
      rw [entry]
      split
      · rename_i last
        rw [here.mpr last]
        cases (ofText name below tokens).pragmaAt? _ <;> rfl
      · rfl
  · intro other count' otherComplete same line positive
    rw [pragmaAt?_append_right name tokens otherComplete below positive,
      pragmaAt?_append_right name tokens complete below positive, same]

/-- The seam lies inside a run of two standalone lines. -/
theorem pragmaAt?_append_insideRun :
    CompleteLines 2 "f()\n// [A]: 1\n".toList ∧
      StandsAlone ["//"] "f()\n// [A]: 1\n" 2 ∧
      (ofText "a" ("f()\n// [A]: 1\n" ++ "// [A]: 2\ng() // [B]\n") ["//"]).pragmaAt? 4 =
        some (Clause.collect [("A", [⟨1, "", false⟩, ⟨2, "", false⟩]), ("B", [])]) := by
  have code : '\n' ∉ "f()".toList := by decide
  have comment : '\n' ∉ "// [A]: 1".toList := by decide
  have complete : CompleteLines 2 "f()\n// [A]: 1\n".toList := .cons code (.cons comment .nil)
  have waits : (ofText "a" "f()\n// [A]: 1\n" ["//"]).pragmaAt? 3 =
      some (Clause.collect [("A", [⟨1, "", false⟩])]) := by
    decide +kernel
  have own : (ofText "a" "// [A]: 2\ng() // [B]\n" ["//"]).pragmaAt? 2 =
      some (Clause.collect [("A", [⟨2, "", false⟩]), ("B", [])]) := by
    decide +kernel
  have standalone : StandsAlone ["//"] "f()\n// [A]: 1\n" 2 :=
    (isSome_pragmaAt?_behind "a" ["//"] complete).mp (by rw [waits]; rfl)
  obtain ⟨waiting, run, found, leads, stops, entries⟩ :=
    (pragmaAt?_append "a" ["//"] complete "// [A]: 2\ng() // [B]\n").2.2.1 standalone
  have first : StandsAlone ["//"] "// [A]: 2\ng() // [B]\n" 1 :=
    standsAlone_iff.mpr ⟨Clause.collect [("A", [⟨2, "", false⟩])], by decide +kernel⟩
  have second : ¬ StandsAlone ["//"] "// [A]: 2\ng() // [B]\n" 2 := by
    have trailing : kindAt (textKinds ["//"] "// [A]: 2\ng() // [B]\n") 2 =
        .trailing (Clause.collect [("B", [])]) := by
      decide +kernel
    rw [standsAlone_iff, trailing]
    rintro ⟨_, ⟨⟩⟩
  have single : run = 1 := by
    rcases Nat.lt_trichotomy run 1 with none | one | more
    · rw [Nat.lt_one_iff.mp none] at stops
      exact absurd first stops
    · exact one
    · exact absurd (leads 2 (by decide) more) second
  have entry := entries 4 (by decide)
  rw [waits] at found
  rw [single, if_pos rfl, own, ← Option.some.inj found] at entry
  refine ⟨complete, standalone, entry.trans ?_⟩
  decide +kernel

end Fixture

end CheckerFixtures
