/-
**Which pragmas belong to which code line.**

The table of a fixture without the pass that computes it. From the kinds of the lines alone: the
longest run of standalone lines right above a line, and the trailing pragma on the line itself,
are the group of that line; a standalone line has no group of its own.

* `mergeAll_induction`: what merging keeps holds of several pragmas merged;
* `runEndingAt_isRun`: the run above a line is the longest one;
* `flatMap_groupOf`: the groups in line order hold every pragma once, in line order;
* `groupOf_append_left`: lines further down do not change a group;
* `groupOf_concat_last`, `groupOf_concat_behind`, `groupOf_concat_other`: what one more line does;
* `mergeAll_eq_none_iff`, `groupOf_ne_nil_iff`: which lines have an entry.
-/

import CheckerFixtures.Proofs.Comment
import Mathlib.Data.List.Induction
import Mathlib.Data.List.Sort

namespace CheckerFixtures

/-! ### Merging several pragmas -/

/-- Pragmas merged from top to bottom; without any there is nothing to merge. -/
def mergeAll : List Pragma → Option Pragma
  | [] => none
  | first :: rest => some (rest.foldl Pragma.extend first)

theorem mergeAll_eq_none_iff {pragmas : List Pragma} : mergeAll pragmas = none ↔ pragmas = [] := by
  cases pragmas <;> simp [mergeAll]

/-- One more pragma at the bottom is merged behind the others. -/
theorem mergeAll_concat (pragmas : List Pragma) (last : Pragma) :
    mergeAll (pragmas ++ [last]) =
      some ((mergeAll pragmas).elim last fun above => above.extend last) := by
  cases pragmas with
  | nil => rfl
  | cons first rest => simp [mergeAll]

/-- What merging keeps holds of several pragmas merged if it holds of each. -/
theorem mergeAll_induction {motive : Pragma → Prop}
    (extended : ∀ upper lower, motive upper → motive lower → motive (upper.extend lower))
    {pragmas : List Pragma} {merged : Pragma} (all : ∀ pragma ∈ pragmas, motive pragma)
    (found : mergeAll pragmas = some merged) : motive merged := by
  induction pragmas using List.reverseRecOn generalizing merged with
  | nil => cases found
  | append_singleton pragmas last ih =>
    have lowest : motive last := all last List.mem_concat_self
    rw [mergeAll_concat] at found
    cases above : mergeAll pragmas with
    | none =>
      rw [above] at found
      cases found
      exact lowest
    | some upper =>
      rw [above] at found
      cases found
      refine extended upper last (ih (fun pragma member => ?_) above) lowest
      exact all pragma (List.mem_append_left _ member)

/-! ### Lines by number -/

/-- The kind of a line, counted from one; outside the text every line is plain. -/
def kindAt (kinds : List LineKind) : Nat → LineKind
  | 0 => .plain
  | index + 1 => kinds[index]?.getD .plain

theorem kindAt_append_left (first second : List LineKind) {line : Nat}
    (inside : line ≤ first.length) : kindAt (first ++ second) line = kindAt first line := by
  cases line with
  | zero => rfl
  | succ index => rw [kindAt, kindAt, List.getElem?_append_left (by omega)]

theorem kindAt_concat (kinds : List LineKind) (kind : LineKind) (line : Nat) :
    kindAt (kinds ++ [kind]) line = if line = kinds.length + 1 then kind else kindAt kinds line := by
  cases line with
  | zero => rfl
  | succ index =>
    rw [kindAt, kindAt]
    rcases Nat.lt_trichotomy index kinds.length with inside | last | outside
    · rw [if_neg (by omega), List.getElem?_append_left inside]
    · rw [if_pos (by omega), last, List.getElem?_concat_length, Option.getD_some]
    · rw [if_neg (by omega), List.getElem?_eq_none (by simp; omega),
        List.getElem?_eq_none (by omega)]

theorem kindAt_nil (line : Nat) : kindAt [] line = .plain := by
  cases line <;> rfl

/-- Behind the last line every line is plain. -/
theorem kindAt_of_lt {kinds : List LineKind} {line : Nat} (outside : kinds.length < line) :
    kindAt kinds line = .plain := by
  cases line with
  | zero => rfl
  | succ index => rw [kindAt, List.getElem?_eq_none (by omega), Option.getD_none]

/-! ### Runs of standalone lines -/

/-- The pragmas of the standalone lines that end at a line without a gap, top to bottom. -/
def runEndingAt (kinds : List LineKind) : Nat → List Pragma
  | 0 => []
  | line + 1 =>
    match kindAt kinds (line + 1) with
    | .standalone pragma => runEndingAt kinds line ++ [pragma]
    | _ => []

/-- A list is the longest run of standalone lines that ends at a line: its pragmas stand on the
lines up to there, and the line before them is no standalone line. -/
def IsRun (kinds : List LineKind) (last : Nat) (run : List Pragma) : Prop :=
  ∃ before, before + run.length = last ∧ ¬ (kindAt kinds before).IsStandalone ∧
    ∀ offset pragma, run[offset]? = some pragma →
      kindAt kinds (before + offset + 1) = .standalone pragma

theorem runEndingAt_succ_standalone {kinds : List LineKind} {line : Nat} {pragma : Pragma}
    (standalone : kindAt kinds (line + 1) = .standalone pragma) :
    runEndingAt kinds (line + 1) = runEndingAt kinds line ++ [pragma] := by
  rw [runEndingAt, standalone]

/-- No run ends at a line that is not standalone. -/
theorem runEndingAt_eq_nil_iff {kinds : List LineKind} {line : Nat} :
    runEndingAt kinds line = [] ↔ ¬ (kindAt kinds line).IsStandalone := by
  cases line with
  | zero => simp [runEndingAt, kindAt, LineKind.IsStandalone]
  | succ line =>
    rw [runEndingAt]
    cases kindAt kinds (line + 1) <;> simp [LineKind.IsStandalone]

theorem runEndingAt_isRun (kinds : List LineKind) (line : Nat) :
    IsRun kinds line (runEndingAt kinds line) := by
  induction line with
  | zero => exact ⟨0, rfl, by simp [kindAt, LineKind.IsStandalone], by simp [runEndingAt]⟩
  | succ line ih =>
    cases kind : kindAt kinds (line + 1) with
    | standalone pragma =>
      rw [runEndingAt_succ_standalone kind]
      obtain ⟨before, whole, opens, each⟩ := ih
      refine ⟨before, by rw [List.length_append, List.length_singleton]; omega, opens, ?_⟩
      intro offset found present
      rcases Nat.lt_trichotomy offset (runEndingAt kinds line).length with inside | last | outside
      · rw [List.getElem?_append_left inside] at present
        exact each offset found present
      · rw [last, List.getElem?_concat_length] at present
        rw [last, whole, kind, Option.some.inj present]
      · rw [List.getElem?_eq_none (by simp; omega)] at present
        cases present
    | trailing _ | plain =>
      have none : runEndingAt kinds (line + 1) = [] := by
        rw [runEndingAt_eq_nil_iff, kind]
        simp [LineKind.IsStandalone]
      rw [none]
      exact ⟨line + 1, rfl, by simp [kind, LineKind.IsStandalone], by simp⟩

/-- Lines further down do not change the runs above them. -/
theorem runEndingAt_append_left (first second : List LineKind) {line : Nat}
    (inside : line ≤ first.length) :
    runEndingAt (first ++ second) line = runEndingAt first line := by
  induction line with
  | zero => rfl
  | succ line ih =>
    rw [runEndingAt, runEndingAt, kindAt_append_left first second inside, ih (by omega)]

/-! ### The group of a line -/

/-- The pragmas that belong to a line, top to bottom: those of the run above it and its own. -/
def groupOf (kinds : List LineKind) (line : Nat) : List Pragma :=
  match kindAt kinds line with
  | .standalone _ => []
  | .trailing pragma => runEndingAt kinds (line - 1) ++ [pragma]
  | .plain => runEndingAt kinds (line - 1)

/-- A line has a group if it is trailing or stands under a standalone line, and is not standalone
itself. -/
theorem groupOf_ne_nil_iff {kinds : List LineKind} {line : Nat} :
    groupOf kinds line ≠ [] ↔ ¬ (kindAt kinds line).IsStandalone ∧
      ((kindAt kinds line).IsTrailing ∨ (kindAt kinds (line - 1)).IsStandalone) := by
  have above := @runEndingAt_eq_nil_iff kinds (line - 1)
  rw [groupOf]
  cases kindAt kinds line with
  | standalone pragma => simp [LineKind.IsStandalone]
  | trailing pragma => simp [LineKind.IsStandalone, LineKind.IsTrailing]
  | plain =>
    rw [ne_eq, above, not_not]
    simp [LineKind.IsStandalone, LineKind.IsTrailing]

/-- Right behind the text only the run that ends it is left. -/
theorem groupOf_length_succ (kinds : List LineKind) :
    groupOf kinds (kinds.length + 1) = runEndingAt kinds kinds.length := by
  rw [groupOf, kindAt_of_lt (Nat.lt_succ_self _), Nat.add_sub_cancel]

theorem groupOf_eq_nil_of_lt {kinds : List LineKind} {line : Nat}
    (outside : kinds.length + 1 < line) : groupOf kinds line = [] := by
  rw [groupOf, kindAt_of_lt (by omega)]
  show runEndingAt kinds (line - 1) = []
  rw [runEndingAt_eq_nil_iff, kindAt_of_lt (by omega)]
  simp [LineKind.IsStandalone]

theorem groupOf_nil (line : Nat) : groupOf [] line = [] := by
  rw [groupOf, kindAt_nil]
  show runEndingAt [] (line - 1) = []
  rw [runEndingAt_eq_nil_iff, kindAt_nil]
  simp [LineKind.IsStandalone]

/-- Only lines of the text and the one right behind it have a group. -/
theorem inside_of_groupOf_ne_nil {kinds : List LineKind} {line : Nat}
    (filled : groupOf kinds line ≠ []) : 1 ≤ line ∧ line ≤ kinds.length + 1 := by
  constructor
  · rcases Nat.eq_zero_or_pos line with rfl | positive
    · exact absurd rfl filled
    · exact positive
  · by_contra outside
    exact filled (groupOf_eq_nil_of_lt (Nat.lt_of_not_le outside))

theorem groupOf_append_left (first second : List LineKind) {line : Nat}
    (inside : line ≤ first.length) : groupOf (first ++ second) line = groupOf first line := by
  unfold groupOf
  rw [kindAt_append_left first second inside, runEndingAt_append_left first second (by omega)]

/-- The line that is added has the run above it, and its own pragma if that is trailing. -/
theorem groupOf_concat_last (kinds : List LineKind) (kind : LineKind) :
    groupOf (kinds ++ [kind]) (kinds.length + 1) =
      match kind with
      | .standalone _ => []
      | .trailing pragma => groupOf kinds (kinds.length + 1) ++ [pragma]
      | .plain => groupOf kinds (kinds.length + 1) := by
  rw [groupOf_length_succ]
  unfold groupOf
  rw [kindAt_concat, if_pos rfl, Nat.add_sub_cancel, runEndingAt_append_left _ _ le_rfl]

/-- The line behind it has a group only if the added line is standalone. -/
theorem groupOf_concat_behind (kinds : List LineKind) (kind : LineKind) :
    groupOf (kinds ++ [kind]) (kinds.length + 2) =
      match kind with
      | .standalone pragma => groupOf kinds (kinds.length + 1) ++ [pragma]
      | _ => [] := by
  have behind := groupOf_length_succ (kinds ++ [kind])
  rw [List.length_append, List.length_singleton] at behind
  rw [behind, runEndingAt, kindAt_concat, if_pos rfl, runEndingAt_append_left _ _ le_rfl,
    groupOf_length_succ]

/-- Lines that one more line does not concern keep their groups. -/
theorem groupOf_concat_other {kinds : List LineKind} (kind : LineKind) {line : Nat}
    (notLast : line ≠ kinds.length + 1) (notBehind : line ≠ kinds.length + 2) :
    groupOf (kinds ++ [kind]) line = groupOf kinds line := by
  rcases Nat.lt_or_ge kinds.length line with outside | inside
  · have nothing : groupOf kinds line = [] := groupOf_eq_nil_of_lt (by omega)
    rw [nothing, groupOf_eq_nil_of_lt (by simp; omega)]
  · exact groupOf_append_left kinds [kind] inside

/-! ### Nothing is lost -/

/-- **The groups hold every pragma of the text once, in the order of the lines.** -/
theorem flatMap_groupOf (kinds : List LineKind) :
    (List.range (kinds.length + 2)).flatMap (groupOf kinds) = kinds.filterMap LineKind.pragma? := by
  induction kinds using List.reverseRecOn with
  | nil => rfl
  | append_singleton kinds kind ih =>
    have unchanged : (List.range (kinds.length + 1)).flatMap (groupOf (kinds ++ [kind])) =
        (List.range (kinds.length + 1)).flatMap (groupOf kinds) :=
      List.flatMap_congr fun line member =>
        groupOf_append_left kinds [kind] (Nat.le_of_lt_succ (List.mem_range.mp member))
    rw [List.range_succ, List.flatMap_append, List.flatMap_singleton] at ih
    rw [List.length_append, List.length_singleton, List.range_succ, List.range_succ,
      List.flatMap_append, List.flatMap_append, List.flatMap_singleton, List.flatMap_singleton,
      unchanged, groupOf_concat_last, groupOf_concat_behind, List.filterMap_append, ← ih]
    cases kind <;> simp [LineKind.pragma?]

/-- The pragmas of a group are those of lines. -/
theorem mem_of_mem_groupOf {kinds : List LineKind} {line : Nat} {pragma : Pragma}
    (member : pragma ∈ groupOf kinds line) : pragma ∈ kinds.filterMap LineKind.pragma? := by
  have inside := inside_of_groupOf_ne_nil (List.ne_nil_of_mem member)
  rw [← flatMap_groupOf, List.mem_flatMap]
  exact ⟨line, List.mem_range.mpr (by omega), member⟩

/-- Lines without a group do not count. -/
theorem flatMap_filter_groupOf (kinds : List LineKind) (lines : List Nat) :
    (lines.filter fun line => groupOf kinds line ≠ []).flatMap (groupOf kinds) =
      lines.flatMap (groupOf kinds) := by
  induction lines with
  | nil => rfl
  | cons line lines ih =>
    by_cases filled : groupOf kinds line ≠ []
    · rw [List.filter_cons_of_pos (by simpa using filled), List.flatMap_cons, List.flatMap_cons,
        ih]
    · rw [List.filter_cons_of_neg (by simpa using filled), List.flatMap_cons, ih,
        not_not.mp filled, List.nil_append]

end CheckerFixtures
