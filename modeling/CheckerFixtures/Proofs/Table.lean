/-
**The table of expectations in closed form.**

After any lines the slots of the pass are known from the kinds of those lines alone: every line
holds the merged pragmas of its group. One line is one step of the invariant `Scan.Follows`; a text
is a run of such steps.

* `Scan.place_eq`, `Scan.get?_putSlot`: an annotation by the slots that it joins and folds in;
* `Scan.get?_place_standalone`, `Scan.get?_place_trailing`: what placing one annotation does;
* `Scan.Follows.feed`: one line keeps the invariant;
* `get?_pragmas_ofLines`: the entry of a line is its group, merged;
* `entry_induction`: so what merging keeps holds of every entry;
* `Fixture.table_ofText`: the whole table, by groups, runs, keys, and with nothing lost.
-/

import CheckerFixtures.Proofs.Attachment
import Mathlib.Data.List.Forall2

namespace CheckerFixtures

namespace Scan

/-! ### Placing one annotation -/

/-- The line that an annotation is for. -/
def targetOf (number : Nat) (found : Annotation) : Nat :=
  if found.standalone then number + 1 else number

/-- The latest standalone line, the one of an annotation included. -/
def pendingWith (scan : Scan) (number : Nat) (found : Annotation) : Option Nat :=
  if found.standalone then some number else scan.pending

/-- The slot that an annotation joins: the one at its target. -/
def joined? (scan : Scan) (number : Nat) (found : Annotation) : Option Slot :=
  scan.slots.get? (targetOf number found)

/-- The slot that an annotation folds in: the one right above its target, under some conditions. -/
def folded? (scan : Scan) (number : Nat) (found : Annotation) : Option Slot :=
  if found.standalone || scan.afterComment then
    ((scan.slots.erase (targetOf number found)).get? (targetOf number found - 1)).filter fun above =>
      above.standalone && some above.origin != scan.pendingWith number found
  else none

/-- The slots once an annotation stands at its target, with the slots that it joins and folds in. -/
def putSlot (slots : SortedMap Nat Slot) (number : Nat) (found : Annotation)
    (joined? folded? : Option Slot) : SortedMap Nat Slot :=
  let freed := slots.erase (targetOf number found)
  let freed := if folded?.isSome then freed.erase (targetOf number found - 1) else freed
  freed.insert (targetOf number found)
    ⟨mergeBehind folded? (mergeBehind joined? found.pragma), number, found.standalone⟩

/-- What placing does, by the slots that the annotation joins and folds in. -/
theorem place_eq (scan : Scan) (number : Nat) (found : Annotation) :
    scan.place number found =
      { scan with
        slots := putSlot scan.slots number found (scan.joined? number found)
          (scan.folded? number found)
        pending := scan.pendingWith number found } := rfl

theorem get?_putSlot (slots : SortedMap Nat Slot) (number : Nat) (found : Annotation)
    (joined? folded? : Option Slot) (line : Nat) :
    (putSlot slots number found joined? folded?).get? line =
      if line = targetOf number found then
        some ⟨mergeBehind folded? (mergeBehind joined? found.pragma), number, found.standalone⟩
      else if folded?.isSome ∧ line = targetOf number found - 1 then none
      else slots.get? line := by
  unfold putSlot
  dsimp only
  rw [SortedMap.get?_insert]
  by_cases target : line = targetOf number found
  · rw [if_pos target, if_pos target]
  · rw [if_neg target, if_neg target]
    cases folded? with
    | none =>
      rw [if_neg (by simp), if_neg (by simp), SortedMap.get?_erase, if_neg target]
    | some above =>
      rw [if_pos Option.isSome_some, SortedMap.get?_erase, SortedMap.get?_erase, if_neg target]
      simp only [Option.isSome_some, true_and]

section Place

variable {scan : Scan} {number : Nat} {pragma : Pragma}

/-- A standalone pragma folds in what stands on its own line, if that was written by an earlier
standalone line. -/
theorem folded?_standalone
    (above : ∀ slot, scan.slots.get? number = some slot →
      slot.standalone = true ∧ slot.origin ≠ number) :
    scan.folded? number ⟨pragma, true⟩ = scan.slots.get? number := by
  show ((scan.slots.erase (number + 1)).get? number).filter
    (fun above => above.standalone && some above.origin != some number) = _
  rw [SortedMap.get?_erase, if_neg (Nat.ne_of_lt (Nat.lt_succ_self number))]
  cases here : scan.slots.get? number with
  | none => rfl
  | some slot =>
    obtain ⟨standalone, earlier⟩ := above slot here
    exact Option.filter_some_pos (by simp [standalone, earlier])

/-- A trailing pragma folds in nothing, if a standalone slot on the line above was written by the
standalone line that is still pending. -/
theorem folded?_trailing
    (above : ∀ slot, scan.slots.get? (number - 1) = some slot → slot.standalone = true →
      scan.pending = some slot.origin) :
    scan.folded? number ⟨pragma, false⟩ = none := by
  show (if scan.afterComment = true then
      ((scan.slots.erase number).get? (number - 1)).filter
        fun above => above.standalone && some above.origin != scan.pending
      else none) = none
  split
  · rw [SortedMap.get?_erase]
    split
    · rfl
    · rw [Option.filter_eq_none_iff]
      intro slot there
      cases standalone : slot.standalone with
      | false => simp
      | true => simp [above slot there standalone]
  · rfl

/-- A standalone pragma moves on to the next line and takes along what stood on its own line, if
that was written by an earlier standalone line and nothing waits on the next line yet. -/
theorem get?_place_standalone (fresh : scan.slots.get? (number + 1) = none)
    (above : ∀ slot, scan.slots.get? number = some slot →
      slot.standalone = true ∧ slot.origin ≠ number) (line : Nat) :
    (scan.place number ⟨pragma, true⟩).slots.get? line =
      if line = number + 1 then some ⟨mergeBehind (scan.slots.get? number) pragma, number, true⟩
      else if line = number then none else scan.slots.get? line := by
  have joined : scan.joined? number ⟨pragma, true⟩ = none := fresh
  rw [place_eq]
  dsimp only
  rw [get?_putSlot, joined, folded?_standalone above]
  show (if line = number + 1 then _
    else if (scan.slots.get? number).isSome = true ∧ line = number then none
    else scan.slots.get? line) = _
  refine if_congr Iff.rfl rfl ?_
  by_cases own : line = number
  · rw [if_pos own, own]
    cases scan.slots.get? number <;> simp
  · rw [if_neg own, if_neg fun both => own both.2]

/-- A trailing pragma joins what stands on its line, and the line above keeps its slot if that was
written by the standalone line that is still pending. -/
theorem get?_place_trailing
    (above : ∀ slot, scan.slots.get? (number - 1) = some slot → slot.standalone = true →
      scan.pending = some slot.origin) (line : Nat) :
    (scan.place number ⟨pragma, false⟩).slots.get? line =
      if line = number then some ⟨mergeBehind (scan.slots.get? number) pragma, number, false⟩
      else scan.slots.get? line := by
  rw [place_eq]
  dsimp only
  rw [get?_putSlot, folded?_trailing above]
  refine if_congr Iff.rfl rfl ?_
  rw [if_neg fun both => Bool.false_ne_true both.1]

end Place

/-! ### One line -/

/-- What one line does: its annotation is placed, the first line sets the directive, and the next
line is told whether this one begins with a comment token. -/
theorem feed_eq (tokens : List (List Char)) (scan : Scan) (number : Nat) (line : List Char) :
    scan.feed tokens number line =
      { (annotation? tokens line).elim scan (scan.place number) with
        directive := if number = 1 then directiveOn? tokens line else scan.directive
        afterComment := isCommentLine tokens line } := by
  unfold feed
  by_cases first : number = 1
  · rw [if_pos first, if_pos first]
    cases annotation? tokens line <;> rfl
  · rw [if_neg first, if_neg first]
    cases annotation? tokens line <;> rfl

end Scan

/-! ### The slots in closed form -/

/-- The slot of a line: what belongs to the line, written last by the line itself if it is
trailing, and by the standalone line above it otherwise. -/
def slotAt (kinds : List LineKind) (line : Nat) : Option Slot :=
  (mergeAll (groupOf kinds line)).map fun pragma =>
    match kindAt kinds line with
    | .trailing _ => ⟨pragma, line, false⟩
    | _ => ⟨pragma, line - 1, true⟩

theorem map_pragma_slotAt (kinds : List LineKind) (line : Nat) :
    (slotAt kinds line).map Slot.pragma = mergeAll (groupOf kinds line) := by
  rw [slotAt, Option.map_map]
  refine Eq.trans (Option.map_congr fun pragma _ => ?_) Option.map_id_apply
  show Slot.pragma (match kindAt kinds line with | .trailing _ => _ | _ => _) = pragma
  split <;> rfl

/-- Merging behind a slot is merging behind its group. -/
theorem mergeBehind_slotAt (kinds : List LineKind) (line : Nat) (pragma : Pragma) :
    some (Scan.mergeBehind (slotAt kinds line) pragma) =
      mergeAll (groupOf kinds line ++ [pragma]) := by
  rw [mergeAll_concat, ← map_pragma_slotAt]
  cases slotAt kinds line <;> rfl

theorem slotAt_of_groupOf_eq_nil {kinds : List LineKind} {line : Nat}
    (nothing : groupOf kinds line = []) : slotAt kinds line = none := by
  rw [slotAt, mergeAll_eq_none_iff.mpr nothing, Option.map_none]

theorem slotAt_of_not_trailing {kinds : List LineKind} {line : Nat}
    (other : ¬ (kindAt kinds line).IsTrailing) :
    slotAt kinds line =
      (mergeAll (groupOf kinds line)).map fun pragma => ⟨pragma, line - 1, true⟩ := by
  rw [slotAt]
  cases kind : kindAt kinds line with
  | trailing pragma => exact absurd ⟨pragma, kind⟩ other
  | standalone | plain => rfl

theorem slotAt_of_trailing {kinds : List LineKind} {line : Nat}
    (own : (kindAt kinds line).IsTrailing) :
    slotAt kinds line = (mergeAll (groupOf kinds line)).map fun pragma => ⟨pragma, line, false⟩ := by
  obtain ⟨pragma, kind⟩ := own
  rw [slotAt, kind]

/-- Lines with the same kind and the same group have the same slot. -/
theorem slotAt_congr {kinds kinds' : List LineKind} {line : Nat}
    (kind : kindAt kinds line = kindAt kinds' line) (group : groupOf kinds line = groupOf kinds' line) :
    slotAt kinds line = slotAt kinds' line := by
  rw [slotAt, slotAt, kind, group]

section Concat

variable (kinds : List LineKind) (pragma : Pragma)

/-- Lines that one more line does not concern keep their slots. -/
theorem slotAt_concat_other {kinds : List LineKind} (kind : LineKind) {line : Nat}
    (notLast : line ≠ kinds.length + 1) (notBehind : line ≠ kinds.length + 2) :
    slotAt (kinds ++ [kind]) line = slotAt kinds line := by
  refine slotAt_congr ?_ (groupOf_concat_other kind notLast notBehind)
  rw [kindAt_concat, if_neg notLast]

/-- A line that is not standalone leaves nothing behind itself. -/
theorem slotAt_concat_behind {kinds : List LineKind} {kind : LineKind}
    (other : ¬ kind.IsStandalone) : slotAt (kinds ++ [kind]) (kinds.length + 2) = none := by
  refine slotAt_of_groupOf_eq_nil ?_
  rw [groupOf_concat_behind]
  cases kind with
  | standalone pragma => exact absurd ⟨pragma, rfl⟩ other
  | trailing | plain => rfl

theorem slotAt_eq_none_of_lt {kinds : List LineKind} {line : Nat}
    (outside : kinds.length + 1 < line) : slotAt kinds line = none :=
  slotAt_of_groupOf_eq_nil (groupOf_eq_nil_of_lt outside)

/-- A standalone line moves what waited for it to the next line. -/
theorem slotAt_concat_standalone (line : Nat) :
    slotAt (kinds ++ [.standalone pragma]) line =
      if line = kinds.length + 2 then
        some ⟨Scan.mergeBehind (slotAt kinds (kinds.length + 1)) pragma, kinds.length + 1, true⟩
      else if line = kinds.length + 1 then none else slotAt kinds line := by
  by_cases behind : line = kinds.length + 2
  · subst behind
    have plain : kindAt (kinds ++ [.standalone pragma]) (kinds.length + 2) = .plain :=
      kindAt_of_lt (by simp)
    rw [if_pos rfl, slotAt_of_not_trailing (by simp [plain, LineKind.IsTrailing]),
      groupOf_concat_behind]
    show (mergeAll (groupOf kinds (kinds.length + 1) ++ [pragma])).map _ = _
    rw [← mergeBehind_slotAt, Option.map_some]
    rfl
  · rw [if_neg behind]
    by_cases last : line = kinds.length + 1
    · rw [if_pos last, last]
      exact slotAt_of_groupOf_eq_nil (groupOf_concat_last kinds _)
    · rw [if_neg last, slotAt_concat_other _ last behind]

/-- A trailing line joins what waited for it. -/
theorem slotAt_concat_trailing (line : Nat) :
    slotAt (kinds ++ [.trailing pragma]) line =
      if line = kinds.length + 1 then
        some ⟨Scan.mergeBehind (slotAt kinds (kinds.length + 1)) pragma, kinds.length + 1, false⟩
      else slotAt kinds line := by
  by_cases last : line = kinds.length + 1
  · subst last
    have own : kindAt (kinds ++ [.trailing pragma]) (kinds.length + 1) = .trailing pragma := by
      rw [kindAt_concat, if_pos rfl]
    rw [if_pos rfl, slotAt_of_trailing ⟨pragma, own⟩, groupOf_concat_last]
    show (mergeAll (groupOf kinds (kinds.length + 1) ++ [pragma])).map _ = _
    rw [← mergeBehind_slotAt, Option.map_some]
  · rw [if_neg last]
    by_cases behind : line = kinds.length + 2
    · rw [behind, slotAt_concat_behind (by simp [LineKind.IsStandalone]),
        slotAt_eq_none_of_lt (Nat.lt_succ_self _)]
    · exact slotAt_concat_other _ last behind

/-- A plain line changes no slot. -/
theorem slotAt_concat_plain (line : Nat) : slotAt (kinds ++ [.plain]) line = slotAt kinds line := by
  by_cases last : line = kinds.length + 1
  · subst last
    refine slotAt_congr ?_ (groupOf_concat_last kinds _)
    rw [kindAt_concat, if_pos rfl, kindAt_of_lt (Nat.lt_succ_self _)]
  · by_cases behind : line = kinds.length + 2
    · rw [behind, slotAt_concat_behind (by simp [LineKind.IsStandalone]),
        slotAt_eq_none_of_lt (Nat.lt_succ_self _)]
    · exact slotAt_concat_other _ last behind

end Concat

/-! ### The invariant -/

/-- The latest standalone line up to a line. -/
def latestStandalone (kinds : List LineKind) : Nat → Option Nat
  | 0 => none
  | line + 1 =>
    match kindAt kinds (line + 1) with
    | .standalone _ => some (line + 1)
    | _ => latestStandalone kinds line

theorem latestStandalone_concat {kinds : List LineKind} (kind : LineKind) {line : Nat}
    (inside : line ≤ kinds.length) :
    latestStandalone (kinds ++ [kind]) line = latestStandalone kinds line := by
  induction line with
  | zero => rfl
  | succ line ih =>
    rw [latestStandalone, latestStandalone, kindAt_concat, if_neg (by omega), ih (by omega)]

/-- The added line is the latest standalone one if it is standalone. -/
theorem latestStandalone_concat_last (kinds : List LineKind) (kind : LineKind) :
    latestStandalone (kinds ++ [kind]) (kinds ++ [kind]).length =
      match kind with
      | .standalone _ => some (kinds.length + 1)
      | _ => latestStandalone kinds kinds.length := by
  rw [List.length_append, List.length_singleton, latestStandalone, kindAt_concat, if_pos rfl,
    latestStandalone_concat kind le_rfl]

/-- A slot that a standalone line wrote for the last line belongs to the latest standalone line:
the line above it. -/
theorem latestStandalone_of_slotAt {kinds : List LineKind} {line : Nat} {slot : Slot}
    (there : slotAt kinds line = some slot) (standalone : slot.standalone = true) :
    latestStandalone kinds line = some slot.origin := by
  have filled : groupOf kinds line ≠ [] := by
    intro nothing
    rw [slotAt_of_groupOf_eq_nil nothing] at there
    cases there
  obtain ⟨notStandalone, owner⟩ := groupOf_ne_nil_iff.mp filled
  by_cases trailing : (kindAt kinds line).IsTrailing
  · rw [slotAt_of_trailing trailing] at there
    obtain ⟨_, _, rfl⟩ := Option.map_eq_some_iff.mp there
    cases standalone
  · rw [slotAt_of_not_trailing trailing] at there
    obtain ⟨_, _, rfl⟩ := Option.map_eq_some_iff.mp there
    obtain ⟨pragma, above⟩ := owner.resolve_left trailing
    cases line with
    | zero => cases above
    | succ line =>
      cases line with
      | zero => cases above
      | succ line =>
        rw [latestStandalone]
        cases kind : kindAt kinds (line + 1 + 1) with
        | standalone own => exact absurd ⟨own, kind⟩ notStandalone
        | trailing own => exact absurd ⟨own, kind⟩ trailing
        | plain =>
          rw [Nat.add_sub_cancel] at above
          show latestStandalone kinds (line + 1) = some (line + 1)
          rw [latestStandalone, above]

namespace Scan

/-- **The invariant of the pass.** After lines of some kinds the slots are those of the closed form,
and the latest standalone line is pending. -/
structure Follows (kinds : List LineKind) (scan : Scan) : Prop where
  slots : ∀ line, scan.slots.get? line = slotAt kinds line
  pending : scan.pending = latestStandalone kinds kinds.length

namespace Follows

theorem start : Follows [] Scan.start := by
  refine ⟨fun line => ?_, rfl⟩
  rw [slotAt_of_groupOf_eq_nil (groupOf_nil line)]
  rfl

variable {kinds : List LineKind} {scan : Scan}

/-- What waits behind the last line was written by that line, which was standalone. -/
theorem above_standalone (follows : Follows kinds scan) (slot : Slot)
    (there : scan.slots.get? (kinds.length + 1) = some slot) :
    slot.standalone = true ∧ slot.origin ≠ kinds.length + 1 := by
  rw [follows.slots, slotAt_of_not_trailing] at there
  · obtain ⟨_, _, rfl⟩ := Option.map_eq_some_iff.mp there
    exact ⟨rfl, by simp⟩
  · rw [kindAt_of_lt (Nat.lt_succ_self _)]
    simp [LineKind.IsTrailing]

/-- A standalone line's slot on the last line is the pending one. -/
theorem above_trailing (follows : Follows kinds scan) (slot : Slot)
    (there : scan.slots.get? kinds.length = some slot) (standalone : slot.standalone = true) :
    scan.pending = some slot.origin := by
  rw [follows.slots] at there
  rw [follows.pending]
  exact latestStandalone_of_slotAt there standalone

theorem place_standalone (follows : Follows kinds scan) (pragma : Pragma) :
    Follows (kinds ++ [.standalone pragma]) (scan.place (kinds.length + 1) ⟨pragma, true⟩) := by
  refine ⟨fun line => ?_, (latestStandalone_concat_last kinds (.standalone pragma)).symm⟩
  have fresh : scan.slots.get? (kinds.length + 2) = none := by
    rw [follows.slots, slotAt_eq_none_of_lt (Nat.lt_succ_self _)]
  rw [get?_place_standalone fresh follows.above_standalone, slotAt_concat_standalone,
    follows.slots, follows.slots]

theorem place_trailing (follows : Follows kinds scan) (pragma : Pragma) :
    Follows (kinds ++ [.trailing pragma]) (scan.place (kinds.length + 1) ⟨pragma, false⟩) := by
  refine ⟨fun line => ?_,
    follows.pending.trans (latestStandalone_concat_last kinds (.trailing pragma)).symm⟩
  rw [get?_place_trailing follows.above_trailing, slotAt_concat_trailing, follows.slots,
    follows.slots]

theorem plain (follows : Follows kinds scan) : Follows (kinds ++ [.plain]) scan :=
  ⟨fun line => (follows.slots line).trans (slotAt_concat_plain kinds line).symm,
    follows.pending.trans (latestStandalone_concat_last kinds .plain).symm⟩

/-- The invariant speaks of the slots and of the pending line only. -/
theorem congr {other : Scan} (follows : Follows kinds scan) (slots : other.slots = scan.slots)
    (pending : other.pending = scan.pending) : Follows kinds other :=
  ⟨fun line => by rw [slots, follows.slots], by rw [pending, follows.pending]⟩

/-- **One line keeps the invariant.** -/
theorem feed (follows : Follows kinds scan) (tokens : List (List Char)) (line : List Char) :
    Follows (kinds ++ [lineKind tokens line]) (scan.feed tokens (kinds.length + 1) line) := by
  have placed : Follows (kinds ++ [lineKind tokens line])
      ((annotation? tokens line).elim scan (scan.place (kinds.length + 1))) := by
    rw [lineKind]
    cases annotation? tokens line with
    | none => exact follows.plain
    | some found =>
      obtain ⟨pragma, standalone⟩ := found
      cases standalone with
      | true => exact follows.place_standalone pragma
      | false => exact follows.place_trailing pragma
  rw [feed_eq]
  exact placed.congr rfl rfl

/-- **A run of lines keeps the invariant.** -/
theorem feedFrom (follows : Follows kinds scan) (tokens lines : List (List Char)) :
    Follows (kinds ++ lines.map (lineKind tokens))
      (scan.feedFrom tokens (kinds.length + 1) lines) := by
  induction lines generalizing kinds scan with
  | nil => rwa [List.map_nil, List.append_nil]
  | cons line lines ih =>
    have rest := ih (follows.feed tokens line)
    rw [List.append_assoc, List.length_append, List.length_singleton] at rest
    exact rest

theorem ofLines (tokens lines : List (List Char)) :
    Follows (lines.map (lineKind tokens)) (Scan.ofLines tokens lines) :=
  start.feedFrom tokens lines

end Follows

end Scan

/-! ### The table of a text -/

/-- The kinds of the lines of a text. -/
def kindsOf (tokens : List String) (lines : List (List Char)) : List LineKind :=
  lines.map (lineKind (searched tokens))

theorem forall₂_kindsOf (tokens : List String) (lines : List (List Char)) :
    List.Forall₂ (HasKind tokens) lines (kindsOf tokens lines) := by
  rw [kindsOf, List.forall₂_map_right_iff, List.forall₂_same]
  exact fun line _ => hasKind_lineKind tokens line

/-- The entry of a line is its group, merged. -/
theorem get?_pragmas_ofLines (name : String) (content : List Char) (tokens : List String)
    (lines : List (List Char)) (line : Nat) :
    (Fixture.ofLines name content tokens lines).pragmas.get? line =
      mergeAll (groupOf (kindsOf tokens lines) line) := by
  have follows := Scan.Follows.ofLines (searched tokens) lines
  show (SortedMap.mapValues _ _).get? line = _
  rw [SortedMap.get?_mapValues, follows.slots]
  exact map_pragma_slotAt _ line

/-- **What holds of every pragma that is read, and is kept by merging, holds of every entry.** -/
theorem entry_induction {motive : Pragma → Prop}
    (read : ∀ body pragma, Clause.parse? body = some pragma → motive pragma)
    (extended : ∀ upper lower, motive upper → motive lower → motive (upper.extend lower))
    {name : String} {content : List Char} {tokens : List String} {lines : List (List Char)}
    {line : Nat} {pragma : Pragma}
    (found : (Fixture.ofLines name content tokens lines).pragmas.get? line = some pragma) :
    motive pragma := by
  rw [get?_pragmas_ofLines] at found
  refine mergeAll_induction extended (fun each member => ?_) found
  obtain ⟨kind, fromLine, own⟩ := List.mem_filterMap.mp (mem_of_mem_groupOf member)
  obtain ⟨own', -, rfl⟩ := List.mem_map.mp fromLine
  obtain ⟨body, parsed⟩ := exists_parse?_of_pragma? own
  exact read body each parsed

/-- A table in the closed form that the kinds of the lines give it. -/
structure IsTable (kinds : List LineKind) (table : SortedMap Nat Pragma) : Prop where
  /-- The entry of a line is its group, merged from top to bottom. -/
  entry : ∀ line, table.get? line = mergeAll (groupOf kinds line)
  /-- The run in the group of a line is the longest one that ends right above. -/
  run : ∀ line, IsRun kinds line (runEndingAt kinds line)
  /-- The lines with an entry: trailing lines and those right under a standalone line, unless they
  are standalone themselves. -/
  present : ∀ line, line ∈ table.keys ↔ ¬ (kindAt kinds line).IsStandalone ∧
    ((kindAt kinds line).IsTrailing ∨ (kindAt kinds (line - 1)).IsStandalone)
  /-- The entries in their order hold every pragma of the text once, in the order of the lines. -/
  complete : table.keys.flatMap (groupOf kinds) = kinds.filterMap LineKind.pragma?
  /-- No entry is further down than one line behind the text. -/
  bound : ∀ line ∈ table.keys, 1 ≤ line ∧ line ≤ kinds.length + 1

/-- The keys of a table are the lines with a group, in order. -/
theorem keys_eq_filter {kinds : List LineKind} {table : SortedMap Nat Pragma}
    (filled : ∀ line, line ∈ table.keys ↔ groupOf kinds line ≠ []) :
    table.keys =
      (List.range (kinds.length + 2)).filter fun line => groupOf kinds line ≠ [] := by
  have ascending : table.keys.Pairwise (· < ·) := List.pairwise_map.mpr table.ascending
  have sorted : (List.range (kinds.length + 2)).Pairwise (· < ·) := List.pairwise_lt_range
  refine ascending.eq_of_mem_iff (sorted.filter _) fun line => ?_
  rw [filled, List.mem_filter, List.mem_range, decide_eq_true_eq]
  constructor
  · intro group
    have := inside_of_groupOf_ne_nil group
    exact ⟨by omega, group⟩
  · exact And.right

/-- The entries of a table determine the rest of its closed form. -/
theorem IsTable.of_entry {kinds : List LineKind} {table : SortedMap Nat Pragma}
    (entry : ∀ line, table.get? line = mergeAll (groupOf kinds line)) : IsTable kinds table := by
  have filled : ∀ line, line ∈ table.keys ↔ groupOf kinds line ≠ [] := by
    intro line
    rw [SortedMap.mem_keys_iff, entry, Option.isSome_iff_ne_none, ne_eq, mergeAll_eq_none_iff]
  refine ⟨entry, runEndingAt_isRun kinds, fun line => (filled line).trans groupOf_ne_nil_iff, ?_,
    fun line member => inside_of_groupOf_ne_nil ((filled line).mp member)⟩
  rw [keys_eq_filter filled, flatMap_filter_groupOf, flatMap_groupOf]

/-- **The table of a text in closed form.** -/
theorem Fixture.table_ofText (name content : String) (tokens : List String) :
    ∃ kinds, List.Forall₂ (HasKind tokens) (Text.lines content.toList) kinds ∧
      IsTable kinds (Fixture.ofText name content tokens).pragmas :=
  ⟨kindsOf tokens (Text.lines content.toList), forall₂_kindsOf tokens _,
    .of_entry (get?_pragmas_ofLines name content.toList tokens _)⟩

/-- Three annotations, the first two on lines of their own, end up on one code line. -/
example :
    (Fixture.ofText "f.go" "// [E1]: 1 \"a\"\n// [E2]: 2\ng() // [E3]\n" ["//"]).pragmas.keys = [3] := by
  decide +kernel

end CheckerFixtures
