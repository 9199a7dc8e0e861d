/-
**The states of the pass.**

Of the slots that the pass holds after some lines, each was written by its own line or by the
standalone line right above it, and only a standalone last line leaves one behind itself. So the
tests that guard the folding of a slot always come out the same way: a standalone line folds in
whatever waits for it, and a trailing line folds in nothing. A pass that makes no note of pending
lines and of comment lines holds the same slots.

* `origin_slotAt`, `isSome_slotAt_behind`: which line wrote a slot, and when one is waiting;
* `Scan.Follows.isSettled`: the state after some lines;
* `SlotPass.feed_eq`, `SlotPass.ofLines_eq`: one line, and all lines, of the simpler pass;
* `Scan.ofLines_isSettled`: both together.
-/

import CheckerFixtures.Proofs.Table

namespace CheckerFixtures

/-! ### Which line wrote a slot -/

/-- A slot was written by its own line, or by the standalone line right above it. -/
theorem origin_slotAt {kinds : List LineKind} {line : Nat} {slot : Slot}
    (there : slotAt kinds line = some slot) :
    slot.origin = if slot.standalone then line - 1 else line := by
  unfold slotAt at there
  obtain ⟨pragma, -, rfl⟩ := Option.map_eq_some_iff.mp there
  cases kindAt kinds line <;> rfl

/-- Every slot is for a line of the text or for the one right behind it. -/
theorem inside_of_slotAt {kinds : List LineKind} {line : Nat} {slot : Slot}
    (there : slotAt kinds line = some slot) : 1 ≤ line ∧ line ≤ kinds.length + 1 := by
  refine inside_of_groupOf_ne_nil fun nothing => ?_
  rw [slotAt_of_groupOf_eq_nil nothing] at there
  cases there

/-- A slot waits behind the last line exactly if that line is standalone. -/
theorem isSome_slotAt_behind (kinds : List LineKind) :
    (slotAt kinds (kinds.length + 1)).isSome = true ↔
      (kindAt kinds kinds.length).IsStandalone := by
  rw [slotAt, Option.isSome_map, Option.isSome_iff_ne_none, ne_eq, mergeAll_eq_none_iff,
    groupOf_length_succ, runEndingAt_eq_nil_iff, not_not]

/-- The line behind the last one is not standalone. -/
theorem latestStandalone_behind (kinds : List LineKind) :
    latestStandalone kinds (kinds.length + 1) = latestStandalone kinds kinds.length := by
  rw [latestStandalone, kindAt_of_lt (Nat.lt_succ_self _)]

/-- The last of some lines holds a standalone pragma. -/
def EndsStandalone (tokens : List String) (lines : List (List Char)) : Prop :=
  ∃ line pragma, lines.getLast? = some line ∧ HasKind tokens line (.standalone pragma)

theorem endsStandalone_iff {tokens : List String} {lines : List (List Char)} :
    EndsStandalone tokens lines ↔
      (kindAt (kindsOf tokens lines) (kindsOf tokens lines).length).IsStandalone := by
  induction lines using List.reverseRecOn with
  | nil =>
    constructor
    · rintro ⟨_, _, ⟨⟩, _⟩
    · rintro ⟨_, ⟨⟩⟩
  | append_singleton lines line _ =>
    have kinds : kindsOf tokens (lines ++ [line]) =
        kindsOf tokens lines ++ [lineKind (searched tokens) line] := List.map_append
    unfold EndsStandalone
    rw [kinds, List.length_append, List.length_singleton, kindAt_concat, if_pos rfl,
      List.getLast?_concat]
    constructor
    · rintro ⟨_, pragma, ⟨⟩, kind⟩
      exact ⟨pragma, hasKind_iff.mp kind⟩
    · rintro ⟨pragma, kind⟩
      exact ⟨line, pragma, rfl, hasKind_iff.mpr kind⟩

/-! ### The state after some lines -/

namespace Scan

/-- What holds of the pass once some lines were taken into account, and of the next line. -/
structure IsSettled (tokens : List String) (lines : List (List Char)) (scan : Scan) : Prop where
  /-- Slots are for the lines that were read and for the next one. -/
  inside : ∀ line slot, scan.slots.get? line = some slot → 1 ≤ line ∧ line ≤ lines.length + 1
  /-- A slot of a standalone line is for the line right behind that. -/
  standalone : ∀ line slot, scan.slots.get? line = some slot → slot.standalone = true →
    slot.origin = line - 1
  /-- A slot of a trailing line is for that line. -/
  trailing : ∀ line slot, scan.slots.get? line = some slot → slot.standalone = false →
    slot.origin = line
  /-- A slot waits for the next line exactly if the last line is standalone. -/
  waits : (scan.slots.get? (lines.length + 1)).isSome = true ↔ EndsStandalone tokens lines
  /-- It was written by the last line, which is the pending one. -/
  waiting : ∀ slot, scan.slots.get? (lines.length + 1) = some slot →
    slot.standalone = true ∧ slot.origin = lines.length ∧ scan.pending = some slot.origin
  /-- A standalone pragma on the next line finds nothing at its target. -/
  joins : ∀ pragma, scan.joined? (lines.length + 1) ⟨pragma, true⟩ = none
  /-- It folds in a slot exactly if the last line is standalone. -/
  folds : ∀ pragma, (scan.folded? (lines.length + 1) ⟨pragma, true⟩).isSome = true ↔
    EndsStandalone tokens lines
  /-- A trailing pragma on the next line folds in nothing. -/
  keeps : ∀ pragma, scan.folded? (lines.length + 1) ⟨pragma, false⟩ = none

namespace Follows

variable {kinds : List LineKind} {scan : Scan}

/-- A standalone pragma on the next line finds nothing at its target. -/
theorem joined?_standalone (follows : Follows kinds scan) (pragma : Pragma) :
    scan.joined? (kinds.length + 1) ⟨pragma, true⟩ = none := by
  show scan.slots.get? (kinds.length + 2) = none
  rw [follows.slots, slotAt_eq_none_of_lt (Nat.lt_succ_self _)]

/-- What waits for the next line was written by the last one, which is pending. -/
theorem waiting (follows : Follows kinds scan) {slot : Slot}
    (there : scan.slots.get? (kinds.length + 1) = some slot) :
    slot.standalone = true ∧ slot.origin = kinds.length ∧ scan.pending = some slot.origin := by
  have standalone := (follows.above_standalone slot there).1
  rw [follows.slots] at there
  refine ⟨standalone, ?_, ?_⟩
  · rw [origin_slotAt there, if_pos standalone, Nat.add_sub_cancel]
  · rw [follows.pending, ← latestStandalone_behind, latestStandalone_of_slotAt there standalone]

/-- **The state after some lines** is settled, since the slots are those of the closed form. -/
theorem isSettled {tokens : List String} {lines : List (List Char)}
    (follows : Follows (kindsOf tokens lines) scan) : IsSettled tokens lines scan := by
  have length : (kindsOf tokens lines).length = lines.length := List.length_map _
  have waits : (scan.slots.get? (lines.length + 1)).isSome = true ↔
      EndsStandalone tokens lines := by
    rw [follows.slots, ← length, isSome_slotAt_behind, endsStandalone_iff]
  rw [← length] at waits
  constructor
  · intro line slot there
    rw [follows.slots] at there
    exact length ▸ inside_of_slotAt there
  · intro line slot there standalone
    rw [follows.slots] at there
    rw [origin_slotAt there, if_pos standalone]
  · intro line slot there trailing
    rw [follows.slots] at there
    rw [origin_slotAt there, trailing]
    rfl
  all_goals rw [← length]
  · exact waits
  · exact fun slot => follows.waiting
  · exact follows.joined?_standalone
  · intro pragma
    rw [folded?_standalone follows.above_standalone, waits]
  · exact fun pragma => folded?_trailing follows.above_trailing

end Follows

end Scan

/-! ### A simpler pass

It holds nothing but the slots, and only a standalone line takes along what is right above its
target. -/

namespace SlotPass

section Steps

variable (tokens : List (List Char)) (slots : SortedMap Nat Slot) (number : Nat)

/-- The slot that an annotation folds in: a standalone line takes along what another one wrote right
above the target. -/
def folded? (found : Annotation) : Option Slot :=
  if found.standalone then
    ((slots.erase (Scan.targetOf number found)).get? (Scan.targetOf number found - 1)).filter
      Slot.standalone
  else none

/-- Attaches the annotation of a line to its code line. -/
def place (found : Annotation) : SortedMap Nat Slot :=
  Scan.putSlot slots number found (slots.get? (Scan.targetOf number found))
    (folded? slots number found)

/-- Takes one line into account. -/
def feed (line : List Char) : SortedMap Nat Slot :=
  (annotation? tokens line).elim slots (place slots number)

end Steps

/-- Takes lines into account that are numbered from a given one. -/
def feedFrom (tokens : List (List Char)) (slots : SortedMap Nat Slot) (number : Nat) :
    List (List Char) → SortedMap Nat Slot
  | [] => slots
  | line :: lines => feedFrom tokens (feed tokens slots number line) (number + 1) lines

/-- The slots after all lines of a text. -/
def ofLines (tokens lines : List (List Char)) : SortedMap Nat Slot := feedFrom tokens ∅ 1 lines

variable {kinds : List LineKind} {scan : Scan}

/-- The next annotation folds in the same slot in both passes. -/
theorem folded?_eq (follows : Scan.Follows kinds scan) (found : Annotation) :
    folded? scan.slots (kinds.length + 1) found = scan.folded? (kinds.length + 1) found := by
  obtain ⟨pragma, standalone⟩ := found
  cases standalone with
  | true =>
    rw [Scan.folded?_standalone follows.above_standalone]
    show ((scan.slots.erase (kinds.length + 2)).get? (kinds.length + 1)).filter Slot.standalone = _
    rw [SortedMap.get?_erase, if_neg (Nat.ne_of_lt (Nat.lt_succ_self _))]
    cases here : scan.slots.get? (kinds.length + 1) with
    | none => rfl
    | some slot => exact Option.filter_some_pos (follows.above_standalone slot here).1
  | false =>
    rw [Scan.folded?_trailing follows.above_trailing]
    rfl

/-- So it is placed alike, -/
theorem place_eq (follows : Scan.Follows kinds scan) (found : Annotation) :
    place scan.slots (kinds.length + 1) found =
      (scan.place (kinds.length + 1) found).slots := by
  rw [place, folded?_eq follows, Scan.place_eq]
  rfl

/-- and the next line is taken into account alike. -/
theorem feed_eq (follows : Scan.Follows kinds scan) (tokens : List (List Char))
    (line : List Char) :
    feed tokens scan.slots (kinds.length + 1) line =
      (scan.feed tokens (kinds.length + 1) line).slots := by
  rw [feed, Scan.feed_eq]
  cases annotation? tokens line with
  | none => rfl
  | some found => exact place_eq follows found

theorem feedFrom_eq (follows : Scan.Follows kinds scan) (tokens lines : List (List Char)) :
    feedFrom tokens scan.slots (kinds.length + 1) lines =
      (scan.feedFrom tokens (kinds.length + 1) lines).slots := by
  induction lines generalizing kinds scan with
  | nil => rfl
  | cons line lines ih =>
    have rest := ih (follows.feed tokens line)
    rw [List.length_append, List.length_singleton] at rest
    rw [feedFrom, feed_eq follows, rest, Scan.feedFrom]

/-- **The simpler pass holds the same slots.** -/
theorem ofLines_eq (tokens lines : List (List Char)) :
    ofLines tokens lines = (Scan.ofLines tokens lines).slots :=
  feedFrom_eq Scan.Follows.start tokens lines

end SlotPass

/-- **After any lines the pass is settled**, and a pass that neither remembers the pending line nor
asks whether the previous line was a comment line holds the same slots. So every fixture has the
table that the simpler pass gives it. -/
theorem Scan.ofLines_isSettled (tokens : List String) (lines : List (List Char)) :
    IsSettled tokens lines (Scan.ofLines (searched tokens) lines) ∧
      (Scan.ofLines (searched tokens) lines).slots = SlotPass.ofLines (searched tokens) lines ∧
      ∀ name content, (Fixture.ofLines name content tokens lines).pragmas =
        (SlotPass.ofLines (searched tokens) lines).mapValues fun _ slot => slot.pragma := by
  have same := SlotPass.ofLines_eq (searched tokens) lines
  refine ⟨(Follows.ofLines (searched tokens) lines).isSettled, same.symm, fun name content => ?_⟩
  rw [same]
  rfl

end CheckerFixtures
