/-
**Blanks at the end of a line mean nothing.**

A line may be followed by blanks of which none occurs in a comment token. Its comment is then the
same up to those blanks, so its annotation, its directive and its being a comment line are the same,
and so is the whole pass.

* `comment?_append`: the comment of such a line;
* `annotation?_append`, `directiveOn?_append`, `isCommentLine_append`: what the pass looks at;
* `Scan.ofLines_congr`: the pass over lines that differ in such blanks only.
-/

import CheckerFixtures.Fixture.Scan
import CheckerFixtures.Proofs.TrailingBlanks
import Mathlib.Data.List.Forall2

namespace CheckerFixtures

/-! ### Texts -/

namespace Text

theorem trim_append_blanks {more : List Char} (blanks : Blanks more) (text : List Char) :
    trim (text ++ more) = trim text := by
  unfold trim trimStart
  rw [List.dropWhile_append]
  by_cases empty : (text.dropWhile isBlank).isEmpty = true
  · rw [if_pos empty, List.isEmpty_iff.mp empty, (dropWhile_eq_nil_iff _ more).mpr blanks]
  · rw [if_neg empty, trimEnd_append_blanks _ more blanks]

section Apart

variable {more : List Char}

theorem stripLead?_append {lead : List Char} (apart : ∀ c ∈ more, c ∉ lead) (text : List Char) :
    stripLead? lead (text ++ more) = (stripLead? lead text).map (· ++ more) := by
  induction lead generalizing text with
  | nil =>
    unfold stripLead?
    rfl
  | cons d lead ih =>
    have later : ∀ c ∈ more, c ∉ lead := fun c member inside =>
      apart c member (List.mem_cons_of_mem d inside)
    cases text with
    | nil =>
      cases more with
      | nil => rfl
      | cons c more =>
        have other : d ≠ c := by
          rintro rfl
          exact apart _ List.mem_cons_self List.mem_cons_self
        show stripLead? (d :: lead) (c :: more) = none
        rw [stripLead?, if_neg other]
    | cons c text =>
      rw [List.cons_append, stripLead?, stripLead?]
      by_cases same : d = c
      · rw [if_pos same, if_pos same, ih later]
      · rw [if_neg same, if_neg same]
        rfl

theorem after?_cons (needle text : List Char) (c : Char) :
    after? needle (c :: text) = (stripLead? needle (c :: text)).or (after? needle text) := by
  rw [after?]
  cases stripLead? needle (c :: text) <;> rfl

/-- A search does not find what lies apart. -/
theorem after?_append {needle : List Char} (apart : ∀ c ∈ more, c ∉ needle) (text : List Char) :
    after? needle (text ++ more) = (after? needle text).map (· ++ more) := by
  induction text with
  | nil =>
    cases needle with
    | nil => cases more <;> rfl
    | cons d needle =>
      show after? (d :: needle) more = none
      induction more with
      | nil => rfl
      | cons c more ih =>
        have here := stripLead?_append apart []
        have later := ih fun e member => apart e (List.mem_cons_of_mem c member)
        rw [List.nil_append] at here
        rw [after?_cons, here, later]
        rfl
  | cons c text ih =>
    have here := stripLead?_append apart (c :: text)
    rw [List.cons_append] at here ⊢
    rw [after?_cons, after?_cons, here, ih]
    cases stripLead? needle (c :: text) <;> rfl

end Apart

end Text

theorem Directive.parse?_append {more : List Char} (blanks : Blanks more) (body : List Char) :
    Directive.parse? (body ++ more) = Directive.parse? body := by
  unfold Directive.parse?
  rw [Text.trim_append_blanks blanks]

/-! ### Lines -/

/-- Blanks that occur in no token. -/
structure Unseen (tokens : List (List Char)) (more : List Char) : Prop where
  blanks : Blanks more
  apart : ∀ token ∈ tokens, ∀ c ∈ more, c ∉ token

section Lines

variable {tokens : List (List Char)} {more : List Char} (unseen : Unseen tokens more)
  (line : List Char)

include unseen

theorem comment?_append :
    comment? tokens (line ++ more) =
      (comment? tokens line).map fun comment => (comment.1, comment.2 ++ more) := by
  obtain ⟨blanks, apart⟩ := unseen
  unfold comment?
  induction tokens with
  | nil => rfl
  | cons token tokens ih =>
    have here := Text.after?_append (apart token List.mem_cons_self) line
    have later := ih fun other member => apart other (List.mem_cons_of_mem token member)
    rw [List.findSome?_cons, List.findSome?_cons, here, later]
    cases Text.after? token line <;> rfl

theorem annotation?_append : annotation? tokens (line ++ more) = annotation? tokens line := by
  unfold annotation?
  rw [comment?_append unseen]
  cases comment? tokens line with
  | none => rfl
  | some comment =>
    simp only [Option.map_some, Clause.parse?_append unseen.blanks,
      Text.trim_append_blanks unseen.blanks]

theorem directiveOn?_append : directiveOn? tokens (line ++ more) = directiveOn? tokens line := by
  unfold directiveOn?
  rw [comment?_append unseen]
  cases comment? tokens line with
  | none => rfl
  | some comment => exact Directive.parse?_append unseen.blanks comment.2

theorem isCommentLine_append : isCommentLine tokens (line ++ more) = isCommentLine tokens line := by
  unfold isCommentLine
  rw [Text.trim_append_blanks unseen.blanks]

theorem Scan.feed_append (scan : Scan) (number : Nat) :
    scan.feed tokens number (line ++ more) = scan.feed tokens number line := by
  unfold Scan.feed
  rw [annotation?_append unseen, directiveOn?_append unseen, isCommentLine_append unseen]

end Lines

/-! ### The pass -/

/-- Two lines that are the same up to unseen blanks at their ends. -/
def SameUpToBlanks (tokens : List (List Char)) (line other : List Char) : Prop :=
  ∃ core first second, Unseen tokens first ∧ Unseen tokens second ∧
    line = core ++ first ∧ other = core ++ second

theorem Scan.feedFrom_congr {tokens : List (List Char)} {lines others : List (List Char)}
    (same : List.Forall₂ (SameUpToBlanks tokens) lines others) (scan : Scan) (number : Nat) :
    scan.feedFrom tokens number lines = scan.feedFrom tokens number others := by
  induction same generalizing scan number with
  | nil => rfl
  | cons line _ ih =>
    obtain ⟨core, first, second, firstUnseen, secondUnseen, rfl, rfl⟩ := line
    rw [feedFrom, feedFrom, feed_append firstUnseen, feed_append secondUnseen, ih]

/-- **Lines that differ in blanks at their ends** are scanned alike. -/
theorem Scan.ofLines_congr {tokens : List (List Char)} {lines others : List (List Char)}
    (same : List.Forall₂ (SameUpToBlanks tokens) lines others) :
    Scan.ofLines tokens lines = Scan.ofLines tokens others :=
  feedFrom_congr same start 1

end CheckerFixtures
