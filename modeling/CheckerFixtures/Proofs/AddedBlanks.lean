/-
**Blanks at the ends of the lines of a file mean nothing.**

Line feeds cut a text into parts. Whatever blanks are added behind these parts, carriage returns
among them, the expectations and the directive of the fixture stay the same, as long as no comment
token holds a blank: each line differs by blanks at its end only, and a last line of nothing but
blanks adds nothing.

* `forall₂_lines_splitOn`: the lines of a text are its parts, up to blanks at their ends;
* `ofLines_splitOn`: so the parts may be scanned in place of the lines;
* `padded_withReturns`: writing carriage returns in front of line feeds adds blanks to parts;
* `readAlike_of_padded`: what is read from a text does not depend on such blanks.
-/

import CheckerFixtures.Proofs.WrittenLines

namespace CheckerFixtures

/-! ### Texts with blanks added -/

/-- A line with blanks added at its end. -/
def PaddedLine (line other : List Char) : Prop := ∃ more, Blanks more ∧ other = line ++ more

/-- A text with blanks added at the ends of the parts that its line feeds separate. -/
def Padded (text other : List Char) : Prop :=
  List.Forall₂ PaddedLine (text.splitOn '\n') (other.splitOn '\n')

/-- A text with carriage returns in front of those line feeds that are marked, in order. -/
def withReturns : List Bool → List Char → List Char
  | _, [] => []
  | marks, c :: text =>
    if c = '\n' then
      if marks.headD false then '\r' :: '\n' :: withReturns marks.tail text
      else '\n' :: withReturns marks.tail text
    else c :: withReturns marks text

theorem paddedLine_cons (c : Char) {line other : List Char} (padded : PaddedLine line other) :
    PaddedLine (c :: line) (c :: other) := by
  obtain ⟨more, blanks, rfl⟩ := padded
  exact ⟨more, blanks, rfl⟩

theorem splitOn_newline (text : List Char) :
    ('\n' :: text).splitOn '\n' = [] :: text.splitOn '\n' := by
  rw [List.splitOn_cons_eq_if_modifyHead, if_pos (by decide)]

theorem splitOn_of_ne {c : Char} (other : c ≠ '\n') (text : List Char) :
    (c :: text).splitOn '\n' = (text.splitOn '\n').modifyHead (c :: ·) := by
  rw [List.splitOn_cons_eq_if_modifyHead, if_neg (by simpa using other)]

/-- One more character of the first line is kept where blanks are added. -/
theorem Padded.cons {text other : List Char} (padded : Padded text other) {c : Char}
    (ordinary : c ≠ '\n') : Padded (c :: text) (c :: other) := by
  unfold Padded at padded ⊢
  rw [splitOn_of_ne ordinary, splitOn_of_ne ordinary]
  obtain ⟨line, rest, cut⟩ := List.exists_cons_of_ne_nil (List.splitOn_ne_nil '\n' text)
  rw [cut] at padded ⊢
  obtain ⟨line', rest', first, behind, cut'⟩ := List.forall₂_cons_left_iff.mp padded
  rw [cut', List.modifyHead_cons, List.modifyHead_cons]
  exact .cons (paddedLine_cons c first) behind

/-- A line feed with blanks in front of it ends an empty line. -/
theorem Padded.newline {text other : List Char} (padded : Padded text other) {more : List Char}
    (blanks : Blanks more) (single : '\n' ∉ more) :
    Padded ('\n' :: text) (more ++ '\n' :: other) := by
  unfold Padded
  rw [splitOn_newline, List.splitOn_append_cons_self, List.splitOn_eq_singleton single]
  exact .cons ⟨more, blanks, rfl⟩ padded

/-- **Carriage returns in front of line feeds are blanks at the ends of lines.** -/
theorem padded_withReturns (marks : List Bool) (text : List Char) :
    Padded text (withReturns marks text) := by
  induction text generalizing marks with
  | nil =>
    have same : PaddedLine [] [] := ⟨[], blanks_nil, rfl⟩
    rw [withReturns]
    exact List.Forall₂.cons same .nil
  | cons c text ih =>
    rw [withReturns]
    by_cases newline : c = '\n'
    · rw [if_pos newline, newline]
      split
      · have returned : Blanks ['\r'] := by decide
        exact (ih marks.tail).newline returned (by decide)
      · exact (ih marks.tail).newline blanks_nil List.not_mem_nil
    · rw [if_neg newline]
      exact (ih marks).cons newline

/-! ### Scanning the parts of a text -/

namespace Scan

theorem feedFrom_concat (tokens : List (List Char)) (scan : Scan) (number : Nat)
    (lines : List (List Char)) (last : List Char) :
    scan.feedFrom tokens number (lines ++ [last]) =
      (scan.feedFrom tokens number lines).feed tokens (number + lines.length) last := by
  induction lines generalizing scan number with
  | nil => rfl
  | cons line lines ih =>
    rw [List.cons_append, feedFrom, feedFrom, ih, List.length_cons, Nat.add_right_comm,
      Nat.add_assoc]

theorem ofLines_concat (tokens lines : List (List Char)) (last : List Char) :
    ofLines tokens (lines ++ [last]) =
      (ofLines tokens lines).feed tokens (lines.length + 1) last := by
  rw [ofLines, feedFrom_concat, Nat.add_comm]
  rfl

end Scan

section Solid

variable {tokens : List (List Char)} (solid : ∀ token ∈ tokens, IsSolid token)

include solid

theorem unseen_of_solid {more : List Char} (blanks : Blanks more) : Unseen tokens more := by
  refine ⟨blanks, ?_⟩
  intro token listed
  exact ((solid token listed).unseen blanks).apart token List.mem_cons_self

theorem sameUpToBlanks_of_padded {line other : List Char} (padded : PaddedLine line other) :
    SameUpToBlanks tokens line other := by
  obtain ⟨more, blanks, rfl⟩ := padded
  exact ⟨line, [], more, unseen_of_solid solid blanks_nil, unseen_of_solid solid blanks,
    (List.append_nil line).symm, rfl⟩

/-- A line without its carriage return is the line up to a blank. -/
theorem sameUpToBlanks_stripLast (line : List Char) :
    SameUpToBlanks tokens (Text.stripLast '\r' line) line := by
  refine sameUpToBlanks_of_padded solid ?_
  rcases Text.eq_stripLast '\r' line with same | longer
  · exact ⟨[], blanks_nil, by rw [← same, List.append_nil]⟩
  · exact ⟨['\r'], by decide, longer⟩

/-- **The lines of a text are its parts**, up to blanks at their ends. An empty part behind the last
line feed is no line. -/
theorem forall₂_lines_splitOn (text : List Char) :
    List.Forall₂ (SameUpToBlanks tokens) (Text.lines text) (text.splitOn '\n') ∨
      List.Forall₂ (SameUpToBlanks tokens) (Text.lines text ++ [[]]) (text.splitOn '\n') := by
  have same : ∀ line, SameUpToBlanks tokens line line := fun line =>
    sameUpToBlanks_of_padded solid ⟨[], blanks_nil, (List.append_nil line).symm⟩
  obtain ⟨pieces, rfl, cut⟩ : ∃ pieces, pieces.flatten = text ∧ Text.IsCut '\n' pieces :=
    ⟨_, Text.flatten_cutBehind '\n' text, Text.isCut_cutBehind text⟩
  induction cut with
  | nil => exact .inr (.cons (same []) .nil)
  | @unended piece filled single =>
    left
    rw [List.flatten_singleton, Text.lines_unended single filled, List.splitOn_eq_singleton single]
    exact .cons (same piece) .nil
  | @ended line rest single _ ih =>
    rw [List.flatten_cons, List.append_assoc, List.singleton_append, Text.lines_line single,
      List.splitOn_append_cons_self, List.splitOn_eq_singleton single]
    have first := sameUpToBlanks_stripLast solid line
    exact ih.imp (.cons first) (.cons first)

theorem comment?_nil : comment? tokens [] = none := by
  refine List.findSome?_eq_none_iff.mpr ?_
  intro token listed
  cases token with
  | nil => exact absurd rfl (solid [] listed).filled
  | cons c token => rfl

/-- An empty line adds nothing to what was found. -/
theorem feed_empty (scan : Scan) {number : Nat} (fresh : number = 1 → scan.directive = none) :
    (scan.feed tokens number []).slots = scan.slots ∧
      (scan.feed tokens number []).directive = scan.directive := by
  have bare := comment?_nil solid
  have unannotated : annotation? tokens [] = none := by
    unfold annotation?
    rw [bare]
  have undirected : directiveOn? tokens [] = none := by
    unfold directiveOn?
    rw [bare]
  rw [Scan.feed, unannotated, undirected]
  by_cases first : number = 1
  · rw [if_pos first]
    exact ⟨rfl, (fresh first).symm⟩
  · rw [if_neg first]
    exact ⟨rfl, rfl⟩

theorem ofLines_concat_empty (lines : List (List Char)) :
    (Scan.ofLines tokens (lines ++ [[]])).slots = (Scan.ofLines tokens lines).slots ∧
      (Scan.ofLines tokens (lines ++ [[]])).directive = (Scan.ofLines tokens lines).directive := by
  rw [Scan.ofLines_concat]
  refine feed_empty solid _ fun first => ?_
  have none : lines = [] := List.length_eq_zero_iff.mp (Nat.succ.inj first)
  rw [none]
  rfl

/-- **The parts of a text may be scanned in place of its lines.** -/
theorem ofLines_splitOn (text : List Char) :
    (Scan.ofLines tokens (text.splitOn '\n')).slots =
        (Scan.ofLines tokens (Text.lines text)).slots ∧
      (Scan.ofLines tokens (text.splitOn '\n')).directive =
        (Scan.ofLines tokens (Text.lines text)).directive := by
  rcases forall₂_lines_splitOn solid text with same | same
  · rw [Scan.ofLines_congr same]
    exact ⟨rfl, rfl⟩
  · rw [← Scan.ofLines_congr same]
    exact ofLines_concat_empty solid (Text.lines text)

theorem ofLines_of_padded {text other : List Char} (padded : Padded text other) :
    (Scan.ofLines tokens (Text.lines other)).slots =
        (Scan.ofLines tokens (Text.lines text)).slots ∧
      (Scan.ofLines tokens (Text.lines other)).directive =
        (Scan.ofLines tokens (Text.lines text)).directive := by
  have parts : Scan.ofLines tokens (text.splitOn '\n') =
      Scan.ofLines tokens (other.splitOn '\n') :=
    Scan.ofLines_congr (padded.imp fun _ _ => sameUpToBlanks_of_padded solid)
  have before := ofLines_splitOn solid text
  rw [parts, (ofLines_splitOn solid other).1, (ofLines_splitOn solid other).2] at before
  exact before

end Solid

/-! ### Whole files -/

namespace Fixture

/-- Two fixtures with the same expectations, that check the same codes. -/
structure ReadAlike (first second : Fixture) : Prop where
  pragmas : first.pragmas = second.pragmas
  checkMode : first.checkMode = second.checkMode
  issueCodes : first.issueCodes = second.issueCodes

theorem isSolid_searched {tokens : List String}
    (visible : ∀ token ∈ tokens, ∀ c ∈ token.toList, Text.isBlank c = false) :
    ∀ token ∈ searched tokens, IsSolid token := by
  intro token listed
  obtain ⟨original, usable, rfl⟩ := List.mem_map.mp listed
  obtain ⟨member, filled⟩ := List.mem_filter.mp usable
  refine ⟨?_, visible original member⟩
  intro empty
  rw [String.toList_eq_nil_iff] at empty
  simp [empty] at filled

theorem readAlike_ofText {tokens : List String}
    (visible : ∀ token ∈ tokens, ∀ c ∈ token.toList, Text.isBlank c = false) (name : String)
    {text other : String} (padded : Padded text.toList other.toList) :
    ReadAlike (ofText name other tokens) (ofText name text tokens) := by
  obtain ⟨slots, directive⟩ := ofLines_of_padded (isSolid_searched visible) padded
  have pragmas : (ofText name other tokens).pragmas = (ofText name text tokens).pragmas := by
    unfold ofText ofLines
    dsimp only
    rw [slots]
  have directive' : (ofText name other tokens).directive = (ofText name text tokens).directive :=
    directive
  refine ⟨pragmas, ?_, ?_⟩
  · rw [checkMode, directive', ← checkMode]
  · rw [issueCodes, directive', ← issueCodes]

/-- **Blanks at the ends of lines mean nothing**, in a whole file or behind one comment: in
particular any line feeds may have carriage returns in front of them. -/
theorem readAlike_of_padded {tokens : List String}
    (visible : ∀ token ∈ tokens, ∀ c ∈ token.toList, Text.isBlank c = false) (name : String) :
    (∀ text other : String, Padded text.toList other.toList →
      ReadAlike (ofText name other tokens) (ofText name text tokens)) ∧
    (∀ (marks : List Bool) (text : String),
      ReadAlike (ofText name (String.ofList (withReturns marks text.toList)) tokens)
        (ofText name text tokens)) ∧
    (∀ body more, Blanks more → Clause.parse? (body ++ more) = Clause.parse? body) := by
  refine ⟨fun text other padded => readAlike_ofText visible name padded, ?_, ?_⟩
  · intro marks text
    refine readAlike_ofText visible name ?_
    rw [String.toList_ofList]
    exact padded_withReturns marks text.toList
  · intro body more blanks
    exact Clause.parse?_append blanks body

/-- Blanks behind a backslash in a message without its quote, a carriage return, and a last line of
one blank. -/
theorem readAlike_of_padded_openMessage :
    (∀ token ∈ ["//"], ∀ c ∈ token.toList, Text.isBlank c = false) ∧
      Padded "// [A]: 2, \"m\\\nx() // [B]\n".toList
        "// [A]: 2, \"m\\ \t\nx() // [B]\r\n\u3000".toList ∧
      ReadAlike (ofText "a.go" "// [A]: 2, \"m\\ \t\nx() // [B]\r\n\u3000" ["//"])
        (ofText "a.go" "// [A]: 2, \"m\\\nx() // [B]\n" ["//"]) := by
  have visible : ∀ token ∈ ["//"], ∀ c ∈ token.toList, Text.isBlank c = false := by
    intro token member c inside
    rw [List.mem_singleton.mp member] at inside
    rcases List.mem_pair.mp (inside : c ∈ ['/', '/']) with rfl | rfl <;> rfl
  have padded : Padded "// [A]: 2, \"m\\\nx() // [B]\n".toList
      "// [A]: 2, \"m\\ \t\nx() // [B]\r\n\u3000".toList := by
    refine List.Forall₂.cons ⟨[' ', '\t'], by decide, rfl⟩ ?_
    refine List.Forall₂.cons ⟨['\r'], by decide, rfl⟩ ?_
    exact List.Forall₂.cons ⟨['\u3000'], by decide, rfl⟩ .nil
  exact ⟨visible, padded, (readAlike_of_padded visible "a.go").1 _ _ padded⟩

end Fixture

end CheckerFixtures
