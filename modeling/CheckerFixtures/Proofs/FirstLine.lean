/-
**Which codes a fixture checks.**

A directive is a comment on the first line: a word, and a list of codes with commas between them.
Blanks around the whole and around an entry do not count, nor do blank entries, but some entry must
be left. The word says whether only the listed codes are checked or all others. Without a directive
on the first line all codes are checked, whatever stands on later lines.

* `trim_eq_iff`: trimming without the functions that trim;
* `parse?_eq_some_iff`: which comments are directives, and what they say;
* `directive_ofText_iff`: the directive of a fixture is the one on its first line;
* `checks_by_firstLine`: which codes are checked;
* `checkMode_of_emptyToken`: an empty token starts no comment, though every line holds it.
-/

import CheckerFixtures.Proofs.Segments
import CheckerFixtures.Proofs.WrittenLines

namespace CheckerFixtures

/-! ### Trimming -/

namespace Text

/-- What is left of a text without the blanks at both ends. -/
structure IsTrim (core text : List Char) : Prop where
  cut : ∃ before after, Blanks before ∧ Blanks after ∧ text = before ++ (core ++ after)
  first : ∀ c, core.head? = some c → isBlank c = false
  last : ∀ c, core.getLast? = some c → isBlank c = false

theorem trimEnd_of_last {text : List Char}
    (last : ∀ c, text.getLast? = some c → isBlank c = false) : trimEnd text = text := by
  have kept : text.reverse.dropWhile isBlank = text.reverse := by
    refine Clause.skipBlanks_of_head ?_
    intro c first
    exact last c (by rwa [List.head?_reverse] at first)
  rw [trimEnd, kept, List.reverse_reverse]

theorem isTrim_trim (text : List Char) : IsTrim (trim text) text := by
  have front : text.takeWhile isBlank ++ trimStart text = text := List.takeWhile_append_dropWhile
  have back : trim text ++ ((trimStart text).reverse.takeWhile isBlank).reverse =
      trimStart text := by
    rw [trim, trimEnd, ← List.reverse_append, List.takeWhile_append_dropWhile,
      List.reverse_reverse]
  refine ⟨⟨text.takeWhile isBlank, ((trimStart text).reverse.takeWhile isBlank).reverse,
    fun _ => List.mem_takeWhile_imp, ?_, ?_⟩, ?_, ?_⟩
  · intro c member
    exact List.mem_takeWhile_imp (List.mem_reverse.mp member)
  · rw [back, front]
  · intro c first
    have head := List.head?_dropWhile_not isBlank text
    have same : (trimStart text).head? = some c := by
      rw [← back, List.head?_append, first, Option.some_or]
    rw [trimStart] at same
    rwa [same] at head
  · intro c last
    have head := List.head?_dropWhile_not isBlank (trimStart text).reverse
    rw [trim, trimEnd, List.getLast?_reverse] at last
    rwa [last] at head

/-- **A text is trimmed by leaving out the blanks at its ends.** -/
theorem trim_eq_iff {core text : List Char} : trim text = core ↔ IsTrim core text := by
  constructor
  · rintro rfl
    exact isTrim_trim text
  · rintro ⟨⟨before, after, blanks, blanks', rfl⟩, first, last⟩
    rw [← List.append_assoc, trim_append_blanks blanks', trim, trimStart_visible blanks first,
      trimEnd_of_last last]

end Text

/-! ### Directives -/

namespace Directive

open Text (IsTrim)

/-- The codes in the parts of a list: a blank part holds none, and blanks around a code do not
belong to it. -/
inductive Codes : List (List Char) → List String → Prop
  | nil : Codes [] []
  | blank {part : List Char} {parts : List (List Char)} {codes : List String} :
      Blanks part → Codes parts codes → Codes (part :: parts) codes
  | code {part code : List Char} {parts : List (List Char)} {codes : List String} :
      code ≠ [] → IsTrim code part → Codes parts codes →
        Codes (part :: parts) (String.ofList code :: codes)

/-- A text that lists codes, with commas between them. -/
structure Lists (text : List Char) (codes : List String) : Prop where
  parts : ∃ parts, (∀ part ∈ parts, ',' ∉ part) ∧ text = List.intercalate [','] parts ∧
    Codes parts codes
  some : codes ≠ []

/-- A comment that says which codes are checked. -/
inductive Directs (body : List Char) : CheckMode → List String → Prop
  | only {list : List Char} {codes : List String} :
      IsTrim ("scatr-check:".toList ++ list) body → Lists list codes →
        Directs body .onlyListed codes
  | allBut {list : List Char} {codes : List String} :
      IsTrim ("scatr-ignore:".toList ++ list) body → Lists list codes →
        Directs body .allButListed codes

/-- The codes in some parts are what the parts trim to, as far as something is left. -/
theorem codes_iff {parts : List (List Char)} {codes : List String} :
    Codes parts codes ↔
      ((parts.map Text.trim).filter (· ≠ [])).map String.ofList = codes := by
  constructor
  · intro holds
    induction holds with
    | nil => rfl
    | @blank part parts codes blanks _ ih =>
      rw [List.map_cons, (Text.trim_eq_nil_iff part).mpr blanks, List.filter_cons_of_neg (by simp)]
      exact ih
    | @code part code parts codes filled trimmed _ ih =>
      rw [List.map_cons, Text.trim_eq_iff.mpr trimmed,
        List.filter_cons_of_pos (by simpa using filled), List.map_cons, ih]
  · rintro rfl
    induction parts with
    | nil => exact .nil
    | cons part parts ih =>
      by_cases blank : Text.trim part = []
      · rw [List.map_cons, blank, List.filter_cons_of_neg (by simp)]
        exact .blank ((Text.trim_eq_nil_iff part).mp blank) ih
      · rw [List.map_cons, List.filter_cons_of_pos (by simpa using blank), List.map_cons]
        exact .code blank (Text.isTrim_trim part) ih

theorem lists_iff {text : List Char} {codes : List String} :
    Lists text codes ↔ entries text = codes ∧ codes ≠ [] := by
  constructor
  · rintro ⟨⟨parts, free, rfl, holds⟩, some⟩
    have filled : parts ≠ [] := by
      rintro rfl
      exact some (codes_iff.mp holds).symm
    refine ⟨?_, some⟩
    rw [entries, List.splitOn_intercalate ',' free filled]
    exact codes_iff.mp holds
  · rintro ⟨rfl, some⟩
    exact ⟨⟨text.splitOn ',', fun _ => Text.notMem_of_mem_splitOn,
      (List.intercalate_splitOn ',').symm, codes_iff.mpr rfl⟩, some⟩

theorem ofList?_eq_some_iff {mode other : CheckMode} {text : List Char} {codes : List String} :
    ofList? mode text = some ⟨other, codes⟩ ↔ mode = other ∧ Lists text codes := by
  rw [lists_iff, ofList?]
  by_cases none : entries text = []
  · rw [if_pos none]
    refine iff_of_false (by simp) ?_
    rintro ⟨-, rfl, some⟩
    exact some none
  · rw [if_neg none, Option.some.injEq, Directive.mk.injEq]
    constructor
    · rintro ⟨same, rfl⟩
      exact ⟨same, rfl, none⟩
    · rintro ⟨same, listed, -⟩
      exact ⟨same, listed⟩

theorem stripLead?_checkWord (list : List Char) :
    Text.stripLead? checkWord ("scatr-check:".toList ++ list) = some list :=
  Text.stripLead?_eq_some_iff.mpr rfl

theorem stripLead?_ignoreWord (list : List Char) :
    Text.stripLead? ignoreWord ("scatr-ignore:".toList ++ list) = some list :=
  Text.stripLead?_eq_some_iff.mpr rfl

/-- No text begins with both words. -/
theorem stripLead?_checkWord_of_ignoreWord (list : List Char) :
    Text.stripLead? checkWord ("scatr-ignore:".toList ++ list) = none := rfl

/-- **Which comments are directives**, and what they say. -/
theorem parse?_eq_some_iff {body : List Char} {mode : CheckMode} {codes : List String} :
    parse? body = some ⟨mode, codes⟩ ↔ Directs body mode codes := by
  rw [parse?]
  constructor
  · intro read
    split at read
    · rename_i list stripped
      obtain ⟨rfl, listed⟩ := ofList?_eq_some_iff.mp read
      have whole := Text.stripLead?_eq_some_iff.mp stripped
      exact .only (Text.trim_eq_iff.mp whole) listed
    · obtain ⟨list, stripped, read⟩ := Option.bind_eq_some_iff.mp read
      obtain ⟨rfl, listed⟩ := ofList?_eq_some_iff.mp read
      have whole := Text.stripLead?_eq_some_iff.mp stripped
      exact .allBut (Text.trim_eq_iff.mp whole) listed
  · intro directs
    cases directs with
    | only trimmed listed =>
      rw [Text.trim_eq_iff.mpr trimmed, stripLead?_checkWord]
      exact ofList?_eq_some_iff.mpr ⟨rfl, listed⟩
    | allBut trimmed listed =>
      rw [Text.trim_eq_iff.mpr trimmed, stripLead?_checkWord_of_ignoreWord, stripLead?_ignoreWord]
      exact ofList?_eq_some_iff.mpr ⟨rfl, listed⟩

end Directive

/-! ### The first line -/

theorem Scan.directive_feed (tokens : List (List Char)) (scan : Scan) (number : Nat)
    (line : List Char) :
    (scan.feed tokens number line).directive =
      if number = 1 then directiveOn? tokens line else scan.directive := by
  unfold Scan.feed
  by_cases first : number = 1
  · rw [if_pos first, if_pos first]
    cases annotation? tokens line <;> rfl
  · rw [if_neg first, if_neg first]
    cases annotation? tokens line <;> rfl

/-- Behind the first line no line changes the directive. -/
theorem Scan.directive_feedFrom (tokens lines : List (List Char)) (scan : Scan) {number : Nat}
    (later : number ≠ 1) (positive : 1 ≤ number) :
    (scan.feedFrom tokens number lines).directive = scan.directive := by
  induction lines generalizing scan number with
  | nil => rfl
  | cons line lines ih =>
    rw [feedFrom, ih _ (by omega) (by omega), directive_feed, if_neg later]

theorem Scan.directive_ofLines (tokens lines : List (List Char)) :
    (Scan.ofLines tokens lines).directive = lines.head?.bind (directiveOn? tokens) := by
  cases lines with
  | nil => rfl
  | cons line lines =>
    rw [ofLines, feedFrom, directive_feedFrom tokens lines _ (by decide) (by decide),
      directive_feed, if_pos rfl]
    rfl

/-- The first line of a text holds a comment that says which codes are checked. -/
def FirstLineDirects (tokens : List String) (text : String) (mode : CheckMode)
    (codes : List String) : Prop :=
  ∃ line token body, (Text.lines text.toList).head? = some line ∧
    HoldsComment tokens line token body ∧ Directive.Directs body mode codes

theorem directiveOn?_eq_some_iff {tokens : List String} {line : List Char} {mode : CheckMode}
    {codes : List String} :
    directiveOn? (searched tokens) line = some ⟨mode, codes⟩ ↔
      ∃ token body, HoldsComment tokens line token body ∧ Directive.Directs body mode codes := by
  unfold directiveOn?
  constructor
  · intro read
    split at read
    · cases read
    · rename_i characters body found
      obtain ⟨token, rfl⟩ := exists_token_of_comment? found
      exact ⟨token, body, comment?_eq_some_iff.mp found, Directive.parse?_eq_some_iff.mp read⟩
  · rintro ⟨token, body, comment, directs⟩
    rw [comment?_eq_some_iff.mpr comment]
    exact Directive.parse?_eq_some_iff.mpr directs

namespace Fixture

theorem directive_ofText (name text : String) (tokens : List String) :
    (ofText name text tokens).directive =
      (Text.lines text.toList).head?.bind (directiveOn? (searched tokens)) :=
  Scan.directive_ofLines (searched tokens) (Text.lines text.toList)

/-- **The directive of a fixture is the one on its first line.** -/
theorem directive_ofText_iff {name text : String} {tokens : List String} {mode : CheckMode}
    {codes : List String} :
    (ofText name text tokens).directive = some ⟨mode, codes⟩ ↔
      FirstLineDirects tokens text mode codes := by
  rw [directive_ofText, Option.bind_eq_some_iff]
  constructor
  · rintro ⟨line, first, read⟩
    obtain ⟨token, body, comment, directs⟩ := directiveOn?_eq_some_iff.mp read
    exact ⟨line, token, body, first, comment, directs⟩
  · rintro ⟨line, token, body, first, comment, directs⟩
    exact ⟨line, first, directiveOn?_eq_some_iff.mpr ⟨token, body, comment, directs⟩⟩

/-- Two fixtures that check the same codes. -/
structure ChecksAlike (first second : Fixture) : Prop where
  checkMode : first.checkMode = second.checkMode
  issueCodes : first.issueCodes = second.issueCodes
  checks : ∀ code, first.checks code = second.checks code

theorem checksAlike_of_directive {first second : Fixture}
    (same : first.directive = second.directive) : ChecksAlike first second := by
  have mode : first.checkMode = second.checkMode := by rw [checkMode, same, ← checkMode]
  have codes : first.issueCodes = second.issueCodes := by rw [issueCodes, same, ← issueCodes]
  refine ⟨mode, codes, ?_⟩
  intro code
  rw [checks, mode, codes, ← checks]

theorem directive_setPragma (fixture : Fixture) (line : Nat) (pragma : Pragma) :
    (fixture.setPragma line pragma).directive = fixture.directive := by
  unfold setPragma
  split <;> rfl

/-- What a directive means for the codes. -/
theorem checks_iff_of_directive {fixture : Fixture} {mode : CheckMode} {codes : List String}
    (directive : fixture.directive = some ⟨mode, codes⟩) :
    fixture.checkMode = mode ∧ fixture.issueCodes = codes ∧
      (mode = .onlyListed → ∀ code, fixture.checks code = true ↔ code ∈ codes) ∧
      (mode = .allButListed → ∀ code, fixture.checks code = true ↔ code ∉ codes) := by
  have own : fixture.checkMode = mode := by rw [checkMode, directive]
  have listed : fixture.issueCodes = codes := by rw [issueCodes, directive]
  refine ⟨own, listed, ?_, ?_⟩
  · rintro rfl code
    rw [checks, own, listed, CheckMode.allows_iff]
    simp
  · rintro rfl code
    rw [checks, own, listed, CheckMode.allows_iff]
    simp

/-- **The first line decides which codes are checked, and nothing else does.** -/
theorem checks_by_firstLine (name text : String) (tokens : List String) :
    (∀ mode codes, FirstLineDirects tokens text mode codes →
      (ofText name text tokens).checkMode = mode ∧ (ofText name text tokens).issueCodes = codes ∧
      (mode = .onlyListed → ∀ code, (ofText name text tokens).checks code = true ↔ code ∈ codes) ∧
      (mode = .allButListed →
        ∀ code, (ofText name text tokens).checks code = true ↔ code ∉ codes)) ∧
    ((¬ ∃ mode codes, FirstLineDirects tokens text mode codes) →
      (ofText name text tokens).checkMode = .all ∧ (ofText name text tokens).issueCodes = [] ∧
      ∀ code, (ofText name text tokens).checks code = true) ∧
    (∀ other, (Text.lines other.toList).head? = (Text.lines text.toList).head? →
      ChecksAlike (ofText name other tokens) (ofText name text tokens)) ∧
    (∀ line pragma,
      ChecksAlike ((ofText name text tokens).setPragma line pragma) (ofText name text tokens)) := by
  refine ⟨?_, ?_, ?_, ?_⟩
  · intro mode codes directs
    exact checks_iff_of_directive (directive_ofText_iff.mpr directs)
  · intro undirected
    have none : (ofText name text tokens).directive = none := by
      rw [Option.eq_none_iff_forall_ne_some]
      intro directive found
      exact undirected ⟨directive.mode, directive.codes, directive_ofText_iff.mp found⟩
    refine ⟨?_, ?_, checks_of_no_directive none⟩
    · rw [checkMode, none]
    · rw [issueCodes, none]
  · intro other same
    refine checksAlike_of_directive ?_
    rw [directive_ofText, directive_ofText, same]
  · intro line pragma
    exact checksAlike_of_directive (directive_setPragma _ line pragma)

/-- **An empty token starts no comment**, though every line holds it: here it is the first token
that occurs in the line, the text behind it is no directive, and yet codes are left out, by the
list behind the second token. -/
theorem checkMode_of_emptyToken :
    (Text.lines "// scatr-check: E1".toList).head? = some "// scatr-check: E1".toList ∧
      FirstOccurrence "".toList "// scatr-check: E1".toList [] "// scatr-check: E1".toList ∧
      (∀ mode codes, ¬ Directive.Directs "// scatr-check: E1".toList mode codes) ∧
      (ofText "a.go" "// scatr-check: E1" ["", "//"]).checkMode = .onlyListed ∧
      (ofText "a.go" "// scatr-check: E1" ["", "//"]).checks "E2" = false := by
  refine ⟨by decide, ⟨rfl, fun _ _ _ => Nat.zero_le _⟩, ?_, by decide, by decide⟩
  intro mode codes directs
  have read := Directive.parse?_eq_some_iff.mpr directs
  have none : Directive.parse? "// scatr-check: E1".toList = none := by decide
  rw [none] at read
  cases read

end Fixture

end CheckerFixtures
