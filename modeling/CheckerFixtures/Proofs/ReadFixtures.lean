/-
**What fixtures that were read have in common.**

The text of a file is read line by line, so no code that its directive lists holds a line break, nor
does one hold the comma that would end it; and all that it expects is fresh. Therefore the
expectations, taken one by one, determine the table: each pragma declares a code, and each code has
an expectation.

* `Directive.isListed_of_directs`: the codes of a directive on one line;
* `Fixture.isRead_ofBytes`, `Fixture.isRead_of_load`: what is read from a file, and what is loaded;
* `Fixture.pragmas_inj`: the table is determined by the expectations;
* `Fixture.IsRead.readAlike`: directive and expectations are enough for all that is checked.
-/

import CheckerFixtures.Proofs.AddedBlanks
import CheckerFixtures.Proofs.CompactReport
import CheckerFixtures.Proofs.FirstLine
import CheckerFixtures.Proofs.Streaming
import CheckerFixtures.Proofs.Unambiguous

namespace CheckerFixtures

/-! ### Directives -/

/-- No line of a text holds a line break. -/
theorem Text.newline_notMem_lineOfStreamed {pieces : List (List Char)} (cut : IsCut '\n' pieces) :
    ∀ piece ∈ pieces, '\n' ∉ lineOfStreamed piece := by
  have shorter : ∀ {piece : List Char}, '\n' ∉ piece → '\n' ∉ stripLast '\r' piece := by
    intro piece free member
    rcases eq_stripLast '\r' piece with same | longer
    · exact free (same ▸ member)
    · exact free (longer ▸ List.mem_append_left _ member)
  intro piece member
  induction cut with
  | nil => cases member
  | @unended own filled free =>
    have kept : stripLast '\n' own = own :=
      stripLast_of_ne fun last => free (List.mem_of_getLast? last)
    rw [List.mem_singleton.mp member, lineOfStreamed, kept]
    exact shorter free
  | ended free rest ih =>
    rcases List.mem_cons.mp member with rfl | later
    · rw [lineOfStreamed, stripLast_concat]
      exact shorter free
    · exact ih later

namespace Directive

/-- A directive whose codes can be listed on one line. -/
structure IsListed (directive : Directive) : Prop where
  mode : directive.mode ≠ .all
  some : directive.codes ≠ []
  noComma : ∀ code ∈ directive.codes, ',' ∉ code.toList
  noBreak : ∀ code ∈ directive.codes, '\n' ∉ code.toList

theorem Codes.exists_part {parts : List (List Char)} {codes : List String}
    (listed : Codes parts codes) : ∀ code ∈ codes, ∃ part ∈ parts, code.toList ⊆ part := by
  intro code member
  induction listed with
  | nil => cases member
  | blank _ _ ih =>
    obtain ⟨part, inside, subset⟩ := ih member
    exact ⟨part, List.mem_cons_of_mem _ inside, subset⟩
  | @code part own _ _ _ trimmed _ ih =>
    rcases List.mem_cons.mp member with rfl | later
    · obtain ⟨before, after, -, -, rfl⟩ := trimmed.cut
      refine ⟨_, List.mem_cons_self, ?_⟩
      rw [String.toList_ofList]
      exact fun c inside => List.mem_append_right _ (List.mem_append_left _ inside)
    · obtain ⟨part, inside, subset⟩ := ih later
      exact ⟨part, List.mem_cons_of_mem _ inside, subset⟩

/-- **The codes of a directive on one line** can be listed. -/
theorem isListed_of_directs {body : List Char} {directive : Directive} (free : '\n' ∉ body)
    (directs : Directs body directive.mode directive.codes) : directive.IsListed := by
  obtain ⟨word, list, trimmed, listed, mode⟩ : ∃ word list, Text.IsTrim (word ++ list) body ∧
      Lists list directive.codes ∧ directive.mode ≠ .all := by
    obtain ⟨mode, codes⟩ := directive
    cases directs with
    | only trimmed listed => exact ⟨_, _, trimmed, listed, by rintro ⟨⟩⟩
    | allBut trimmed listed => exact ⟨_, _, trimmed, listed, by rintro ⟨⟩⟩
  obtain ⟨⟨parts, separate, rfl, codes⟩, some⟩ := listed
  obtain ⟨before, after, -, -, rfl⟩ := trimmed.cut
  refine ⟨mode, some, ?_, ?_⟩
  · intro code member comma
    obtain ⟨part, inside, subset⟩ := codes.exists_part code member
    exact separate part inside (subset comma)
  · intro code member newline
    obtain ⟨part, inside, subset⟩ := codes.exists_part code member
    have there := Text.subset_intercalate [','] inside (subset newline)
    simp [there] at free

end Directive

/-! ### Fixtures -/

namespace Fixture

/-- A fixture as it is found in a file. -/
structure IsRead (fixture : Fixture) : Prop where
  listed : ∀ directive, fixture.directive = some directive → directive.IsListed
  fresh : ∀ line pragma, fixture.pragmaAt? line = some pragma → pragma.IsFresh

theorem isRead_ofBytes (name : String) (bytes : List UInt8) (tokens : List String) :
    (ofBytes name bytes tokens).IsRead := by
  refine ⟨?_, fun line pragma found => Pragma.isFresh_ofLines found⟩
  intro directive found
  have onFirst : ((decodedPieces bytes).map Text.lineOfStreamed).head?.bind
      (directiveOn? (searched tokens)) = some directive := by
    rw [← Scan.directive_ofLines]
    exact found
  obtain ⟨line, first, read⟩ := Option.bind_eq_some_iff.mp onFirst
  obtain ⟨piece, member, rfl⟩ := List.mem_map.mp (List.mem_of_head? first)
  have cut : Text.IsCut '\n' (decodedPieces bytes) := by
    rw [← cutBehind_flatten_decodedPieces]
    exact Text.isCut_cutBehind _
  have free := Text.newline_notMem_lineOfStreamed cut piece member
  obtain ⟨token, body, comment, directs⟩ := directiveOn?_eq_some_iff.mp read
  obtain ⟨before, occurrence⟩ := comment.occurs
  rw [occurrence.cut, List.mem_append, List.mem_append, not_or, not_or] at free
  exact Directive.isListed_of_directs free.2.2 directs

theorem isRead_of_load {loader : Loader} {tree : FileTree} {collection : Collection}
    {found : FoundFixture} (loaded : loader.load tree = .ok collection)
    (member : found ∈ collection.fixtures) : found.fixture.IsRead := by
  obtain ⟨files, -, file, -, made⟩ := Loader.exists_file_of_load loaded member
  obtain ⟨language, -, rfl⟩ := Option.map_eq_some_iff.mp made
  exact isRead_ofBytes _ file.bytes language.tokens

end Fixture

/-! ### Expectations -/

/-- An expectation as it is found in a file. -/
structure Expectation.IsFresh (expectation : Expectation) : Prop where
  letters : ∀ c ∈ expectation.code.toList, IsCodeLetter c
  unmet : ∀ issue, expectation.issue? = some issue → issue.hit = false

theorem Expectation.IsFresh.notMem_code {expectation : Expectation} (fresh : expectation.IsFresh)
    {c : Char} (other : ¬ IsCodeLetter c) : c ∉ expectation.code.toList :=
  fun member => other (fresh.letters c member)

theorem Fixture.IsRead.isFresh {fixture : Fixture} (read : fixture.IsRead)
    {expectation : Expectation} (member : expectation ∈ Expectation.ofFixture fixture) :
    expectation.IsFresh := by
  refine ⟨Expectation.letters_of_mem_ofFixture read.fresh member, fun issue expected => ?_⟩
  obtain ⟨⟨line, pragma⟩, listed, inside⟩ := List.mem_flatMap.mp member
  have fresh := read.fresh line pragma (SortedMap.get?_eq_some_iff.mpr listed)
  obtain ⟨⟨code, issues⟩, own, kind⟩ := Expectation.mem_ofPragma.mp inside
  rcases kind with ⟨-, rfl⟩ | ⟨found, there, rfl⟩
  · cases expected
  · cases expected
    refine (fresh.issues code _ ?_).1
    rw [Pragma.issuesUnder, Pragma.issues?, SortedMap.get?_eq_some_iff.mpr own]
    exact there

/-! ### Tables -/

theorem Expectation.ofIssues_inj {line : Nat} {code : String} {issues others : List Issue}
    (same : ofIssues line code issues = ofIssues line code others) : issues = others := by
  have inner : ∀ issue other : Issue,
      (⟨line, code, some issue⟩ : Expectation) = ⟨line, code, some other⟩ → issue = other := by
    rintro issue other ⟨⟩
    rfl
  cases issues with
  | nil =>
    cases others with
    | nil => rfl
    | cons other others => cases (List.cons.inj same).1
  | cons issue issues =>
    cases others with
    | nil => cases (List.cons.inj same).1
    | cons other others => exact List.map_injective_iff.mpr inner same

/-- An optional list of issues is determined by what is expected for it. -/
theorem Expectation.getD_ofIssues_inj {line : Nat} {code : String}
    {issues? others? : Option (List Issue)}
    (same : (issues?.map (ofIssues line code)).getD [] =
      (others?.map (ofIssues line code)).getD []) : issues? = others? := by
  have filled : ∀ issues, ofIssues line code issues ≠ [] := by
    intro issues
    cases issues <;> exact List.cons_ne_nil _ _
  cases issues? with
  | none =>
    cases others? with
    | none => rfl
    | some others => exact absurd same.symm (filled others)
  | some issues =>
    cases others? with
    | none => exact absurd same (filled issues)
    | some others => rw [ofIssues_inj same]

/-- Fresh pragmas with the same issues have the same flags. -/
theorem Pragma.IsFresh.eq_of_issues? {pragma other : Pragma} (fresh : pragma.IsFresh)
    (fresh' : other.IsFresh) (same : ∀ code, pragma.issues? code = other.issues? code) :
    pragma = other := by
  have codes : pragma.codes = other.codes := by
    rw [Pragma.codes, SortedMap.ext_get? same, ← Pragma.codes]
  refine Pragma.ext_get? same fun code => ?_
  refine option_eq_of_getD (isSome_get?_congr ?_)
    ((fresh.lowered code).trans (fresh'.lowered code).symm)
  rw [fresh.flagged, fresh'.flagged, codes]

/-- A line has a pragma if there is a code with issues, or without any, on it. -/
theorem Fixture.IsRead.pragmaAt?_eq_none_iff {fixture : Fixture} (read : fixture.IsRead)
    (line : Nat) : fixture.pragmaAt? line = none ↔
      ∀ code, ((fixture.pragmaAt? line).bind fun pragma => pragma.issues? code) = none := by
  cases own : fixture.pragmaAt? line with
  | none => exact iff_of_true rfl fun _ => rfl
  | some pragma =>
    refine iff_of_false (Option.some_ne_none pragma) fun nothing => ?_
    obtain ⟨code, declared⟩ := List.exists_mem_of_ne_nil _ (read.fresh line pragma own).declares
    have there : (pragma.issues? code).isSome = true := SortedMap.mem_keys_iff.mp declared
    exact Option.isSome_iff_ne_none.mp there (nothing code)

/-- **The expectations of a fixture determine its table**, since every pragma declares a code. -/
theorem Fixture.pragmas_inj {fixture other : Fixture} (read : fixture.IsRead)
    (read' : other.IsRead) (same : Expectation.ofFixture fixture = Expectation.ofFixture other) :
    fixture.pragmas = other.pragmas := by
  have agree : ∀ line code, ((fixture.pragmaAt? line).bind fun pragma => pragma.issues? code) =
      (other.pragmaAt? line).bind fun pragma => pragma.issues? code := by
    intro line code
    refine @Expectation.getD_ofIssues_inj line code _ _ ?_
    rw [← Expectation.filter_ofFixture, same, Expectation.filter_ofFixture]
  refine SortedMap.ext_get? fun line => ?_
  show fixture.pragmaAt? line = other.pragmaAt? line
  have here := agree line
  have none_iff : fixture.pragmaAt? line = none ↔ other.pragmaAt? line = none := by
    rw [read.pragmaAt?_eq_none_iff, read'.pragmaAt?_eq_none_iff]
    simp only [here]
  cases own : fixture.pragmaAt? line with
  | none => exact (none_iff.mp own).symm
  | some pragma =>
    obtain ⟨pragma', own'⟩ : ∃ pragma', other.pragmaAt? line = some pragma' := by
      rw [← Option.ne_none_iff_exists', ne_eq, ← none_iff, own]
      exact Option.some_ne_none pragma
    rw [own, own'] at here
    rw [own', (read.fresh line pragma own).eq_of_issues? (read'.fresh line pragma' own') here]

/-- What a report tells of a fixture is enough for all that is checked. -/
theorem Fixture.IsRead.readAlike {fixture other : Fixture} (read : fixture.IsRead)
    (read' : other.IsRead) (directive : fixture.directive = other.directive)
    (expected : Expectation.ofFixture fixture = Expectation.ofFixture other) :
    ReadAlike fixture other :=
  ⟨pragmas_inj read read' expected, (checksAlike_of_directive directive).checkMode,
    (checksAlike_of_directive directive).issueCodes⟩

end CheckerFixtures
