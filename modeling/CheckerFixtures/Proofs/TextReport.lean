/-
**A report for readers loses nothing.**

A report for readers has a line for each fixture, with the mode and the codes of its directive, then
a line for each expectation, and at the end a line with the number of skipped files. Codes hold no
bracket, listed codes no comma, messages stand in quotes, and nothing but a path or the name of a
language can hold a line break. So whoever knows the paths and the languages can read everything
else off the report.

* `describe_inj`, `textLine_inj`, `modeSuffix_inj`: what is read off a line;
* `splitOn_text`: the report is cut into its lines;
* `fixtureLines_append_inj`: and the lines into those of each fixture;
* `skipped_of_summaryLine`: the last line tells how many files were skipped;
* `eq_of_text_eq`: so the report tells all that it is about.
-/

import CheckerFixtures.Proofs.ReadFixtures

namespace CheckerFixtures

/-! ### Pieces of lines -/

namespace Report

theorem alignRight_inj {width : Nat} {text other : List Char} (free : ' ' ∉ text)
    (free' : ' ' ∉ other) (same : alignRight width text = alignRight width other) :
    text = other := by
  have visible : ∀ {text : List Char}, ' ' ∉ text →
      (alignRight width text).filter (· ≠ ' ') = text := by
    intro text free
    have kept : text.filter (· ≠ ' ') = text := by
      refine List.filter_eq_self.mpr fun c member => decide_eq_true ?_
      rintro rfl
      exact free member
    rw [alignRight, List.filter_append, kept, List.filter_replicate_of_neg (by simp),
      List.nil_append]
  rw [← visible free, same, visible free']

theorem decimal_inj {number other : Nat} (same : decimal number = decimal other) :
    number = other :=
  Text.toDigits_ten_inj same

/-- The words for a column. -/
def columnWords (column : Nat) : List Char :=
  if column = 0 then "any column".toList else "col ".toList ++ decimal column

/-- The words for a message. -/
def messageWords (message : String) : List Char :=
  if message = "" then "any message".toList else Text.quote message.toList

/-- The words for what is expected under a code. -/
def issueWords : Option Issue → List Char
  | none => "any".toList
  | some issue => describe issue

theorem describe_eq (issue : Issue) :
    describe issue = columnWords issue.column ++ ',' :: ' ' :: messageWords issue.message := by
  show columnWords issue.column ++ ", ".toList ++ messageWords issue.message = _
  rw [List.append_assoc]
  rfl

theorem textLine_eq (expectation : Expectation) :
    textLine expectation = ' ' :: ' ' :: (alignRight 4 (decimal expectation.line) ++ ':' :: ' ' ::
      '[' :: (expectation.code.toList ++ ']' :: ' ' :: issueWords expectation.issue?)) := by
  obtain ⟨line, code, issue?⟩ := expectation
  cases issue? <;> simp [textLine, issueWords, bracketed]

theorem comma_notMem_columnWords (column : Nat) : ',' ∉ columnWords column := by
  unfold columnWords
  split
  · decide
  · rw [List.mem_append, not_or]
    exact ⟨by decide, notMem_decimal rfl column⟩

theorem columnWords_inj {column other : Nat} (same : columnWords column = columnWords other) :
    column = other := by
  unfold columnWords at same
  split at same <;> split at same
  · omega
  · cases (List.cons.inj same).1
  · cases (List.cons.inj same).1
  · exact decimal_inj (List.append_cancel_left same)

theorem messageWords_inj {message other : String}
    (same : messageWords message = messageWords other) : message = other := by
  unfold messageWords at same
  split at same <;> split at same
  · rename_i empty empty'
    rw [empty, empty']
  · cases (List.cons.inj same).1
  · cases (List.cons.inj same).1
  · exact String.toList_inj.mp (Text.quote_inj same)

/-- **The words for an issue** tell its column and its message. -/
theorem describe_inj {issue other : Issue} (same : describe issue = describe other) :
    issue.column = other.column ∧ issue.message = other.message := by
  rw [describe_eq, describe_eq] at same
  obtain ⟨columns, messages⟩ := Text.append_mark_inj (comma_notMem_columnWords issue.column)
    (comma_notMem_columnWords other.column) same
  exact ⟨columnWords_inj columns, messageWords_inj (List.cons.inj messages).2⟩

theorem describe_ne_any (issue : Issue) : describe issue ≠ "any".toList := by
  intro same
  have comma : ',' ∈ describe issue := by
    rw [describe_eq]
    exact List.mem_append_right _ List.mem_cons_self
  rw [same] at comma
  exact absurd comma (by decide)

/-- The words for what is expected tell it, unless it was met. -/
theorem issueWords_inj {issue? other? : Option Issue}
    (unmet : ∀ issue, issue? = some issue → issue.hit = false)
    (unmet' : ∀ issue, other? = some issue → issue.hit = false)
    (same : issueWords issue? = issueWords other?) : issue? = other? := by
  cases issue? with
  | none =>
    cases other? with
    | none => rfl
    | some other => exact absurd same.symm (describe_ne_any other)
  | some issue =>
    cases other? with
    | none => exact absurd same (describe_ne_any issue)
    | some other =>
      obtain ⟨columns, messages⟩ := describe_inj same
      have hits := (unmet issue rfl).trans (unmet' other rfl).symm
      rw [Option.some.injEq, Issue.mk.injEq]
      exact ⟨columns, messages, hits⟩

/-- **The line of an expectation** tells all of it. -/
theorem textLine_inj {expectation other : Expectation} (fresh : expectation.IsFresh)
    (fresh' : other.IsFresh) (same : textLine expectation = textLine other) :
    expectation = other := by
  have noBracket : ¬ IsCodeLetter ']' := by decide
  have aligned : ∀ number c, c ≠ ' ' → c.isDigit = false → c ∉ alignRight 4 (decimal number) := by
    intro number c visible noDigit
    rw [alignRight, List.mem_append, not_or]
    exact ⟨fun member => visible (List.eq_of_mem_replicate member), notMem_decimal noDigit number⟩
  rw [textLine_eq, textLine_eq] at same
  obtain ⟨lines, later⟩ := Text.append_mark_inj (aligned _ ':' (by decide) rfl)
    (aligned _ ':' (by decide) rfl) (List.cons.inj (List.cons.inj same).2).2
  obtain ⟨codes, words⟩ := Text.append_mark_inj (fresh.notMem_code noBracket)
    (fresh'.notMem_code noBracket) (List.cons.inj (List.cons.inj later).2).2
  rw [Expectation.mk.injEq]
  refine ⟨?_, String.toList_inj.mp codes, ?_⟩
  · exact decimal_inj (alignRight_inj (notMem_decimal rfl _) (notMem_decimal rfl _) lines)
  · exact issueWords_inj fresh.unmet fresh'.unmet (List.cons.inj words).2

/-! ### Titles -/

theorem modeSuffix_of_none {fixture : Fixture} (undirected : fixture.directive = none) :
    modeSuffix fixture = [] := by
  rw [modeSuffix, Fixture.checkMode, undirected]

theorem modeSuffix_of_some {fixture : Fixture} {directive : Directive}
    (directed : fixture.directive = some directive) (listed : directive.IsListed) :
    modeSuffix fixture = ',' :: ' ' :: (directive.mode.name.toList ++ ':' :: ' ' ::
      List.intercalate [',', ' '] (directive.codes.map String.toList)) := by
  obtain ⟨mode, codes⟩ := directive
  rw [modeSuffix, Fixture.checkMode, Fixture.issueCodes, directed]
  dsimp only
  rw [String.toList_intercalate]
  cases mode with
  | all => exact absurd rfl listed.mode
  | onlyListed => simp
  | allButListed => simp

/-- **What a title adds to a path and a language** tells the directive. -/
theorem modeSuffix_inj {fixture other : Fixture} (read : fixture.IsRead) (read' : other.IsRead)
    (same : modeSuffix fixture = modeSuffix other) : fixture.directive = other.directive := by
  cases directed : fixture.directive with
  | none =>
    cases directed' : other.directive with
    | none => rfl
    | some directive' =>
      rw [modeSuffix_of_none directed, modeSuffix_of_some directed' (read'.listed _ directed')] at same
      cases same
  | some directive =>
    have listed := read.listed directive directed
    cases directed' : other.directive with
    | none =>
      rw [modeSuffix_of_none directed', modeSuffix_of_some directed listed] at same
      cases same
    | some directive' =>
      have listed' := read'.listed directive' directed'
      have noColon : ∀ mode : CheckMode, ':' ∉ mode.name.toList := by
        intro mode
        cases mode <;> decide
      have noComma : ∀ {directive : Directive}, directive.IsListed →
          ∀ item ∈ directive.codes.map String.toList, ',' ∉ item := by
        intro directive listed item member
        obtain ⟨code, own, rfl⟩ := List.mem_map.mp member
        exact listed.noComma code own
      rw [modeSuffix_of_some directed listed, modeSuffix_of_some directed' listed'] at same
      obtain ⟨names, lists⟩ := Text.append_mark_inj (noColon _) (noColon _)
        (List.cons.inj (List.cons.inj same).2).2
      have codes := Text.intercalate_inj (by decide) (by simpa using listed.some)
        (by simpa using listed'.some) (noComma listed) (noComma listed') (List.cons.inj lists).2
      have modes : directive.mode = directive'.mode := by
        rw [← Option.some.injEq, ← CheckMode.ofName?_name, String.toList_inj.mp names,
          CheckMode.ofName?_name]
      rw [Option.some.injEq, Directive.mk.injEq]
      exact ⟨modes, List.map_injective_iff.mpr (fun _ _ => String.toList_inj.mp) codes⟩

/-! ### Lines -/

theorem newline_notMem_modeSuffix {fixture : Fixture} (read : fixture.IsRead) :
    '\n' ∉ modeSuffix fixture := by
  cases directed : fixture.directive with
  | none =>
    rw [modeSuffix_of_none directed]
    exact List.not_mem_nil
  | some directive =>
    have listed := read.listed directive directed
    have name : '\n' ∉ directive.mode.name.toList := by
      cases directive.mode <;> decide
    have codes : '\n' ∉ List.intercalate [',', ' '] (directive.codes.map String.toList) := by
      intro inside
      rcases Text.mem_intercalate inside with gap | ⟨item, member, inside⟩
      · exact absurd gap (by decide)
      · obtain ⟨code, own, rfl⟩ := List.mem_map.mp member
        exact listed.noBreak code own inside
    rw [modeSuffix_of_some directed listed]
    simp [name, codes]

theorem newline_notMem_styled {style : Style} {text : List Char} (free : '\n' ∉ text) :
    '\n' ∉ styled style text := by
  have sequence : ∀ style : Style, '\n' ∉ style.sequence := by
    intro style
    cases style <;> decide
  simp [styled, sequence, free]

theorem newline_notMem_titleLine {found : FoundFixture} (read : found.fixture.IsRead)
    (path : '\n' ∉ found.path.text.toList) (language : '\n' ∉ found.language.toList) :
    '\n' ∉ titleLine found := by
  simp [titleLine, newline_notMem_styled path, language, newline_notMem_modeSuffix read]

theorem newline_notMem_issueWords (issue? : Option Issue) : '\n' ∉ issueWords issue? := by
  cases issue? with
  | none => decide
  | some issue =>
    have column : '\n' ∉ columnWords issue.column := by
      unfold columnWords
      split
      · decide
      · simp [newline_notMem_decimal]
    have message : '\n' ∉ messageWords issue.message := by
      unfold messageWords
      split
      · decide
      · exact Text.newline_not_mem_quote _
    rw [issueWords, describe_eq]
    simp [column, message]

theorem newline_notMem_textLine {expectation : Expectation} (fresh : expectation.IsFresh) :
    '\n' ∉ textLine expectation := by
  have code : '\n' ∉ expectation.code.toList := fresh.notMem_code (by decide)
  rw [textLine_eq]
  simp [alignRight, newline_notMem_decimal, code, newline_notMem_issueWords]

theorem newline_notMem_fixtureLines {found : FoundFixture} (read : found.fixture.IsRead)
    (path : '\n' ∉ found.path.text.toList) (language : '\n' ∉ found.language.toList) :
    ∀ line ∈ fixtureLines found, '\n' ∉ line := by
  intro line member
  rcases List.mem_cons.mp member with rfl | later
  · exact newline_notMem_titleLine read path language
  · rcases List.mem_append.mp later with own | last
    · obtain ⟨expectation, expected, rfl⟩ := List.mem_map.mp own
      exact newline_notMem_textLine (read.isFresh expected)
    · rw [List.mem_singleton.mp last]
      exact List.not_mem_nil

theorem newline_notMem_summaryLine (collection : Collection) : '\n' ∉ summaryLine collection := by
  refine newline_notMem_styled ?_
  simp [newline_notMem_decimal]

/-- **The report is cut into its lines** at its line breaks. -/
theorem splitOn_text {collection : Collection}
    (read : ∀ found ∈ collection.fixtures, found.fixture.IsRead)
    (free : ∀ found ∈ collection.fixtures,
      '\n' ∉ found.path.text.toList ∧ '\n' ∉ found.language.toList) :
    (text collection).splitOn '\n' = textLines collection := by
  have some : textLines collection ≠ [] := List.append_ne_nil_of_right_ne_nil _ (by simp)
  have lines : ∀ line ∈ textLines collection, '\n' ∉ line := by
    intro line member
    rcases List.mem_append.mp member with inside | last
    · obtain ⟨found, listed, own⟩ := List.mem_flatMap.mp inside
      exact newline_notMem_fixtureLines (read found listed) (free found listed).1
        (free found listed).2 line own
    · rw [List.mem_singleton.mp last]
      exact newline_notMem_summaryLine collection
  rw [text, (splitOn_joinLines_iff _).mpr lines, if_neg some]

/-! ### Fixtures -/

theorem map_textLine_inj {expected others : List Expectation}
    (fresh : ∀ expectation ∈ expected, expectation.IsFresh)
    (fresh' : ∀ expectation ∈ others, expectation.IsFresh)
    (same : expected.map textLine = others.map textLine) : expected = others := by
  induction expected generalizing others with
  | nil => exact (List.map_eq_nil_iff.mp same.symm).symm
  | cons first expected ih =>
    cases others with
    | nil => cases same
    | cons first' others =>
      obtain ⟨firsts, later⟩ := List.cons.inj same
      rw [textLine_inj (fresh _ List.mem_cons_self) (fresh' _ List.mem_cons_self) firsts,
        ih (fun _ member => fresh _ (List.mem_cons_of_mem _ member))
          (fun _ member => fresh' _ (List.mem_cons_of_mem _ member)) later]

theorem titleLine_inj {found other : FoundFixture} (read : found.fixture.IsRead)
    (read' : other.fixture.IsRead) (path : found.path = other.path)
    (language : found.language = other.language) (same : titleLine found = titleLine other) :
    found.fixture.directive = other.fixture.directive := by
  unfold titleLine at same
  rw [path, language] at same
  exact modeSuffix_inj read read' (List.append_cancel_left (List.append_cancel_right same))

theorem fixtureLines_append (found : FoundFixture) (rest : List (List Char)) :
    fixtureLines found ++ rest =
      titleLine found :: ((Expectation.ofFixture found.fixture).map textLine ++ [] :: rest) := by
  simp [fixtureLines]

/-- **The lines of a fixture end with the first empty one**, and tell what they are about. -/
theorem fixtureLines_append_inj {found other : FoundFixture} (read : found.fixture.IsRead)
    (read' : other.fixture.IsRead) (path : found.path = other.path)
    (language : found.language = other.language) {rest rest' : List (List Char)}
    (same : fixtureLines found ++ rest = fixtureLines other ++ rest') :
    found.fixture.directive = other.fixture.directive ∧
      Expectation.ofFixture found.fixture = Expectation.ofFixture other.fixture ∧ rest = rest' := by
  have filled : ∀ expected : List Expectation, [] ∉ expected.map textLine := by
    intro expected member
    obtain ⟨expectation, -, empty⟩ := List.mem_map.mp member
    cases empty
  rw [fixtureLines_append, fixtureLines_append] at same
  obtain ⟨titles, later⟩ := List.cons.inj same
  obtain ⟨lines, rests⟩ := Text.append_mark_inj (filled _) (filled _) later
  exact ⟨titleLine_inj read read' path language titles,
    map_textLine_inj (fun _ => read.isFresh) (fun _ => read'.isFresh) lines, rests⟩

end Report

/-! ### Reports -/

namespace Report

/-- Two fixtures that were found in the same place, with the same language. -/
def SamePlace (found other : FoundFixture) : Prop :=
  found.path = other.path ∧ found.language = other.language

theorem forall₂_of_flatMap_eq {founds others : List FoundFixture}
    (read : ∀ found ∈ founds, found.fixture.IsRead)
    (read' : ∀ found ∈ others, found.fixture.IsRead)
    (places : List.Forall₂ SamePlace founds others)
    (same : founds.flatMap fixtureLines = others.flatMap fixtureLines) :
    List.Forall₂ (fun found other => Fixture.ReadAlike found.fixture other.fixture)
      founds others := by
  induction places with
  | nil => exact .nil
  | @cons found other founds others place _ ih =>
    have own := read found List.mem_cons_self
    have own' := read' other List.mem_cons_self
    obtain ⟨directive, expected, later⟩ :=
      fixtureLines_append_inj own own' place.1 place.2 same
    exact .cons (own.readAlike own' directive expected)
      (ih (fun _ member => read _ (List.mem_cons_of_mem _ member))
        (fun _ member => read' _ (List.mem_cons_of_mem _ member)) later)

theorem keys_of_readAlike {founds others : List FoundFixture}
    (alike : List.Forall₂ (fun found other => Fixture.ReadAlike found.fixture other.fixture)
      founds others) :
    (founds.flatMap fun found => found.fixture.pragmas.keys) =
      others.flatMap fun found => found.fixture.pragmas.keys := by
  induction alike with
  | nil => rfl
  | cons own _ ih => rw [List.flatMap_cons, List.flatMap_cons, own.pragmas, ih]

/-- **The last line tells how many files were skipped**, if the fixtures are known. -/
theorem skipped_of_summaryLine {first second : Collection}
    (alike : List.Forall₂ (fun found other => Fixture.ReadAlike found.fixture other.fixture)
      first.fixtures second.fixtures) (same : summaryLine first = summaryLine second) :
    first.skipped = second.skipped := by
  -- the colour and the other two numbers are those of the fixtures
  have count : first.pragmaCount = second.pragmaCount :=
    congrArg List.length (keys_of_readAlike alike)
  have empty : first.fixtures = [] ↔ second.fixtures = [] := by
    rw [← List.length_eq_zero_iff, ← List.length_eq_zero_iff, alike.length_eq]
  unfold summaryLine styled at same
  simp only [count, alike.length_eq, empty] at same
  have numbers := List.append_cancel_left (List.append_cancel_right same)
  exact decimal_inj (List.append_cancel_left (List.append_cancel_right numbers))

/-- **The report loses nothing.** Of two collections that were loaded, with the same paths and
languages in the same order and without line breaks in them: if the reports are the same, then as
many files were skipped, and the fixtures have the same modes, listed codes and expectations. -/
theorem eq_of_text_eq {loader loader' : Loader} {tree tree' : FileTree}
    {first second : Collection} (loaded : loader.load tree = .ok first)
    (loaded' : loader'.load tree' = .ok second)
    (places : first.fixtures.map (fun found => (found.path, found.language)) =
      second.fixtures.map fun found => (found.path, found.language))
    (free : ∀ found ∈ first.fixtures,
      '\n' ∉ found.path.text.toList ∧ '\n' ∉ found.language.toList)
    (same : text first = text second) :
    first.skipped = second.skipped ∧
      List.Forall₂ (fun found other => found.fixture.checkMode = other.fixture.checkMode ∧
        found.fixture.issueCodes = other.fixture.issueCodes ∧
        found.fixture.pragmas = other.fixture.pragmas) first.fixtures second.fixtures := by
  have read : ∀ found ∈ first.fixtures, found.fixture.IsRead :=
    fun _ => Fixture.isRead_of_load loaded
  have read' : ∀ found ∈ second.fixtures, found.fixture.IsRead :=
    fun _ => Fixture.isRead_of_load loaded'
  have samePlaces : List.Forall₂ SamePlace first.fixtures second.fixtures := by
    rw [← List.forall₂_eq_eq_eq, List.forall₂_map_left_iff, List.forall₂_map_right_iff] at places
    exact places.imp fun _ _ same => Prod.mk.inj same
  have free' : ∀ found ∈ second.fixtures,
      '\n' ∉ found.path.text.toList ∧ '\n' ∉ found.language.toList := by
    have ofPlaces : ∀ place ∈ first.fixtures.map fun found => (found.path, found.language),
        '\n' ∉ place.1.text.toList ∧ '\n' ∉ place.2.toList := List.forall_mem_map.mpr free
    rw [places] at ofPlaces
    exact List.forall_mem_map.mp ofPlaces
  have lines : textLines first = textLines second := by
    rw [← splitOn_text read free, same, splitOn_text read' free']
  obtain ⟨inside, last⟩ := List.append_inj' lines rfl
  have alike := forall₂_of_flatMap_eq read read' samePlaces inside
  refine ⟨skipped_of_summaryLine alike (List.cons.inj last).1, alike.imp ?_⟩
  exact fun _ _ own => ⟨own.checkMode, own.issueCodes, own.pragmas⟩

/-- A directive, and a line with two codes. -/
def listedCodes : String := "// scatr-check: E1, E2\nx() // [E2]; [E1]: 3 \"a \\\"b\\\"\"\n"

/-- The same on other code, with other blanks. -/
def respelledCodes : String := "//scatr-check:E1,E2\nyy() // [E1]:3  \"a \\\"b\\\"\";[E2]\n"

/-- Two texts with the same report. -/
theorem eq_of_text_eq_respelled :
    oneFixture listedCodes ≠ oneFixture respelledCodes ∧
      (oneFixture listedCodes).skipped = (oneFixture respelledCodes).skipped ∧
      List.Forall₂ (fun found other => found.fixture.checkMode = other.fixture.checkMode ∧
        found.fixture.issueCodes = other.fixture.issueCodes ∧
        found.fixture.pragmas = other.fixture.pragmas)
        (oneFixture listedCodes).fixtures (oneFixture respelledCodes).fixtures :=
  have loaded : wholeDirectory.load (oneFile listedCodes) = .ok (oneFixture listedCodes) :=
    Loader.load_directory wholeDirectory _ ["w"] (by decide +kernel)
  have loaded' : wholeDirectory.load (oneFile respelledCodes) = .ok (oneFixture respelledCodes) :=
    Loader.load_directory wholeDirectory _ ["w"] (by decide +kernel)
  ⟨by decide +kernel, eq_of_text_eq loaded loaded' (by decide +kernel) (by decide +kernel)
    (by decide +kernel)⟩

end Report

end CheckerFixtures
