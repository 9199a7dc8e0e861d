/-
**Compact reports, line by line.**

The expectations of a fixture come by line and by code, and those of one code in the order in which
they were declared. A compact report has a line for each of them. The codes of a loaded fixture, and
the names by which it was found, hold no line break; its messages are shown as they are. So the
lines of the report are the expectations exactly if no message holds a line break.

* `ofFixture_pairwise`, `filter_ofFixture`: which expectations a fixture has, and in which order;
* `newline_mem_compactLine`: where a line break in a line comes from;
* `splitOn_joinLines_iff`: when lines can be told apart in a text;
* `exists_seenNames`: which files the loaded fixtures are, and by which names they are seen;
* `newline_notMem_code`, `newline_notMem_path`: codes and paths hold no line break;
* `splitOn_compact_iff`: the lines of a report;
* `splitOn_compact_lineBreak`: a message that is spread over two lines.
-/

import CheckerFixtures.Proofs.FreshPragmas
import CheckerFixtures.Proofs.Loading
import CheckerFixtures.Report

namespace CheckerFixtures

/-! ### The expectations of a fixture -/

namespace Expectation

variable {line : Nat} {code : String} {issues : List Issue} {pragma : Pragma}
  {expectation : Expectation}

theorem place_of_mem_ofIssues (member : expectation ∈ ofIssues line code issues) :
    expectation.line = line ∧ expectation.code = code := by
  rcases mem_ofIssues.mp member with ⟨-, rfl⟩ | ⟨issue, -, rfl⟩
  · exact ⟨rfl, rfl⟩
  · exact ⟨rfl, rfl⟩

/-- What is expected on a line names that line and a code of its pragma. -/
theorem place_of_mem_ofPragma (member : expectation ∈ ofPragma line pragma) :
    expectation.line = line ∧ expectation.code ∈ pragma.codes := by
  obtain ⟨entry, listed, inside⟩ := List.mem_flatMap.mp member
  obtain ⟨sameLine, sameCode⟩ := place_of_mem_ofIssues inside
  exact ⟨sameLine, List.mem_map.mpr ⟨entry, listed, sameCode.symm⟩⟩

/-- An expectation comes no later than another one: by line, and on a line by code. -/
def NoLater (first second : Expectation) : Prop :=
  first.line < second.line ∨
    first.line = second.line ∧ (first.code < second.code ∨ first.code = second.code)

theorem ofIssues_pairwise (line : Nat) (code : String) (issues : List Issue) :
    (ofIssues line code issues).Pairwise NoLater := by
  refine (List.pairwise_of_forall (R := fun _ _ => True) fun _ _ => trivial).imp_of_mem ?_
  intro first second firstMember secondMember _
  obtain ⟨firstLine, firstCode⟩ := place_of_mem_ofIssues firstMember
  obtain ⟨secondLine, secondCode⟩ := place_of_mem_ofIssues secondMember
  exact .inr ⟨firstLine.trans secondLine.symm, .inr (firstCode.trans secondCode.symm)⟩

theorem ofPragma_pairwise (line : Nat) (pragma : Pragma) :
    (ofPragma line pragma).Pairwise NoLater := by
  refine List.pairwise_flatMap.mpr ⟨fun entry _ => ofIssues_pairwise line entry.1 entry.2, ?_⟩
  refine pragma.issues.ascending.imp fun before first firstMember second secondMember => ?_
  obtain ⟨firstLine, firstCode⟩ := place_of_mem_ofIssues firstMember
  obtain ⟨secondLine, secondCode⟩ := place_of_mem_ofIssues secondMember
  refine .inr ⟨firstLine.trans secondLine.symm, .inl ?_⟩
  rw [firstCode, secondCode]
  exact before

/-- **The expectations of a fixture come by line, and on a line by code.** -/
theorem ofFixture_pairwise (fixture : Fixture) : (ofFixture fixture).Pairwise NoLater := by
  refine List.pairwise_flatMap.mpr ⟨fun entry _ => ofPragma_pairwise entry.1 entry.2, ?_⟩
  refine fixture.pragmas.ascending.imp fun before first firstMember second secondMember => ?_
  refine .inl ?_
  rw [(place_of_mem_ofPragma firstMember).1, (place_of_mem_ofPragma secondMember).1]
  exact before

end Expectation

/-- Of ascending entries, what only one key can contribute is what its entry contributes. -/
theorem SortedMap.flatMap_entries_of_key {Key Value Item : Type} [LT Key] [LE Key]
    [Std.IsLinearOrder Key] [Std.LawfulOrderLT Key] [DecidableEq Key] (key : Key)
    (map : SortedMap Key Value) (items : Key × Value → List Item)
    (only : ∀ entry, entry.1 ≠ key → items entry = []) :
    map.entries.flatMap items = ((map.get? key).map fun value => items (key, value)).getD [] := by
  obtain ⟨entries, ascending⟩ := map
  show entries.flatMap items = ((entries.lookup key).map _).getD []
  induction entries with
  | nil => rfl
  | cons entry entries ih =>
    obtain ⟨other, value⟩ := entry
    obtain ⟨below, sorted⟩ := List.pairwise_cons.mp ascending
    rw [List.flatMap_cons, lookup_entry, ih sorted]
    by_cases same : key = other
    · subst same
      rw [if_pos rfl, lookup_eq_none_of_below fun entry member => below entry member]
      exact List.append_nil _
    · rw [if_neg same, only _ (Ne.symm same)]
      rfl

namespace Expectation

/-- On a line a code has the expectations of its issues, in order. -/
theorem filter_ofPragma (line : Nat) (code : String) (pragma : Pragma) :
    (ofPragma line pragma).filter (fun found => found.line = line ∧ found.code = code) =
      ((pragma.issues? code).map (ofIssues line code)).getD [] := by
  unfold ofPragma
  rw [List.filter_flatMap, SortedMap.flatMap_entries_of_key code]
  · congr 2
    funext issues
    refine List.filter_eq_self.mpr fun found member => ?_
    exact decide_eq_true (place_of_mem_ofIssues member)
  · intro entry other
    refine List.filter_eq_nil_iff.mpr fun found member same => ?_
    exact other ((place_of_mem_ofIssues member).2.symm.trans (of_decide_eq_true same).2)

/-- **On each line each code has the expectations of its issues, in order.** -/
theorem filter_ofFixture (fixture : Fixture) (line : Nat) (code : String) :
    (ofFixture fixture).filter (fun found => found.line = line ∧ found.code = code) =
      (((fixture.pragmaAt? line).bind fun pragma => pragma.issues? code).map
        (ofIssues line code)).getD [] := by
  unfold ofFixture
  rw [List.filter_flatMap, SortedMap.flatMap_entries_of_key line]
  · show ((fixture.pragmaAt? line).map _).getD [] = _
    cases fixture.pragmaAt? line with
    | none => rfl
    | some pragma => exact filter_ofPragma line code pragma
  · intro entry other
    refine List.filter_eq_nil_iff.mpr fun found member same => ?_
    exact other ((place_of_mem_ofPragma member).1.symm.trans (of_decide_eq_true same).1)

end Expectation

/-! ### Line breaks in texts -/

/-- **Lines can be told apart in a text if no line break is inside one of them**, and only then. -/
theorem Report.splitOn_joinLines_iff (lines : List (List Char)) :
    (joinLines lines).splitOn '\n' = (if lines = [] then [[]] else lines) ↔
      ∀ line ∈ lines, '\n' ∉ line := by
  by_cases none : lines = []
  · subst none
    exact iff_of_true rfl fun _ member => absurd member List.not_mem_nil
  · rw [if_neg none]
    constructor
    · intro cut line member
      rw [← cut] at member
      exact Text.notMem_of_mem_splitOn member
    · intro free
      exact List.splitOn_intercalate '\n' free none

theorem Report.notMem_decimal {c : Char} (other : c.isDigit = false) (number : Nat) :
    c ∉ decimal number := by
  intro member
  have digit := Nat.isDigit_of_mem_toDigits (by decide) (by decide) member
  rw [other] at digit
  cases digit

theorem Report.newline_notMem_decimal (number : Nat) : '\n' ∉ decimal number :=
  notMem_decimal rfl number

/-- The message that is expected, if any, stays on one line. -/
def Expectation.StaysOnLine (expectation : Expectation) : Prop :=
  ∀ issue ∈ expectation.issue?, '\n' ∉ issue.message.toList

instance (expectation : Expectation) : Decidable expectation.StaysOnLine :=
  inferInstanceAs (Decidable (∀ issue ∈ expectation.issue?, '\n' ∉ issue.message.toList))

namespace Report

/-- A line break in a line comes from the path, the code or the message. -/
theorem newline_mem_compactLine {path : Path} {expectation : Expectation} :
    '\n' ∈ compactLine path expectation ↔
      '\n' ∈ path.text.toList ∨ '\n' ∈ expectation.code.toList ∨ ¬ expectation.StaysOnLine := by
  obtain ⟨line, code, issue?⟩ := expectation
  cases issue? with
  | none =>
    simp [compactLine, bracketed, newline_notMem_decimal, Expectation.StaysOnLine]
  | some issue =>
    have message : '\n' ∈ (if issue.message = "" then [] else ' ' :: issue.message.toList) ↔
        '\n' ∈ issue.message.toList := by
      split
      · rename_i empty
        rw [empty]
        rfl
      · simp
    simp [compactLine, bracketed, newline_notMem_decimal, Expectation.StaysOnLine, message]

end Report

/-! ### What is loaded -/

/-- What is expected in a fixture is expected under the codes of its pragmas. -/
theorem Expectation.letters_of_mem_ofFixture {fixture : Fixture}
    (fresh : ∀ line pragma, fixture.pragmaAt? line = some pragma → pragma.IsFresh)
    {expectation : Expectation} (member : expectation ∈ ofFixture fixture) :
    ∀ c ∈ expectation.code.toList, IsCodeLetter c := by
  obtain ⟨⟨line, pragma⟩, listed, inside⟩ := List.mem_flatMap.mp member
  have own := fresh line pragma (SortedMap.get?_eq_some_iff.mpr listed)
  exact (own.codes _ (place_of_mem_ofPragma inside).2).2

/-- The names by which an entry is seen from a place: those that lead to it from there, or its own
name if it is the place. -/
def seenNames (place names : Place) : Place :=
  if names = [] then place.getLast?.toList else names

namespace Loader

variable {loader : Loader} {tree : FileTree} {collection : Collection} {found : FoundFixture}

/-- **The codes of a loaded fixture hold no line break.** -/
theorem newline_notMem_code (loaded : loader.load tree = .ok collection)
    (member : found ∈ collection.fixtures) {expectation : Expectation}
    (expected : expectation ∈ Expectation.ofFixture found.fixture) :
    '\n' ∉ expectation.code.toList := by
  obtain ⟨files, -, file, -, made⟩ := exists_file_of_load loaded member
  obtain ⟨language, -, rfl⟩ := Option.map_eq_some_iff.mp made
  have letters := Expectation.letters_of_mem_ofFixture (fun _ _ => Pragma.isFresh_ofLines) expected
  exact fun newline => absurd (letters _ newline) (by decide)

/-- Every file at the root or below is seen by names without line breaks. -/
def SeesOneLineNames (loader : Loader) (tree : FileTree) : Prop :=
  ∀ place entry, tree.locate [] loader.root = .ok (place, entry) →
    ∀ names bytes, tree.get? (place ++ names) = some (.file bytes) →
      ∀ name ∈ seenNames place names, '\n' ∉ name.toList

/-- If no name in a tree holds a line break, none is seen. -/
theorem seesOneLineNames_of_entries (loader : Loader)
    (free : ∀ entry ∈ tree.entries.entries, ∀ name ∈ entry.1, '\n' ∉ name.toList) :
    loader.SeesOneLineNames tree := by
  intro place entry _ names bytes found name seen
  have inside : name ∈ place ++ names := by
    unfold seenNames at seen
    split at seen
    · exact List.mem_append_left names (List.mem_of_getLast? (Option.mem_toList.mp seen))
    · exact List.mem_append_right place seen
  unfold FileTree.get? at found
  rw [if_neg (List.ne_nil_of_mem inside)] at found
  exact free _ (SortedMap.get?_eq_some_iff.mp found) name inside

/-- The root is seen as its own name, if it is a file. -/
theorem relative_root (proper : tree.IsProper) {place : Place} {bytes : List UInt8}
    (located : tree.locate [] loader.root = .ok (place, .file bytes)) :
    loader.relative loader.root = .ofSegments ((seenNames place []).map String.toList) := by
  obtain ⟨front, name, passed⟩ := proper.name_of_locate located
  have last : place.getLast? = some name := by
    rw [FileTree.place_of_locate located, passed, Path.placeFrom_append]
    exact List.getLast?_concat
  rw [relative, if_pos rfl, Path.fileName?, passed, List.getLast?_concat, seenNames, if_pos rfl,
    last]
  dsimp only
  rw [Option.toList_some, List.map_singleton, Path.ofSegments, List.intercalate_singleton,
    String.ofList_toList]

/-- **A loaded fixture is a file at the root or below, by the names by which that is seen.** -/
theorem exists_seenNames (loaded : loader.load tree = .ok collection) (proper : tree.IsProper)
    (member : found ∈ collection.fixtures) :
    ∃ place entry names bytes, tree.locate [] loader.root = .ok (place, entry) ∧
      tree.get? (place ++ names) = some (.file bytes) ∧
      found.path = .ofSegments ((seenNames place names).map String.toList) := by
  obtain ⟨files, read, file, listed, made⟩ := exists_file_of_load loaded member
  obtain ⟨language, -, rfl⟩ := Option.map_eq_some_iff.mp made
  unfold candidates candidatesBy at read
  split at read
  · cases read
  · rename_i place bytes located
    cases read
    have there := (FileTree.locate_eq_ok_iff.mp located).2.2.2.2
    rw [List.mem_singleton.mp listed]
    exact ⟨place, _, [], bytes, located, (List.append_nil place).symm ▸ there,
      relative_root proper located⟩
  · rename_i place located
    cases read
    obtain ⟨found, walked, rfl⟩ := List.mem_map.mp (List.mem_of_mem_filter listed)
    have listing := loader.isListing_visible tree place
    refine ⟨place, _, found.1, found.2, located, listing.isFile found walked, ?_⟩
    rw [seenNames, if_neg (listing.below found walked)]
    exact listing.relative proper (FileTree.locate_eq_ok_iff.mp located).1 walked

/-- **The paths of loaded fixtures hold no line break** if the names that are seen hold none. -/
theorem newline_notMem_path (loaded : loader.load tree = .ok collection) (proper : tree.IsProper)
    (free : loader.SeesOneLineNames tree) (member : found ∈ collection.fixtures) :
    '\n' ∉ found.path.text.toList := by
  obtain ⟨place, entry, names, bytes, located, there, seen⟩ :=
    exists_seenNames loaded proper member
  rw [seen, Path.ofSegments, String.toList_ofList]
  intro inside
  rcases Text.mem_intercalate inside with slash | ⟨segment, listed, inside⟩
  · cases List.mem_singleton.mp slash
  · obtain ⟨name, seenName, rfl⟩ := List.mem_map.mp listed
    exact free place entry located names bytes there name seenName inside

end Loader

/-! ### The lines of a report -/

namespace Report

/-- The expectations of a collection, each with the path of its fixture. -/
def rows (collection : Collection) : List (Path × Expectation) :=
  collection.fixtures.flatMap fun found =>
    (Expectation.ofFixture found.fixture).map fun expectation => (found.path, expectation)

theorem mem_rows {collection : Collection} {path : Path} {expectation : Expectation} :
    (path, expectation) ∈ rows collection ↔ ∃ found ∈ collection.fixtures,
      found.path = path ∧ expectation ∈ Expectation.ofFixture found.fixture := by
  unfold rows
  rw [List.mem_flatMap]
  refine exists_congr fun found => and_congr_right fun _ => ?_
  rw [List.mem_map]
  constructor
  · rintro ⟨_, expected, same⟩
    cases same
    exact ⟨rfl, expected⟩
  · rintro ⟨rfl, expected⟩
    exact ⟨expectation, expected, rfl⟩

/-- The line of an expectation with its path. -/
def rowLine (row : Path × Expectation) : List Char := compactLine row.1 row.2

theorem compactLines_eq (collection : Collection) :
    compactLines collection = (rows collection).map rowLine := by
  unfold compactLines rows
  rw [List.map_flatMap]
  simp only [List.map_map]
  rfl

/-- A line starts with the path of its fixture and the number of the line. -/
theorem isPrefix_rowLine (path : Path) (expectation : Expectation) :
    path.text.toList ++ ':' :: (decimal expectation.line ++ [':']) <+:
      rowLine (path, expectation) := by
  obtain ⟨line, code, issue?⟩ := expectation
  cases issue? with
  | none =>
    refine ⟨' ' :: bracketed code, ?_⟩
    simp [rowLine, compactLine]
  | some issue =>
    refine ⟨decimal issue.column ++ ':' :: ' ' :: bracketed code ++
      (if issue.message = "" then [] else ' ' :: issue.message.toList), ?_⟩
    simp [rowLine, compactLine]

/-- **The lines of a compact report** on what was loaded are its expectations, fixture by fixture,
exactly if no message holds a line break. Each starts with the path of its fixture and the number of
its line. The expectations of a fixture come by line and by code, and those of one code are its
issues in the order of their declaration, or a single one if there is none. -/
theorem splitOn_compact_iff {loader : Loader} {tree : FileTree} {collection : Collection}
    (loaded : loader.load tree = .ok collection) (proper : tree.IsProper)
    (free : loader.SeesOneLineNames tree) :
    ((compact collection).splitOn '\n' =
        (if rows collection = [] then [[]] else (rows collection).map rowLine) ↔
      ∀ row ∈ rows collection, row.2.StaysOnLine) ∧
    (∀ row ∈ rows collection,
      row.1.text.toList ++ ':' :: (decimal row.2.line ++ [':']) <+: rowLine row) ∧
    ∀ found ∈ collection.fixtures,
      (Expectation.ofFixture found.fixture).Pairwise Expectation.NoLater ∧
      ∀ line code, (Expectation.ofFixture found.fixture).filter
          (fun expected => expected.line = line ∧ expected.code = code) =
        (((found.fixture.pragmaAt? line).bind fun pragma => pragma.issues? code).map
          (Expectation.ofIssues line code)).getD [] := by
  refine ⟨?_, fun row _ => isPrefix_rowLine row.1 row.2, fun found _ =>
    ⟨Expectation.ofFixture_pairwise found.fixture, Expectation.filter_ofFixture found.fixture⟩⟩
  have cut := splitOn_joinLines_iff (compactLines collection)
  simp only [compactLines_eq, List.map_eq_nil_iff, List.forall_mem_map] at cut
  rw [compact, compactLines_eq, cut]
  refine forall₂_congr fun row listed => ?_
  obtain ⟨found, member, seen, expected⟩ := mem_rows.mp listed
  have path : '\n' ∉ row.1.text.toList :=
    seen ▸ Loader.newline_notMem_path loaded proper free member
  have code := Loader.newline_notMem_code loaded member expected
  rw [rowLine, newline_mem_compactLine, or_iff_right path, or_iff_right code, not_not]

/-- A loader of a directory in which nothing is left out. -/
def wholeDirectory : Loader where
  root := ⟨"/w"⟩
  exclude := []
  languages := .builtin
  useIgnoreFiles := true

/-- A tree in which that directory holds a single file. -/
def oneFile (text : String) : FileTree :=
  FileTree.empty.addFile ["w", "a.go"] (Utf8.encode text.toList)

/-- What is loaded of it. -/
def oneFixture (text : String) : Collection :=
  wholeDirectory.collect (wholeDirectory.walk (oneFile text) ["w"])

/-- A line with two issues of one code, and a code without an issue. -/
def twoCodes : String := "x() // [E2]; [E1]: 3 \"bad\", 5\n"

theorem splitOn_compact_iff_twoCodes :
    wholeDirectory.load (oneFile twoCodes) = .ok (oneFixture twoCodes) ∧
      (compact (oneFixture twoCodes)).splitOn '\n' =
        ["a.go:1:3: [E1] bad".toList, "a.go:1:5: [E1]".toList, "a.go:1: [E2]".toList] := by
  have loaded : wholeDirectory.load (oneFile twoCodes) = .ok (oneFixture twoCodes) :=
    Loader.load_directory wholeDirectory _ ["w"] (by decide +kernel)
  have proper : (oneFile twoCodes).IsProper := by decide +kernel
  have free : wholeDirectory.SeesOneLineNames (oneFile twoCodes) :=
    Loader.seesOneLineNames_of_entries wholeDirectory (by decide +kernel)
  refine ⟨loaded, ?_⟩
  rw [(splitOn_compact_iff loaded proper free).1.mpr (by decide +kernel)]
  decide +kernel

/-- A line with one issue, whose message holds a line break. -/
def brokenMessage : String := "x() // [E1]: 3 \"two\\nlines\"\n"

/-- A message with a line break spreads one expectation over two lines of the report. -/
theorem splitOn_compact_lineBreak :
    wholeDirectory.load (oneFile brokenMessage) = .ok (oneFixture brokenMessage) ∧
      (∀ entry ∈ (oneFile brokenMessage).entries.entries, ∀ name ∈ entry.1, '\n' ∉ name.toList) ∧
      rows (oneFixture brokenMessage) =
        [(⟨"a.go"⟩, ⟨1, "E1", some ⟨3, "two\nlines", false⟩⟩)] ∧
      (compact (oneFixture brokenMessage)).splitOn '\n' =
        ["a.go:1:3: [E1] two".toList, "lines".toList] :=
  ⟨Loader.load_directory wholeDirectory _ ["w"] (by decide +kernel), by decide +kernel,
    by decide +kernel, by decide +kernel⟩

end Report

end CheckerFixtures
