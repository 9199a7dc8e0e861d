/-
**Collections as JSON.**

Records are written as objects with their fields in order of declaration, maps as objects in the
order of their keys. The content of a fixture is left out.

* `pragma?_ofPragma`: a pragma that was written is read back, if its columns fit.
-/

import CheckerFixtures.Collection
import CheckerFixtures.Json.Decode

namespace CheckerFixtures.Json

/-- A map with texts as keys. -/
def ofMap {α : Type} (encode : α → Json) (map : SortedMap String α) : Json :=
  obj (map.entries.map fun (key, value) => (key, encode value))

def ofIssue (issue : Issue) : Json :=
  obj [("column", nat issue.column), ("message", str issue.message), ("hit", bool issue.hit)]

def ofPragma (pragma : Pragma) : Json :=
  obj [("issues", ofMap (fun issues => arr (issues.map ofIssue)) pragma.issues),
    ("hit", ofMap bool pragma.hit)]

/-! ### Reading back -/

/-- Reading what was written, item by item. -/
theorem mapM_map {α β γ : Type} (encode : α → β) (read : β → Option γ) (result : α → γ)
    {items : List α} (each : ∀ item ∈ items, read (encode item) = some (result item)) :
    (items.map encode).mapM read = some (items.map result) := by
  induction items with
  | nil => rfl
  | cons item items ih =>
    have first := each item (List.mem_cons_self ..)
    have others := ih fun other member => each other (List.mem_cons_of_mem _ member)
    simp [List.mapM_cons, first, others]

/-- A map that was written is read back if its values are. -/
theorem map?_ofMap {α : Type} (encode : α → Json) (read : Json → Option α)
    (map : SortedMap String α)
    (each : ∀ entry ∈ map.entries, read (encode entry.2) = some entry.2) :
    map? read (ofMap encode map) = some map := by
  have entries := mapM_map (fun entry : String × α => (entry.1, encode entry.2))
    (fun entry : String × Json => (read entry.2).map fun value => (entry.1, value))
    id fun entry (member : entry ∈ map.entries) => by
      show (read (encode entry.2)).map _ = _
      rw [each entry member]
      rfl
  rw [List.map_id] at entries
  show (List.mapM _ _ >>= fun entries => some (SortedMap.ofList entries)) = _
  rw [entries]
  exact congrArg some (SortedMap.ofList_entries map)

/-- An issue that was written is read back, if its column fits. -/
theorem issue?_ofIssue {issue : Issue} (fits : issue.column < wordBound) :
    issue? (ofIssue issue) = some issue := by
  have column : word? (nat issue.column) = some issue.column := if_pos fits
  simp [issue?, ofIssue, fields?, member?, column, text?, truth?]

/-- A pragma that was written is read back, if its columns fit. -/
theorem pragma?_ofPragma {pragma : Pragma}
    (fit : ∀ entry ∈ pragma.issues.entries, ∀ issue ∈ entry.2, issue.column < wordBound) :
    pragma? (ofPragma pragma) = some pragma := by
  have issues := map?_ofMap (fun issues => arr (issues.map ofIssue)) (list? issue?) pragma.issues
    fun entry member => by
      have items := mapM_map ofIssue issue? id fun issue inside =>
        issue?_ofIssue (fit entry member issue inside)
      rw [List.map_id] at items
      exact items
  have hit := map?_ofMap bool truth? pragma.hit fun entry _ => rfl
  simp [pragma?, ofPragma, fields?, member?, issues, hit]

/-! ### Fixtures and collections -/

/-- A fixture. The lines are written as texts, as keys of an object have to be. -/
def ofFixture (fixture : Fixture) : Json :=
  obj [("name", str fixture.name), ("comment_prefixes", strings fixture.tokens),
    ("pragmas", obj (fixture.pragmas.entries.map fun (line, pragma) =>
      (String.ofList (Nat.toDigits 10 line), ofPragma pragma))),
    ("check_mode", str fixture.checkMode.name), ("issue_codes", strings fixture.issueCodes)]

def ofFoundFixture (found : FoundFixture) : Json :=
  obj [("path", str found.path.text), ("language", str found.language),
    ("file", ofFixture found.fixture)]

def ofCollection (collection : Collection) : Json :=
  obj [("fixtures", arr (collection.fixtures.map ofFoundFixture)),
    ("skipped", nat collection.skipped)]

end CheckerFixtures.Json
