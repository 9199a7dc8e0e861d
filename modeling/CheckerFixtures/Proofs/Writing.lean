/-
**Pragmas written out.**

A pragma can be written as one line of text: a clause for each code, a column and a message for each
issue, and a backslash in front of whatever would end a message, a line or a clause too early.
Reading that text gives the pragma back.

* `spellsPragma_write`: what is written is a text of the grammar;
* `parse?_writePragma`: it is read back to the pragma, blanks in front of it apart;
* `newline_notMem_writePragma`: it stays on one line.
-/

import CheckerFixtures.Proofs.ClauseGrammar
import CheckerFixtures.Text.Search

namespace CheckerFixtures

/-! ### The text of a pragma -/

/-- A character of a message as it is written. -/
def escapeChar (c : Char) : List Char :=
  if c = '"' then ['\\', '"']
  else if c = '\\' then ['\\', '\\']
  else if c = '\n' then ['\\', 'n']
  else if c = '\r' then ['\\', 'r']
  else [c]

def writeIssue (issue : Issue) : List Char :=
  Nat.toDigits 10 issue.column ++ ' ' :: '"' :: (issue.message.toList.flatMap escapeChar ++ ['"'])

/-- The issues of a code, each behind a blank, with commas between them. -/
def writeIssues (issues : List Issue) : List Char :=
  List.intercalate [','] (issues.map fun issue => ' ' :: writeIssue issue)

def writeClause (entry : String × List Issue) : List Char :=
  match entry.2 with
  | [] => '[' :: (entry.1.toList ++ [']'])
  | issues => '[' :: (entry.1.toList ++ ']' :: ':' :: writeIssues issues)

/-- The clauses of all codes; semicolons in messages are escaped, those between clauses are not. -/
def writePragma (pragma : Pragma) : List Char :=
  Clause.joinClauses (pragma.issues.entries.map writeClause)

/-- A pragma that can be written: it expects something, its codes are issue codes, its columns fit
a machine word, and nothing in it has been met. -/
structure Pragma.IsWritable (pragma : Pragma) : Prop where
  filled : pragma.issues.entries ≠ []
  codes : ∀ entry ∈ pragma.issues.entries, IsCode entry.1.toList
  columns : ∀ entry ∈ pragma.issues.entries, ∀ issue ∈ entry.2, issue.column < wordBound
  unmet : ∀ entry ∈ pragma.issues.entries, ∀ issue ∈ entry.2, issue.hit = false
  keys : pragma.hit.keys = pragma.issues.keys
  lowered : ∀ entry ∈ pragma.hit.entries, entry.2 = false

/-- A pragma that expects one code can be written. -/
theorem Pragma.IsWritable.single {code : String} {issues : List Issue} (isCode : IsCode code.toList)
    (columns : ∀ issue ∈ issues, issue.column < wordBound)
    (unmet : ∀ issue ∈ issues, issue.hit = false) :
    (Pragma.empty.expect code issues).IsWritable := by
  have entries : (Pragma.empty.expect code issues).issues.entries = [(code, issues)] := rfl
  have flags : (Pragma.empty.expect code issues).hit.entries = [(code, false)] := rfl
  constructor
  · rw [entries]
    exact List.cons_ne_nil _ _
  · rw [entries]
    exact List.forall_mem_singleton.mpr isCode
  · rw [entries]
    exact List.forall_mem_singleton.mpr columns
  · rw [entries]
    exact List.forall_mem_singleton.mpr unmet
  · rfl
  · rw [flags]
    exact List.forall_mem_singleton.mpr rfl

/-! ### What is written is a text of the grammar -/

theorem spellsChar_escapeChar (c : Char) : SpellsChar (escapeChar c) c := by
  unfold escapeChar
  split
  · rename_i quote
    rw [quote]
    exact .named (by decide)
  split
  · rename_i backslash
    rw [backslash]
    exact .named (by decide)
  split
  · rename_i newline
    rw [newline]
    exact .named (by decide)
  split
  · rename_i return'
    rw [return']
    exact .named (by decide)
  · rename_i notQuote notBackslash _ _
    exact .raw notQuote notBackslash

theorem spells_escape (message : List Char) : Spells (message.flatMap escapeChar) message := by
  induction message with
  | nil => exact .nil
  | cons c message ih =>
    rw [List.flatMap_cons]
    exact .cons (spellsChar_escapeChar c) ih

theorem issueOf_self {issue : Issue} (unmet : issue.hit = false) :
    issueOf (some issue.column) (some issue.message.toList) = issue := by
  obtain ⟨column, message, hit⟩ := issue
  cases unmet
  unfold issueOf
  rw [Option.getD_some, Option.getD_some, String.ofList_toList]

theorem spellsIssue_write {issue : Issue} (small : issue.column < wordBound)
    (unmet : issue.hit = false) : SpellsIssue (' ' :: writeIssue issue) issue := by
  have column : SpellsColumn (Nat.toDigits 10 issue.column) (some issue.column) :=
    .digits Nat.toDigits_ne_nil (Literal.denotes_toDigits issue.column) small
  have message := SpellsMessage.quoted (spells_escape issue.message.toList)
  have spelled := SpellsIssue.parts blanks_space column blanks_space message blanks_nil
    (.inl (by simp))
  rw [List.append_nil, issueOf_self unmet] at spelled
  exact spelled

theorem spellsIssues_write {first : Issue} {issues : List Issue}
    (small : ∀ issue ∈ first :: issues, issue.column < wordBound)
    (unmet : ∀ issue ∈ first :: issues, issue.hit = false) :
    SpellsIssues (writeIssues (first :: issues)) (first :: issues) := by
  have here := spellsIssue_write (small first List.mem_cons_self) (unmet first List.mem_cons_self)
  induction issues generalizing first with
  | nil =>
    unfold writeIssues
    rw [List.map_singleton, List.intercalate_singleton]
    exact .last here
  | cons second issues ih =>
    have smaller : ∀ issue ∈ second :: issues, issue.column < wordBound := fun issue member =>
      small issue (List.mem_cons_of_mem first member)
    have later : ∀ issue ∈ second :: issues, issue.hit = false := fun issue member =>
      unmet issue (List.mem_cons_of_mem first member)
    have next := spellsIssue_write (smaller second List.mem_cons_self)
      (later second List.mem_cons_self)
    have rest := ih smaller later next
    unfold writeIssues at rest ⊢
    rw [List.map_cons] at rest
    rw [List.map_cons, List.map_cons, List.intercalate_cons_cons, List.append_assoc]
    exact .cons here rest

theorem spellsClause_write {entry : String × List Issue} (code : IsCode entry.1.toList)
    (small : ∀ issue ∈ entry.2, issue.column < wordBound)
    (unmet : ∀ issue ∈ entry.2, issue.hit = false) : SpellsClause (writeClause entry) entry := by
  obtain ⟨name, issues⟩ := entry
  cases issues with
  | nil =>
    have bare := SpellsClause.bare blanks_nil code blanks_nil
    rw [String.ofList_toList] at bare
    exact bare
  | cons first issues =>
    have listed := SpellsClause.issues blanks_nil code (spellsIssues_write small unmet)
    rw [String.ofList_toList] at listed
    exact listed

/-- Spelled clauses put together are a spelled pragma. -/
theorem spellsPragma_joinClauses {write : String × List Issue → List Char}
    {entries : List (String × List Issue)} (some : entries ≠ [])
    (spelled : ∀ entry ∈ entries, SpellsClause (write entry) entry) :
    SpellsPragma (Clause.joinClauses (entries.map write)) entries := by
  induction entries with
  | nil => exact absurd rfl some
  | cons entry entries ih =>
    have here := spelled entry List.mem_cons_self
    cases entries with
    | nil =>
      rw [List.map_singleton, Clause.joinClauses_singleton]
      exact .last here
    | cons next entries =>
      have rest := ih (List.cons_ne_nil _ _) fun other member =>
        spelled other (List.mem_cons_of_mem entry member)
      have more : (next :: entries).map write ≠ [] := List.cons_ne_nil _ _
      rw [List.map_cons, Clause.joinClauses_cons _ more]
      exact .cons here rest

theorem spellsPragma_write {pragma : Pragma} (writable : pragma.IsWritable) :
    SpellsPragma (writePragma pragma) pragma.issues.entries :=
  spellsPragma_joinClauses writable.filled fun entry member =>
    spellsClause_write (writable.codes entry member) (writable.columns entry member)
      (writable.unmet entry member)

/-! ### Blanks in front -/

theorem escapeSemicolons_blanks {lead : List Char} (blanks : Blanks lead) (clause : List Char) :
    Clause.escapeSemicolons (lead ++ clause) = lead ++ Clause.escapeSemicolons clause := by
  induction lead with
  | nil => rfl
  | cons c lead ih =>
    obtain ⟨blank, later⟩ := blanks_of_cons blanks
    have notSemicolon : c ≠ ';' := ne_of_isBlank blank rfl
    rw [List.cons_append, Clause.escapeSemicolons_cons, if_neg notSemicolon, ih later]
    rfl

theorem SpellsClause.lead {lead clause : List Char} {expectation : String × List Issue}
    (blanks : Blanks lead) (spelled : SpellsClause clause expectation) :
    SpellsClause (lead ++ clause) expectation := by
  cases spelled with
  | bare leading code behind =>
    rw [← List.append_assoc]
    exact .bare (blanks_append blanks leading) code behind
  | colon leading code behind =>
    rw [← List.append_assoc]
    exact .colon (blanks_append blanks leading) code behind
  | issues leading code spelledIssues =>
    rw [← List.append_assoc]
    exact .issues (blanks_append blanks leading) code spelledIssues

theorem SpellsPragma.lead {lead text : List Char} {expectations : List (String × List Issue)}
    (blanks : Blanks lead) (spelled : SpellsPragma text expectations) :
    SpellsPragma (lead ++ text) expectations := by
  cases spelled with
  | last spelledClause =>
    rw [← escapeSemicolons_blanks blanks]
    exact .last (spelledClause.lead blanks)
  | cons spelledClause rest =>
    rw [← List.append_assoc, ← escapeSemicolons_blanks blanks]
    exact .cons (spelledClause.lead blanks) rest

/-! ### Reading back -/

/-- The issues that the entries of a map list for a code are what the map holds. -/
theorem issuesFor_entries {map : SortedMap String (List Issue)} {code : String}
    {issues : List Issue} (found : map.get? code = some issues) :
    issuesFor code map.entries = issues := by
  obtain ⟨entries, ascending⟩ := map
  change entries.lookup code = some issues at found
  induction entries with
  | nil => cases found
  | cons entry entries ih =>
    obtain ⟨other, listed⟩ := entry
    obtain ⟨below, sorted⟩ := List.pairwise_cons.mp ascending
    rw [SortedMap.lookup_entry] at found
    rw [Clause.issuesFor_cons]
    by_cases same : code = other
    · have absent : code ∉ codesOf entries := by
        intro member
        obtain ⟨later, inside, again⟩ := List.mem_map.mp member
        have less := below later inside
        rw [again, same] at less
        exact Std.lt_irrefl less
      rw [if_pos same] at found
      rw [if_pos same, Clause.issuesFor_eq_nil absent, List.append_nil]
      exact Option.some.inj found
    · rw [if_neg same] at found
      rw [if_neg same, List.nil_append]
      exact ih sorted found

/-- The entries of a pragma that can be written add up to it. -/
theorem collect_entries {pragma : Pragma} (writable : pragma.IsWritable) :
    Clause.collect pragma.issues.entries = pragma := by
  have named : ∀ code, code ∈ codesOf pragma.issues.entries ↔
      (pragma.issues.get? code).isSome = true := fun code => SortedMap.mem_keys_iff
  have flagged : ∀ code, code ∈ codesOf pragma.issues.entries ↔
      (pragma.hit.get? code).isSome = true := by
    intro code
    rw [← SortedMap.mem_keys_iff, writable.keys]
    rfl
  refine Clause.collect_eq _ ?_ ?_
  · intro code
    cases found : pragma.issues.get? code with
    | none => rw [if_neg (by rw [named, found]; simp)]
    | some issues => rw [if_pos (by rw [named, found]; rfl), issuesFor_entries found]
  · intro code
    cases found : pragma.hit.get? code with
    | none => rw [if_neg (by rw [flagged, found]; simp)]
    | some flag =>
      have lowered := writable.lowered _ (SortedMap.get?_eq_some_iff.mp found)
      rw [if_pos (by rw [flagged, found]; rfl), ← lowered]

/-- **A written pragma is read back**, blanks in front of it apart. -/
theorem parse?_writePragma {pragma : Pragma} (writable : pragma.IsWritable) {lead : List Char}
    (blanks : Blanks lead) : Clause.parse? (lead ++ writePragma pragma) = some pragma := by
  rw [Clause.parse?_of_spells ((spellsPragma_write writable).lead blanks),
    collect_entries writable]

/-! ### One line -/

theorem newline_notMem_escapeChar (c : Char) : '\n' ∉ escapeChar c := by
  unfold escapeChar
  split
  · decide
  split
  · decide
  split
  · decide
  split
  · decide
  · rename_i newline _
    intro member
    exact newline (List.mem_singleton.mp member).symm

theorem newline_notMem_writeIssue (issue : Issue) : '\n' ∉ writeIssue issue := by
  unfold writeIssue
  intro member
  rcases List.mem_append.mp member with digits | message
  · have digit := Nat.isDigit_of_mem_toDigits (by decide) (by decide) digits
    cases digit
  · simp only [List.mem_cons, List.mem_append, List.mem_flatMap, List.not_mem_nil, or_false] at message
    rcases message with wrong | wrong | ⟨c, _, inside⟩ | wrong
    · cases wrong
    · cases wrong
    · exact newline_notMem_escapeChar c inside
    · cases wrong

theorem newline_notMem_writeIssues (issues : List Issue) : '\n' ∉ writeIssues issues := by
  intro member
  rcases Text.mem_intercalate member with wrong | ⟨part, listed, inside⟩
  · cases List.mem_singleton.mp wrong
  · obtain ⟨issue, _, rfl⟩ := List.mem_map.mp listed
    rcases List.mem_cons.mp inside with wrong | inside
    · cases wrong
    · exact newline_notMem_writeIssue issue inside

theorem newline_notMem_writeClause {entry : String × List Issue} (code : IsCode entry.1.toList) :
    '\n' ∉ writeClause entry := by
  have notCode := code.newline_notMem
  unfold writeClause
  split
  · simp [notCode]
  · simp [notCode, newline_notMem_writeIssues]

theorem newline_notMem_escapeSemicolons {clause : List Char} (free : '\n' ∉ clause) :
    '\n' ∉ Clause.escapeSemicolons clause := by
  intro member
  obtain ⟨c, listed, inside⟩ := List.mem_flatMap.mp member
  split at inside
  · revert inside
    decide
  · rw [List.mem_singleton.mp inside] at free
    exact free listed

/-- **A written pragma stays on one line.** -/
theorem newline_notMem_writePragma {pragma : Pragma} (writable : pragma.IsWritable) :
    '\n' ∉ writePragma pragma := by
  intro member
  rcases Text.mem_intercalate member with wrong | ⟨part, listed, inside⟩
  · cases List.mem_singleton.mp wrong
  · obtain ⟨clause, written, rfl⟩ := List.mem_map.mp listed
    obtain ⟨entry, present, rfl⟩ := List.mem_map.mp written
    exact newline_notMem_escapeSemicolons
      (newline_notMem_writeClause (writable.codes entry present)) inside

end CheckerFixtures
