/-
**The kinds of written lines.**

A pragma can be written on a line of its own, behind some indentation, or at the end of a code line.
If the comment token holds no blank and does not occur in the code, the written comment is the one
that is found, even where the token occurs again in a message, and the line has the kind that was
meant.

* `firstOccurrence_of_solid`: the first occurrence of the token is the one that was written;
* `lineKind_ownLine`, `lineKind_codeLine`: the kind of a line with a comment of its own, and of code
  with or without a comment behind it;
* `lineKind_stripLast`: a carriage return at the end does not matter.
-/

import CheckerFixtures.Proofs.Comment
import CheckerFixtures.Proofs.LineEnds
import CheckerFixtures.Proofs.Pieces
import CheckerFixtures.Proofs.Writing

namespace CheckerFixtures

/-! ### Tokens without blanks -/

/-- A comment token that can be told from what stands around it: it is not empty and holds no
blank. -/
structure IsSolid (token : List Char) : Prop where
  filled : token ≠ []
  visible : ∀ c ∈ token, Text.isBlank c = false

theorem IsSolid.unseen {token : List Char} (solid : IsSolid token) {more : List Char}
    (blanks : Blanks more) : Unseen [token] more := by
  refine ⟨blanks, ?_⟩
  intro other member c blank inside
  rw [List.mem_singleton.mp member] at inside
  have visible := solid.visible c inside
  rw [blanks c blank] at visible
  cases visible

namespace Text

theorem not_infix_append_blanks {token : List Char} (solid : IsSolid token) {code : List Char}
    (absent : ¬ token <:+: code) {more : List Char} (blanks : Blanks more) :
    ¬ token <:+: code ++ more := by
  have apart := (solid.unseen blanks).apart token List.mem_cons_self
  rw [← after?_eq_none_iff, after?_append apart, after?_eq_none_iff.mpr absent]
  rfl

/-- What ends with a blank does not run into the token behind it. -/
theorem firstOccurrence_of_solid {token : List Char} (solid : IsSolid token) {before : List Char}
    (absent : ¬ token <:+: before)
    (apart : ∀ c, before.getLast? = some c → isBlank c = true) (body : List Char) :
    FirstOccurrence token (before ++ (token ++ body)) before body := by
  refine ⟨rfl, ?_⟩
  intro before' body' whole
  by_contra shorter
  rcases List.append_eq_append_iff.mp whole with ⟨left, rfl, -⟩ | ⟨left, rfl, overlap⟩
  · rw [List.length_append] at shorter
    omega
  · rcases List.append_eq_append_iff.mp overlap with ⟨rest, same, -⟩ | ⟨rest, same, -⟩
    · exact absent ⟨before', rest, by rw [List.append_assoc, ← same]⟩
    · -- the token begins in front and reaches beyond, so it holds the last blank
      cases last : left.getLast? with
      | none =>
        rw [List.getLast?_eq_none_iff.mp last, List.append_nil] at shorter
        exact shorter le_rfl
      | some c =>
        have blank : isBlank c = true := apart c (by rw [List.getLast?_append, last]; rfl)
        have inside : c ∈ token := by
          rw [same]
          exact List.mem_append_left rest (List.mem_of_getLast? last)
        rw [solid.visible c inside] at blank
        cases blank

/-! ### Trimmed lines -/

theorem trimEnd_isPrefix (text : List Char) : trimEnd text <+: text := by
  have suffix := List.dropWhile_suffix (l := text.reverse) isBlank
  have turned := List.reverse_prefix.mpr suffix
  rwa [List.reverse_reverse] at turned

theorem trimStart_visible {lead text : List Char} (blanks : Blanks lead)
    (visible : ∀ c, text.head? = some c → isBlank c = false) :
    trimStart (lead ++ text) = text :=
  Literal.dropWhile_run blanks visible

theorem prefix_trimEnd {token : List Char} (visible : ∀ c ∈ token, isBlank c = false)
    (rest : List Char) : token <+: trimEnd (token ++ rest) := by
  have kept : token.reverse.dropWhile isBlank = token.reverse := by
    refine Clause.skipBlanks_of_head ?_
    intro c first
    exact visible c (List.mem_reverse.mp (List.mem_of_head? first))
  unfold trimEnd
  rw [List.reverse_append, List.dropWhile_append]
  split
  · rw [kept, List.reverse_reverse]
  · rw [List.reverse_append, List.reverse_reverse]
    exact List.prefix_append token _

/-- A line of its own begins with its token. -/
theorem startsWith_ownLine {token lead : List Char} (solid : IsSolid token) (blanks : Blanks lead)
    (rest : List Char) : startsWith token (trim (lead ++ (token ++ rest))) = true := by
  have head : ∀ c, (token ++ rest).head? = some c → isBlank c = false := by
    intro c first
    cases token with
    | nil => exact absurd rfl solid.filled
    | cons d token =>
      rw [List.cons_append, List.head?_cons] at first
      rw [← Option.some.inj first]
      exact solid.visible d List.mem_cons_self
  unfold trim
  rw [startsWith_iff, trimStart_visible blanks head]
  exact prefix_trimEnd solid.visible rest

/-- Code in front of a comment hides its token from the beginning of the line. -/
theorem startsWith_codeLine {token code : List Char} (solid : IsSolid token)
    (absent : ¬ token <:+: code) (visible : ∃ c ∈ code, isBlank c = false) (rest : List Char) :
    startsWith token (trim (code ++ ' ' :: rest)) = false := by
  have inCode : ∀ {text : List Char}, text <+: trimStart code → text <:+: code := by
    intro text lead
    exact lead.isInfix.trans (List.dropWhile_suffix isBlank).isInfix
  have opened : trimStart (code ++ ' ' :: rest) = trimStart code ++ ' ' :: rest := by
    have filled : (code.dropWhile isBlank).isEmpty = false := by
      rw [List.isEmpty_eq_false_iff, ne_eq, dropWhile_eq_nil_iff]
      obtain ⟨c, member, notBlank⟩ := visible
      intro all
      rw [all c member] at notBlank
      cases notBlank
    unfold trimStart
    rw [List.dropWhile_append, filled]
    rfl
  cases starts : startsWith token (trim (code ++ ' ' :: rest)) with
  | false => rfl
  | true =>
    unfold trim at starts
    rw [startsWith_iff, opened] at starts
    obtain ⟨behind, whole⟩ := starts.trans (trimEnd_isPrefix _)
    rcases List.append_eq_append_iff.mp whole with ⟨left, same, -⟩ | ⟨left, same, overlap⟩
    · exact absurd (inCode ⟨left, same.symm⟩) absent
    · cases left with
      | nil =>
        rw [List.append_nil] at same
        exact absurd (inCode (same ▸ List.prefix_rfl)) absent
      | cons c left =>
        obtain ⟨rfl, -⟩ := List.cons.inj overlap
        have space := solid.visible ' ' (same ▸ List.mem_append_right _ List.mem_cons_self)
        cases space

end Text

/-! ### Kinds -/

theorem comment?_singleton (token line : List Char) :
    comment? [token] line = (Text.after? token line).map fun body => (token, body) := by
  unfold comment?
  rw [List.findSome?_cons, List.findSome?_nil]
  cases Text.after? token line <;> rfl

/-- The text of a comment behind its token. -/
def commentOf (token : List Char) (pragma : Pragma) : List Char :=
  token ++ ' ' :: writePragma pragma

section Kinds

variable {token : List Char} (solid : IsSolid token)

include solid

theorem lineKind_of_written {before : List Char} (absent : ¬ token <:+: before)
    (apart : ∀ c, before.getLast? = some c → Text.isBlank c = true) {pragma : Pragma}
    (writable : pragma.IsWritable) :
    lineKind [token] (before ++ commentOf token pragma) =
      if Text.startsWith token (Text.trim (before ++ commentOf token pragma)) then
        .standalone pragma
      else .trailing pragma := by
  have occurrence := Text.firstOccurrence_of_solid solid absent apart (' ' :: writePragma pragma)
  refine lineKind_of_some ?_ (parse?_writePragma writable blanks_space)
  unfold commentOf
  rw [comment?_singleton, Text.after?_of_firstOccurrence occurrence]
  rfl

/-- **A comment on a line of its own stands alone.** -/
theorem lineKind_ownLine {indent : List Char} (blanks : Blanks indent) {pragma : Pragma}
    (writable : pragma.IsWritable) :
    lineKind [token] (indent ++ commentOf token pragma) = .standalone pragma := by
  have absent : ¬ token <:+: indent := by
    intro inside
    have nothing : ¬ token <:+: [] := fun inside => solid.filled (List.infix_nil.mp inside)
    exact Text.not_infix_append_blanks solid nothing blanks inside
  have apart : ∀ c, indent.getLast? = some c → Text.isBlank c = true := fun c last =>
    blanks c (List.mem_of_getLast? last)
  rw [lineKind_of_written solid absent apart writable]
  exact if_pos (Text.startsWith_ownLine solid blanks (' ' :: writePragma pragma))

/-- **A comment behind code is trailing.** -/
theorem lineKind_codeLine {code : List Char} (absent : ¬ token <:+: code)
    (visible : ∃ c ∈ code, Text.isBlank c = false) {pragma : Pragma}
    (writable : pragma.IsWritable) :
    lineKind [token] (code ++ ' ' :: commentOf token pragma) = .trailing pragma := by
  have further : ¬ token <:+: code ++ [' '] :=
    Text.not_infix_append_blanks solid absent blanks_space
  have apart : ∀ c, (code ++ [' ']).getLast? = some c → Text.isBlank c = true := by
    intro c last
    rw [List.getLast?_concat] at last
    cases last
    rfl
  have kind := lineKind_of_written solid further apart writable
  rw [List.append_assoc, List.singleton_append,
    Text.startsWith_codeLine solid absent visible (commentOf token pragma)] at kind
  exact kind

omit solid in
/-- Code without the token is plain. -/
theorem lineKind_bareLine {code : List Char} (absent : ¬ token <:+: code) :
    lineKind [token] code = .plain := by
  refine lineKind_of_none ?_
  intro other body found
  rw [comment?_singleton, Text.after?_eq_none_iff.mpr absent] at found
  cases found

/-- A carriage return at the end of a line does not change its kind. -/
theorem lineKind_stripLast (line : List Char) :
    lineKind [token] (Text.stripLast '\r' line) = lineKind [token] line := by
  have blanks : Blanks ['\r'] := by decide
  rcases Text.eq_stripLast '\r' line with same | longer
  · rw [← same]
  · unfold lineKind
    conv => rhs; rw [longer]
    rw [annotation?_append (solid.unseen blanks)]

end Kinds

end CheckerFixtures
