/-
**Annotations survive a file.**

Code lines are given pragmas: some on lines of their own above the code, one perhaps behind it. The
lines are written out as a text, and the text is read as a fixture. Its table holds an entry for
each code line that was given a pragma, under the number that the line has in the text, and the
entry is what the pragmas of the line merge to; there is no other entry.

* `map_lineKind_write`: the written lines have the kinds that were meant;
* `groupOf_lines_textOf`: neither line ends nor a missing last line change the groups;
* `groupOf_code`, `exists_of_groupOf_ne_nil`: the groups of the written lines are those of the code
  lines, and there are no others;
* `get?_pragmas_write`: the table of the written text.
-/

import CheckerFixtures.Proofs.Table
import CheckerFixtures.Proofs.WrittenLines

namespace CheckerFixtures

/-! ### Annotated code -/

/-- A code line and the pragmas that are written for it. -/
structure CodeLine where
  code : List Char
  /-- The pragmas on lines of their own above the code, each with its indentation. -/
  above : List (List Char × Pragma)
  /-- The pragma behind the code. -/
  behind : Option Pragma

namespace CodeLine

/-- The lines that are written for a code line, which is the last of them. -/
def write (token : List Char) (line : CodeLine) : List (List Char) :=
  line.above.map (fun entry => entry.1 ++ commentOf token entry.2) ++
    [match line.behind with
      | none => line.code
      | some pragma => line.code ++ ' ' :: commentOf token pragma]

/-- The pragmas of a code line, top to bottom. -/
def pragmas (line : CodeLine) : List Pragma := line.above.map Prod.snd ++ line.behind.toList

/-- The kinds of the written lines. -/
def kinds (line : CodeLine) : List LineKind :=
  line.above.map (fun entry => .standalone entry.2) ++
    [match line.behind with
      | none => .plain
      | some pragma => .trailing pragma]

/-- The code is one line without the token, indentations are blanks, and a pragma behind the code
has something to stand behind. -/
structure IsWritable (token : List Char) (line : CodeLine) : Prop where
  single : '\n' ∉ line.code
  free : ¬ token <:+: line.code
  above : ∀ entry ∈ line.above, Blanks entry.1 ∧ '\n' ∉ entry.1 ∧ entry.2.IsWritable
  behind : ∀ pragma, line.behind = some pragma →
    pragma.IsWritable ∧ ∃ c ∈ line.code, Text.isBlank c = false

theorem length_write (token : List Char) (line : CodeLine) :
    (line.write token).length = line.above.length + 1 := by
  unfold write
  rw [List.length_append, List.length_map, List.length_singleton]

theorem length_kinds (line : CodeLine) : line.kinds.length = line.above.length + 1 := by
  unfold kinds
  rw [List.length_append, List.length_map, List.length_singleton]

section Written

variable {token : List Char} (solid : IsSolid token) {line : CodeLine}
  (writable : line.IsWritable token)

include solid writable

/-- **The written lines have the kinds that were meant.** -/
theorem map_lineKind_write : (line.write token).map (lineKind [token]) = line.kinds := by
  unfold write kinds
  rw [List.map_append, List.map_map, List.map_singleton]
  congr 1
  · refine List.map_congr_left ?_
    intro entry member
    obtain ⟨blanks, _, pragma⟩ := writable.above entry member
    exact lineKind_ownLine solid blanks pragma
  · congr 1
    cases behind : line.behind with
    | none => exact lineKind_bareLine writable.free
    | some pragma =>
      obtain ⟨written, visible⟩ := writable.behind pragma behind
      exact lineKind_codeLine solid writable.free visible written

theorem newline_notMem_write : ∀ text ∈ line.write token, '\n' ∉ text := by
  have notToken : '\n' ∉ token := by
    intro member
    have visible := solid.visible _ member
    cases visible
  have comment : ∀ {pragma : Pragma}, pragma.IsWritable → '\n' ∉ commentOf token pragma := by
    intro pragma written
    unfold commentOf
    simp [notToken, newline_notMem_writePragma written]
  intro text member
  rcases List.mem_append.mp member with own | last
  · obtain ⟨entry, listed, rfl⟩ := List.mem_map.mp own
    obtain ⟨_, notIndent, written⟩ := writable.above entry listed
    simp [notIndent, comment written]
  · rw [List.mem_singleton.mp last]
    cases behind : line.behind with
    | none => exact writable.single
    | some pragma => simp [writable.single, comment (writable.behind pragma behind).1]

end Written

end CodeLine

/-! ### Texts -/

/-- Lines put together to a text, with or without a line feed at the very end. -/
def textOf (ended : Bool) : List (List Char) → List Char
  | [] => []
  | [line] => if ended then line ++ ['\n'] else line
  | line :: lines => line ++ '\n' :: textOf ended lines

theorem groupOf_concat_plain (kinds : List LineKind) (number : Nat) :
    groupOf (kinds ++ [.plain]) number = groupOf kinds number := by
  by_cases last : number = kinds.length + 1
  · rw [last, groupOf_concat_last]
  by_cases behind : number = kinds.length + 2
  · have beyond : groupOf kinds (kinds.length + 2) = [] := groupOf_eq_nil_of_lt (by omega)
    rw [behind, groupOf_concat_behind, beyond]
  · exact groupOf_concat_other .plain last behind

/-- The lines of a text are the lines that it was put together from, but an empty last one may be
missing. -/
theorem kinds_textOf {token : List Char} (solid : IsSolid token) (ended : Bool)
    {lines : List (List Char)} (single : ∀ line ∈ lines, '\n' ∉ line) :
    (Text.lines (textOf ended lines)).map (lineKind [token]) = lines.map (lineKind [token]) ∨
      (Text.lines (textOf ended lines)).map (lineKind [token]) ++ [.plain] =
        lines.map (lineKind [token]) := by
  have none : Text.lines [] = [] := rfl
  induction lines with
  | nil => exact .inl rfl
  | cons line lines ih =>
    have here := single line List.mem_cons_self
    cases lines with
    | nil =>
      cases ended with
      | true =>
        left
        show (Text.lines (line ++ '\n' :: [])).map _ = _
        rw [Text.lines_line here, none, List.map_singleton, List.map_singleton, lineKind_stripLast solid]
      | false =>
        show (Text.lines line).map _ = _ ∨ (Text.lines line).map _ ++ _ = _
        by_cases filled : line = []
        · right
          have nothing : ¬ token <:+: [] := fun inside => solid.filled (List.infix_nil.mp inside)
          rw [filled, none, List.map_nil, List.nil_append, List.map_singleton,
            lineKind_bareLine nothing]
        · left
          rw [Text.lines_unended here filled]
    | cons next lines =>
      have later := ih fun other member => single other (List.mem_cons_of_mem line member)
      show (Text.lines (line ++ '\n' :: textOf ended (next :: lines))).map _ = _ ∨
        (Text.lines (line ++ '\n' :: textOf ended (next :: lines))).map _ ++ _ = _
      rw [Text.lines_line here, List.map_cons, List.map_cons, lineKind_stripLast solid, List.cons_append]
      exact later.imp (congrArg _) (congrArg _)

/-- **Putting lines together keeps their groups.** -/
theorem groupOf_lines_textOf {token : List Char} (solid : IsSolid token) (ended : Bool)
    {lines : List (List Char)} (single : ∀ line ∈ lines, '\n' ∉ line) (number : Nat) :
    groupOf ((Text.lines (textOf ended lines)).map (lineKind [token])) number =
      groupOf (lines.map (lineKind [token])) number := by
  rcases kinds_textOf solid ended single with same | shorter
  · rw [same]
  · rw [← shorter, groupOf_concat_plain]

/-! ### Groups -/

/-- A run of standalone lines belongs to the line right behind it. -/
theorem groupOf_append_standalone (kinds : List LineKind) (run : List Pragma) (number : Nat) :
    groupOf (kinds ++ run.map .standalone) number =
      if number = kinds.length + run.length + 1 then groupOf kinds (kinds.length + 1) ++ run
      else if number ≤ kinds.length then groupOf kinds number
      else [] := by
  induction run using List.reverseRecOn generalizing number with
  | nil =>
    rw [List.map_nil, List.append_nil, List.append_nil, List.length_nil, Nat.add_zero]
    split
    · rename_i last
      rw [last]
    split
    · rfl
    · exact groupOf_eq_nil_of_lt (by omega)
  | append_singleton run pragma ih =>
    have length : (kinds ++ run.map LineKind.standalone).length = kinds.length + run.length := by
      rw [List.length_append, List.length_map]
    rw [List.map_append, List.map_singleton, ← List.append_assoc, List.length_append,
      List.length_singleton]
    by_cases behind : number = kinds.length + run.length + 2
    · have group := groupOf_concat_behind (kinds ++ run.map .standalone) (.standalone pragma)
      rw [length, ih, if_pos rfl] at group
      rw [behind, group, if_pos (by omega)]
      exact List.append_assoc ..
    by_cases last : number = kinds.length + run.length + 1
    · have group := groupOf_concat_last (kinds ++ run.map .standalone) (.standalone pragma)
      rw [length] at group
      rw [last, group, if_neg (by omega), if_neg (by omega)]
    · have next : number ≠ kinds.length + (run.length + 1) + 1 := by omega
      rw [groupOf_concat_other _ (by rwa [length]) (by rwa [length]), ih, if_neg last, if_neg next]

/-- One more code line has its own pragmas, if no run was open above it, and concerns no other
line. -/
theorem groupOf_append_kinds {kinds : List LineKind} (closed : groupOf kinds (kinds.length + 1) = [])
    (line : CodeLine) (number : Nat) :
    groupOf (kinds ++ line.kinds) number =
      if number = kinds.length + line.above.length + 1 then line.pragmas
      else if number ≤ kinds.length then groupOf kinds number
      else [] := by
  have run := groupOf_append_standalone kinds (line.above.map Prod.snd)
  have length : (kinds ++ (line.above.map Prod.snd).map LineKind.standalone).length =
      kinds.length + line.above.length := by
    rw [List.length_append, List.length_map, List.length_map]
  rw [closed, List.nil_append, List.length_map] at run
  unfold CodeLine.kinds CodeLine.pragmas
  have split : line.above.map (fun entry => LineKind.standalone entry.2) =
      (line.above.map Prod.snd).map .standalone := by
    rw [List.map_map]
    rfl
  rw [split, ← List.append_assoc]
  by_cases last : number = kinds.length + line.above.length + 1
  · have group := groupOf_concat_last (kinds ++ (line.above.map Prod.snd).map .standalone)
    rw [length, run, if_pos rfl] at group
    rw [last, if_pos rfl, group]
    cases line.behind with
    | none => exact (List.append_nil _).symm
    | some pragma => rfl
  rw [if_neg last]
  by_cases behind : number = kinds.length + line.above.length + 2
  · have group := groupOf_concat_behind (kinds ++ (line.above.map Prod.snd).map .standalone)
    rw [length] at group
    rw [behind, group, if_neg (by omega)]
    cases line.behind <;> rfl
  · rw [groupOf_concat_other _ (by rwa [length]) (by rwa [length]), run, if_neg last]

/-- Behind annotated code no run is open. -/
theorem groupOf_flatMap_kinds_closed (annotated : List CodeLine) :
    groupOf (annotated.flatMap CodeLine.kinds) ((annotated.flatMap CodeLine.kinds).length + 1) =
      [] := by
  induction annotated using List.reverseRecOn with
  | nil => rfl
  | append_singleton annotated line ih =>
    rw [List.flatMap_append, List.flatMap_singleton, groupOf_append_kinds ih, List.length_append,
      CodeLine.length_kinds, if_neg (by omega), if_neg (by omega)]

/-- **Each code line has its own pragmas**, wherever it stands. -/
theorem groupOf_code (before after : List CodeLine) (line : CodeLine) :
    groupOf ((before ++ line :: after).flatMap CodeLine.kinds)
      ((before.flatMap CodeLine.kinds).length + line.above.length + 1) = line.pragmas := by
  induction after using List.reverseRecOn with
  | nil =>
    rw [List.flatMap_append, List.flatMap_singleton,
      groupOf_append_kinds (groupOf_flatMap_kinds_closed before), if_pos rfl]
  | append_singleton after last ih =>
    have inside : (before.flatMap CodeLine.kinds).length + line.above.length + 1 ≤
        ((before ++ line :: after).flatMap CodeLine.kinds).length := by
      rw [List.flatMap_append, List.flatMap_cons, List.length_append, List.length_append,
        CodeLine.length_kinds]
      omega
    rw [← List.cons_append, ← List.append_assoc, List.flatMap_append, List.flatMap_singleton,
      groupOf_append_kinds (groupOf_flatMap_kinds_closed _), if_neg (by omega), if_pos inside, ih]

/-- **No line but the code lines has pragmas.** -/
theorem exists_of_groupOf_ne_nil {annotated : List CodeLine} {number : Nat}
    (filled : groupOf (annotated.flatMap CodeLine.kinds) number ≠ []) :
    ∃ before line after, annotated = before ++ line :: after ∧
      number = (before.flatMap CodeLine.kinds).length + line.above.length + 1 := by
  induction annotated using List.reverseRecOn with
  | nil => exact absurd (groupOf_nil number) filled
  | append_singleton annotated last ih =>
    rw [List.flatMap_append, List.flatMap_singleton,
      groupOf_append_kinds (groupOf_flatMap_kinds_closed annotated)] at filled
    by_cases here : number = (annotated.flatMap CodeLine.kinds).length + last.above.length + 1
    · exact ⟨annotated, last, [], rfl, here⟩
    · rw [if_neg here] at filled
      by_cases inside : number ≤ (annotated.flatMap CodeLine.kinds).length
      · rw [if_pos inside] at filled
        obtain ⟨before, line, after, rfl, same⟩ := ih filled
        refine ⟨before, line, after ++ [last], ?_, same⟩
        rw [List.append_assoc, List.cons_append]
      · rw [if_neg inside] at filled
        exact absurd rfl filled

/-! ### The table -/

theorem length_flatMap_write (token : List Char) (annotated : List CodeLine) :
    (annotated.flatMap (CodeLine.write token)).length =
      (annotated.flatMap CodeLine.kinds).length := by
  rw [List.length_flatMap, List.length_flatMap]
  congr 1
  refine List.map_congr_left ?_
  intro line _
  rw [CodeLine.length_write, CodeLine.length_kinds]

/-- The groups of a written text are those of the kinds that were meant. -/
theorem groupOf_kindsOf_write {token : String} (solid : IsSolid token.toList)
    {annotated : List CodeLine} (writable : ∀ line ∈ annotated, line.IsWritable token.toList)
    (ended : Bool) (number : Nat) :
    groupOf (kindsOf [token]
        (Text.lines (textOf ended (annotated.flatMap (CodeLine.write token.toList))))) number =
      groupOf (annotated.flatMap CodeLine.kinds) number := by
  have usable : token ≠ "" := by
    rintro rfl
    exact solid.filled rfl
  have single : ∀ text ∈ annotated.flatMap (CodeLine.write token.toList), '\n' ∉ text := by
    intro text member
    obtain ⟨line, listed, written⟩ := List.mem_flatMap.mp member
    exact CodeLine.newline_notMem_write solid (writable line listed) text written
  have written : (annotated.flatMap (CodeLine.write token.toList)).map (lineKind [token.toList]) =
      annotated.flatMap CodeLine.kinds := by
    rw [List.map_flatMap]
    exact List.flatMap_congr fun line member =>
      CodeLine.map_lineKind_write solid (writable line member)
  rw [kindsOf, searched_singleton usable, groupOf_lines_textOf solid ended single, written]

/-- **Annotations survive a file**: a code line has an entry under its number if pragmas were
written for it, which is what they merge to, and there is no other entry. -/
theorem get?_pragmas_write (name : String) {token : String} (solid : IsSolid token.toList)
    {annotated : List CodeLine} (writable : ∀ line ∈ annotated, line.IsWritable token.toList)
    (ended : Bool) (number : Nat) (pragma : Pragma) :
    (Fixture.ofText name
        (String.ofList (textOf ended (annotated.flatMap (CodeLine.write token.toList))))
        [token]).pragmas.get? number = some pragma ↔
      ∃ before line after, annotated = before ++ line :: after ∧
        number = (before.flatMap (CodeLine.write token.toList)).length + line.above.length + 1 ∧
        mergeAll line.pragmas = some pragma := by
  unfold Fixture.ofText
  rw [String.toList_ofList, get?_pragmas_ofLines, groupOf_kindsOf_write solid writable]
  constructor
  · intro merged
    have filled : groupOf (annotated.flatMap CodeLine.kinds) number ≠ [] := by
      intro empty
      rw [empty] at merged
      cases merged
    obtain ⟨before, line, after, rfl, rfl⟩ := exists_of_groupOf_ne_nil filled
    rw [groupOf_code] at merged
    exact ⟨before, line, after, rfl, by rw [length_flatMap_write], merged⟩
  · rintro ⟨before, line, after, rfl, rfl, merged⟩
    rw [length_flatMap_write, groupOf_code]
    exact merged

/-- The token occurs again in the message, which also holds a semicolon and a quote. -/
theorem get?_pragmas_write_slashes :
    (Fixture.ofText "a" (String.ofList (textOf false ((
        [⟨['x'], [([' '], Pragma.empty.expect "A" [⟨3, "//;\"", false⟩])],
          some (Pragma.empty.expect "B" [])⟩] : List CodeLine).flatMap
        (CodeLine.write "//".toList)))) ["//"]).pragmas.get? 2 =
      some ((Pragma.empty.expect "A" [⟨3, "//;\"", false⟩]).extend
        (Pragma.empty.expect "B" [])) := by
  have above : (Pragma.empty.expect "A" [⟨3, "//;\"", false⟩]).IsWritable :=
    .single (by decide) (by decide) (by decide)
  have behind : (Pragma.empty.expect "B" []).IsWritable :=
    .single (by decide) (by decide) (by decide)
  have written : CodeLine.IsWritable "//".toList
      ⟨['x'], [([' '], Pragma.empty.expect "A" [⟨3, "//;\"", false⟩])],
        some (Pragma.empty.expect "B" [])⟩ := by
    refine ⟨by decide, by decide, ?_, ?_⟩
    · exact List.forall_mem_singleton.mpr ⟨by decide, by decide, above⟩
    · rintro pragma ⟨⟩
      exact ⟨behind, 'x', List.mem_cons_self, rfl⟩
  have solid : IsSolid "//".toList := by
    refine ⟨by decide, ?_⟩
    intro c member
    rw [List.eq_of_mem_replicate (n := 2) (a := '/') member]
    rfl
  exact (get?_pragmas_write "a" solid (List.forall_mem_singleton.mpr written) false 2 _).mpr
    ⟨[], _, [], rfl, rfl, rfl⟩

end CheckerFixtures
