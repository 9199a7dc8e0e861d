/-
**Parents and ancestors.**

The parent of a path is the path without its last component, however the path is written. So the
ancestors of a path are fronts of what it passes through.

* `parent?_cases`: the parent from the segments;
* `components_parent?`: the parent has all components but the last;
* `ancestors_eq`: the ancestors step by step;
* `components_of_mem_ancestors`: the components of an ancestor are a front of those of the path.
-/

import CheckerFixtures.Proofs.Segments
import Mathlib.Data.List.Infix

namespace CheckerFixtures.Path

/-! ### The parent -/

theorem tailSegments_eq {path : Path} {head : List Char} {tail : List (List Char)}
    (cut : path.segments = head :: tail) : path.tailSegments = tail.rdropWhile isSilent := by
  rw [tailSegments, cut]
  rfl

/-- The last of several segments that are no longer silent at the end names something. -/
theorem loud_of_rdropWhile_eq {tail front : List (List Char)} {last : List Char}
    (bared : tail.rdropWhile isSilent = front ++ [last]) : loud tail = loud front ++ [last] := by
  have isLoud : isSilent last = false := by
    have := List.rdropWhile_last_not isSilent tail (by rw [bared]; simp)
    simpa [bared] using this
  rw [← loud_rdropWhile, bared, loud_concat_of_loud front (Bool.eq_false_iff.mp isLoud)]

/-- Without a segment that names something, only a head can be left out. -/
theorem parent?_of_silent {path : Path} {head : List Char} {tail : List (List Char)}
    (cut : path.segments = head :: tail) (silent : tail.rdropWhile isSilent = []) :
    path.parent? = if head = [] then none else some ⟨""⟩ := by
  have first : path.headSegment = head := by
    rw [headSegment, cut]
    rfl
  rw [parent?, tailSegments_eq cut, silent, first]

/-- The parent of a path is made of what is left without the last segment that names something. -/
theorem parent?_of_rdropWhile_eq {path : Path} {head last : List Char}
    {tail front : List (List Char)} (cut : path.segments = head :: tail)
    (bared : tail.rdropWhile isSilent = front ++ [last]) :
    path.parent? = some (if front.rdropWhile isSilent = [] then
      if head = [] then ⟨"/"⟩ else ofSegments [head]
      else ofSegments (head :: front.rdropWhile isSilent)) := by
  have first : path.headSegment = head := by
    rw [headSegment, cut]
    rfl
  have left : ((front ++ [last]).dropLast.reverse.dropWhile isSilent).reverse =
      front.rdropWhile isSilent := by
    rw [List.dropLast_concat]
    rfl
  rw [parent?, tailSegments_eq cut, bared, first]
  cases whole : front ++ [last] with
  | nil => simp at whole
  | cons segment rest =>
    rw [whole] at left
    simp only [left]
    cases front.rdropWhile isSilent <;> rfl

/-- **Either a path has nothing behind its head to leave out, or its parent keeps the head** and
all but the last of what the rest names. -/
theorem parent?_cases {path : Path} {head : List Char} {tail : List (List Char)}
    (cut : path.segments = head :: tail) :
    (loud tail = [] ∧ path.parent? = if head = [] then none else some ⟨""⟩) ∨
      ∃ parent below last, path.parent? = some parent ∧ parent.segments = head :: below ∧
        (head = [] → below ≠ []) ∧ loud tail = loud below ++ [last] := by
  have noSlash : ∀ segment ∈ head :: tail, '/' ∉ segment := by
    rw [← cut]
    exact fun _ => slash_notMem_segments
  rcases List.eq_nil_or_concat (tail.rdropWhile isSilent) with none | ⟨front, last, bared⟩
  · refine .inl ⟨?_, parent?_of_silent cut none⟩
    rw [← loud_rdropWhile, none]
    rfl
  · rw [List.concat_eq_append] at bared
    have left := loud_of_rdropWhile_eq bared
    rw [← loud_rdropWhile front] at left
    have inside : front.rdropWhile isSilent <+: tail :=
      (List.rdropWhile_prefix isSilent front).trans
        ((List.prefix_append front [last]).trans (bared ▸ List.rdropWhile_prefix isSilent tail))
    refine .inr ?_
    rw [parent?_of_rdropWhile_eq cut bared]
    by_cases bare : front.rdropWhile isSilent = []
    · rw [if_pos bare]
      rw [bare] at left
      by_cases empty : head = []
      · rw [if_pos empty, empty]
        exact ⟨⟨"/"⟩, [[]], last, rfl, rfl, by simp, left⟩
      · rw [if_neg empty]
        refine ⟨_, [], last, rfl, segments_ofSegments (List.cons_ne_nil _ _) ?_,
          fun wrong => absurd wrong empty, left⟩
        simpa using noSlash head List.mem_cons_self
    · rw [if_neg bare]
      refine ⟨_, _, last, rfl, segments_ofSegments (List.cons_ne_nil _ _) ?_, fun _ => bare, left⟩
      intro segment member
      rcases List.mem_cons.mp member with rfl | later
      · exact noSlash _ List.mem_cons_self
      · exact noSlash _ (List.mem_cons_of_mem _ (inside.subset later))

/-- **The parent has all components but the last.** -/
theorem components_parent? {path parent : Path} (found : path.parent? = some parent) :
    parent.components = path.components.dropLast := by
  obtain ⟨head, tail, cut⟩ := path.exists_segments
  rw [components_eq cut]
  rcases parent?_cases cut with ⟨silent, single⟩ | ⟨_, below, last, kept, parentCut, some, left⟩
  · rw [single] at found
    by_cases empty : head = []
    · rw [if_pos empty] at found
      cases found
    · rw [if_neg empty] at found
      cases found
      obtain ⟨component, alone⟩ :=
        List.length_eq_one_iff.mp (length_headOf (.inl empty : head ≠ [] ∨ tail ≠ []))
      have bare : components ⟨""⟩ = [] := by decide
      rw [silent, alone, bare]
      rfl
  · rw [kept] at found
    cases found
    have filled : tail ≠ [] := by
      rintro rfl
      simp [loud] at left
    rw [components_eq parentCut, left, List.map_append, ← List.append_assoc, List.map_singleton,
      List.dropLast_concat, headOf_congr fun empty => iff_of_false (some empty) filled]

/-- The parent of an absolute path is absolute. -/
theorem isAbsolute_parent? {path parent : Path} (absolute : path.isAbsolute = true)
    (found : path.parent? = some parent) : parent.isAbsolute = true := by
  obtain ⟨head, tail, cut⟩ := path.exists_segments
  obtain ⟨rfl, -⟩ := (isAbsolute_iff cut).mp absolute
  rcases parent?_cases cut with ⟨-, single⟩ | ⟨_, below, last, kept, parentCut, some, -⟩
  · rw [single, if_pos rfl] at found
    cases found
  · rw [kept] at found
    cases found
    exact (isAbsolute_iff parentCut).mpr ⟨rfl, some rfl⟩

/-- A path that ends in a name has a parent. -/
theorem exists_parent?_of_name {path : Path} {front : List Component} {name : String}
    (last : path.components = front ++ [.name name]) : ∃ parent, path.parent? = some parent := by
  obtain ⟨head, tail, cut⟩ := path.exists_segments
  rcases parent?_cases cut with ⟨silent, single⟩ | ⟨parent, _, _, kept, -⟩
  · by_cases empty : head = []
    · rw [components_eq cut, silent, headOf, if_pos empty, List.map_nil, List.append_nil] at last
      split at last
      · simp at last
      · have := congrArg List.getLast? last
        simp at this
    · exact ⟨_, single.trans (if_neg empty)⟩
  · exact ⟨parent, kept⟩

/-! ### Ancestors -/

/-- A path with a parent passes through something. -/
theorem components_ne_nil_of_parent? {path parent : Path} (found : path.parent? = some parent) :
    path.components ≠ [] := by
  obtain ⟨head, tail, cut⟩ := path.exists_segments
  rw [components_eq cut]
  rcases parent?_cases cut with ⟨-, single⟩ | ⟨_, below, last, -, -, -, left⟩
  · have some : head ≠ [] := by
      rintro rfl
      rw [single, if_pos rfl] at found
      cases found
    have filled := length_headOf (.inl some : head ≠ [] ∨ tail ≠ [])
    intro none
    rw [(List.append_eq_nil_iff.mp none).1] at filled
    cases filled
  · simp [left]

/-- Each segment that names something takes a character and a slash. -/
theorem length_le_intercalate (head : List Char) (tail : List (List Char)) :
    head.length + 2 * (loud tail).length ≤ (List.intercalate ['/'] (head :: tail)).length := by
  induction tail generalizing head with
  | nil => simp [loud]
  | cons second tail ih =>
    have rest := ih second
    rw [List.intercalate_cons_cons, List.length_append, List.length_append, List.length_singleton]
    by_cases silent : isSilent second = true
    · rw [loud_cons_of_silent silent]
      omega
    · have some : second ≠ [] := by
        rintro rfl
        exact silent rfl
      have long := List.length_pos_iff.mpr some
      rw [loud_cons_of_loud silent, List.length_cons]
      omega

/-- A path passes through no more than it has characters. -/
theorem length_components_le (path : Path) : path.components.length ≤ path.text.length := by
  obtain ⟨head, tail, cut⟩ := path.exists_segments
  have long := length_le_intercalate head tail
  rw [← cut, ← toList_text, String.length_toList] at long
  rw [components_eq cut, List.length_append, List.length_map]
  by_cases some : head ≠ [] ∨ tail ≠ []
  · rw [length_headOf some]
    cases head with
    | cons c head =>
      rw [List.length_cons] at long
      omega
    | nil =>
      have absolute := (isAbsolute_iff cut).mpr ⟨rfl, some.resolve_left (not_not_intro rfl)⟩
      have filled : path.text.length ≠ 0 := by
        intro empty
        rw [← String.length_toList, List.length_eq_zero_iff] at empty
        simp [isAbsolute, empty] at absolute
      rw [List.length_nil] at long
      omega
  · rw [not_or, not_not, not_not] at some
    rw [some.1, some.2]
    exact Nat.zero_le _

/-- Steps beyond the number of components change nothing. -/
theorem ancestorsWithin_eq {path : Path} {first second : Nat}
    (enough : path.components.length ≤ first) (enough' : path.components.length ≤ second) :
    ancestorsWithin first path = ancestorsWithin second path := by
  have single : ∀ {path : Path} {bound : Nat}, path.components.length ≤ 0 →
      ancestorsWithin bound path = [path] := by
    intro path bound none
    cases bound with
    | zero => rfl
    | succ bound =>
      cases found : path.parent? with
      | none => rw [ancestorsWithin, found]
      | some parent =>
        exact absurd (List.length_eq_zero_iff.mp (Nat.le_zero.mp none))
          (components_ne_nil_of_parent? found)
  induction first generalizing path second with
  | zero => rw [single enough, single enough]
  | succ first ih =>
    cases second with
    | zero => rw [single enough', single enough']
    | succ second =>
      rw [ancestorsWithin, ancestorsWithin]
      cases found : path.parent? with
      | none => rfl
      | some parent =>
        have shorter : parent.components.length = path.components.length - 1 := by
          rw [components_parent? found, List.length_dropLast]
        exact congrArg (path :: ·) (ih (by omega) (by omega))

/-- **The ancestors of a path** are the path and the ancestors of its parent. -/
theorem ancestors_eq (path : Path) :
    path.ancestors = path :: (path.parent?.map ancestors).getD [] := by
  have extended : path.ancestors = ancestorsWithin (path.text.length + 1) path :=
    ancestorsWithin_eq path.length_components_le (Nat.le_succ_of_le path.length_components_le)
  rw [extended, ancestorsWithin]
  cases found : path.parent? with
  | none => rfl
  | some parent =>
    have shorter : parent.components.length ≤ path.text.length := by
      have := path.length_components_le
      rw [components_parent? found, List.length_dropLast]
      omega
    exact congrArg (path :: ·) (ancestorsWithin_eq shorter parent.length_components_le)

theorem mem_ancestors_iff {path ancestor : Path} :
    ancestor ∈ path.ancestors ↔
      ancestor = path ∨ ∃ parent, path.parent? = some parent ∧ ancestor ∈ parent.ancestors := by
  rw [ancestors_eq, List.mem_cons]
  cases path.parent? <;> simp

/-- What holds of a path and of each parent holds of all ancestors. -/
theorem ancestors_induction {motive : Path → Prop} {path : Path} (start : motive path)
    (above : ∀ path parent, motive path → path.parent? = some parent → motive parent) :
    ∀ ancestor ∈ path.ancestors, motive ancestor := by
  have bounded : ∀ bound path, motive path → ∀ ancestor ∈ ancestorsWithin bound path,
      motive ancestor := by
    intro bound
    induction bound with
    | zero =>
      intro path start ancestor member
      rw [ancestorsWithin, List.mem_singleton] at member
      exact member ▸ start
    | succ bound ih =>
      intro path start ancestor member
      rcases List.mem_cons.mp member with rfl | later
      · exact start
      · cases found : path.parent? with
        | none => simp [found] at later
        | some parent =>
          rw [found] at later
          exact ih parent (above path parent start found) ancestor later
  exact bounded _ path start

/-- **The components of an ancestor are a front of those of the path.** -/
theorem components_of_mem_ancestors {path ancestor : Path}
    (member : ancestor ∈ path.ancestors) : ancestor.components <+: path.components := by
  refine ancestors_induction (motive := fun ancestor => ancestor.components <+: path.components)
    List.prefix_rfl ?_ ancestor member
  intro below parent front found
  rw [components_parent? found]
  exact (List.dropLast_prefix _).trans front

/-- The ancestors of an absolute path are absolute. -/
theorem isAbsolute_of_mem_ancestors {path ancestor : Path} (absolute : path.isAbsolute = true)
    (member : ancestor ∈ path.ancestors) : ancestor.isAbsolute = true :=
  ancestors_induction (motive := fun ancestor => ancestor.isAbsolute = true) absolute
    (fun _ _ => isAbsolute_parent?) ancestor member

end CheckerFixtures.Path
