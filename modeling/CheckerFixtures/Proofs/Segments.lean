/-
**Paths as segments.**

A path and its segments say the same: no segment holds a slash, and slashes between the segments
make the path again. What a path passes through can be told from its segments.

* `segments_ofSegments`, `ofSegments_segments`: a path is its segments;
* `components_eq`: the components from the segments;
* `segments_join`: a joined path has the segments of both;
* `components_of_trunk`, `components_child`: names behind a path add their components.
-/

import CheckerFixtures.Path
import Mathlib.Data.List.DropRight

namespace CheckerFixtures

/-- No piece between separators holds one. -/
theorem Text.notMem_of_mem_splitOn {separator : Char} {text piece : List Char}
    (member : piece ∈ text.splitOn separator) : separator ∉ piece := by
  induction text generalizing piece with
  | nil =>
    rw [List.splitOn_nil, List.mem_singleton] at member
    rw [member]
    exact List.not_mem_nil
  | cons c text ih =>
    rw [List.splitOn_cons_eq_if_modifyHead] at member
    by_cases separates : c = separator
    · rw [if_pos (by simpa using separates)] at member
      rcases List.mem_cons.mp member with rfl | later
      · exact List.not_mem_nil
      · exact ih later
    · rw [if_neg (by simpa using separates)] at member
      obtain ⟨head, tail, cut⟩ := List.exists_cons_of_ne_nil (List.splitOn_ne_nil separator text)
      rw [cut, List.modifyHead_cons] at member
      rcases List.mem_cons.mp member with rfl | later
      · intro inside
        rcases List.mem_cons.mp inside with same | inside
        · exact separates same.symm
        · exact ih (cut ▸ List.mem_cons_self) inside
      · exact ih (cut ▸ List.mem_cons_of_mem _ later)

namespace Path

/-! ### Cutting at slashes -/

theorem segments_ne_nil (path : Path) : path.segments ≠ [] := List.splitOn_ne_nil _ _

theorem exists_segments (path : Path) : ∃ head tail, path.segments = head :: tail :=
  List.exists_cons_of_ne_nil path.segments_ne_nil

/-- No segment holds a slash. -/
theorem slash_notMem_segments {path : Path} {segment : List Char}
    (member : segment ∈ path.segments) : '/' ∉ segment :=
  Text.notMem_of_mem_splitOn member

/-- Segments without slashes are read back from the path that they make. -/
theorem segments_ofSegments {segments : List (List Char)} (some : segments ≠ [])
    (noSlash : ∀ segment ∈ segments, '/' ∉ segment) :
    (ofSegments segments).segments = segments := by
  rw [Path.segments, ofSegments, String.toList_ofList, List.splitOn_intercalate '/' noSlash some]

/-- A path is made again from its segments. -/
theorem ofSegments_segments (path : Path) : ofSegments path.segments = path := by
  rw [ofSegments, segments, List.intercalate_splitOn, String.ofList_toList]

theorem toList_text (path : Path) :
    path.text.toList = List.intercalate ['/'] path.segments := by
  rw [segments, List.intercalate_splitOn]

/-- A path is absolute if it is empty in front of the first slash. -/
theorem isAbsolute_iff {path : Path} {head : List Char} {tail : List (List Char)}
    (cut : path.segments = head :: tail) :
    path.isAbsolute = true ↔ head = [] ∧ tail ≠ [] := by
  have noSlash : '/' ∉ head := slash_notMem_segments (cut ▸ List.mem_cons_self)
  rw [isAbsolute, decide_eq_true_iff, toList_text, cut]
  cases tail with
  | nil =>
    rw [List.intercalate_singleton]
    refine iff_of_false ?_ (by simp)
    intro first
    exact noSlash (List.mem_of_mem_head? first)
  | cons second tail =>
    rw [List.intercalate_cons_cons]
    cases head with
    | nil => simp
    | cons c head =>
      refine iff_of_false ?_ (by simp)
      intro first
      exact noSlash (List.mem_of_mem_head? (l := c :: head) first)

/-! ### Components -/

/-- The segments that name something. -/
def loud (segments : List (List Char)) : List (List Char) :=
  segments.filter fun segment => !isSilent segment

theorem loud_append (first second : List (List Char)) :
    loud (first ++ second) = loud first ++ loud second :=
  List.filter_append ..

theorem loud_cons_of_silent {segment : List Char} (silent : isSilent segment = true)
    (rest : List (List Char)) : loud (segment :: rest) = loud rest :=
  List.filter_cons_of_neg (by simp [silent])

theorem loud_cons_of_loud {segment : List Char} (isLoud : ¬ isSilent segment = true)
    (rest : List (List Char)) : loud (segment :: rest) = segment :: loud rest :=
  List.filter_cons_of_pos (by simp [isLoud])

theorem loud_concat_of_silent (front : List (List Char)) {last : List Char}
    (silent : isSilent last = true) : loud (front ++ [last]) = loud front := by
  rw [loud_append, loud_cons_of_silent silent]
  exact List.append_nil _

theorem loud_concat_of_loud (front : List (List Char)) {last : List Char}
    (isLoud : ¬ isSilent last = true) : loud (front ++ [last]) = loud front ++ [last] := by
  rw [loud_append, loud_cons_of_loud isLoud]
  rfl

theorem loud_rdropWhile (segments : List (List Char)) :
    loud (segments.rdropWhile isSilent) = loud segments := by
  induction segments using List.reverseRecOn with
  | nil => rfl
  | append_singleton segments last ih =>
    rw [List.rdropWhile_concat]
    by_cases silent : isSilent last
    · rw [if_pos silent, ih, loud_concat_of_silent segments silent]
    · rw [if_neg silent]

/-- What the segment in front of the first slash names, given those behind it. -/
def headOf (head : List Char) (tail : List (List Char)) : List Component :=
  if head = [] then if tail = [] then [] else [.root]
  else if head = ['.'] then [.current]
  else [componentOf head]

/-- The components of a path from its segments. -/
theorem components_eq {path : Path} {head : List Char} {tail : List (List Char)}
    (cut : path.segments = head :: tail) :
    path.components = headOf head tail ++ (loud tail).map componentOf := by
  have front : path.headComponents = headOf head tail := by
    unfold headComponents headOf headSegment
    rw [cut, List.headD_cons]
    by_cases absolute : path.isAbsolute = true
    · obtain ⟨rfl, some⟩ := (isAbsolute_iff cut).mp absolute
      rw [if_pos absolute, if_pos rfl, if_neg some]
    · rw [if_neg absolute]
      by_cases empty : head = []
      · have none : tail = [] := by
          by_contra some
          exact absolute ((isAbsolute_iff cut).mpr ⟨empty, some⟩)
        rw [if_pos empty, if_pos empty, if_pos none]
      · rw [if_neg empty, if_neg empty]
  rw [components, front, cut]
  rfl

/-- Of what stands behind the first slash, only whether there is one counts. -/
theorem headOf_congr {head : List Char} {tail other : List (List Char)}
    (same : head = [] → (tail = [] ↔ other = [])) : headOf head tail = headOf head other := by
  unfold headOf
  by_cases empty : head = []
  · simp only [if_pos empty, same empty]
  · rw [if_neg empty, if_neg empty]

theorem length_headOf {head : List Char} {tail : List (List Char)} (some : head ≠ [] ∨ tail ≠ []) :
    (headOf head tail).length = 1 := by
  unfold headOf
  rcases some with some | some
  · rw [if_neg some]
    split <;> rfl
  · rw [if_neg some]
    split
    · rfl
    · split <;> rfl

/-! ### Joining -/

/-- The segments of a path, without an empty one at the end. -/
def trunk (path : Path) : List (List Char) :=
  if path.segments.getLast? = some [] then path.segments.dropLast else path.segments

/-- Only an empty segment at the end can be missing from the trunk. -/
theorem segments_eq_trunk (path : Path) :
    path.segments = path.trunk ++ [[]] ∨
      path.segments = path.trunk ∧ path.segments.getLast? ≠ some [] := by
  unfold trunk
  split
  · rename_i ended
    exact .inl (List.dropLast_append_getLast? [] ended).symm
  · rename_i filled
    exact .inr ⟨rfl, filled⟩

/-- One more part behind others is joined with the separator in front. -/
theorem intercalate_concat {parts : List (List Char)} (some : parts ≠ []) (last : List Char) :
    List.intercalate ['/'] (parts ++ [last]) = List.intercalate ['/'] parts ++ '/' :: last := by
  induction parts with
  | nil => exact absurd rfl some
  | cons part parts ih =>
    cases parts with
    | nil => simp [List.intercalate_cons_cons]
    | cons second parts =>
      rw [List.cons_append, List.cons_append, List.intercalate_cons_cons,
        List.intercalate_cons_cons, ← List.cons_append, ih (by simp), List.append_assoc,
        List.append_assoc, List.append_assoc]

/-- The last segment is empty if the path is, or ends in a slash. -/
theorem getLast?_segments_iff (path : Path) :
    path.segments.getLast? = some [] ↔
      path.text = "" ∨ path.text.toList.getLast? = some '/' := by
  have empty : path.text = "" ↔ path.text.toList = [] := by
    rw [← String.toList_inj, String.toList_empty]
  obtain ⟨front, last, cut⟩ : ∃ front last, path.segments = front ++ [last] :=
    ⟨_, _, (List.dropLast_concat_getLast path.segments_ne_nil).symm⟩
  have noSlash : '/' ∉ last := slash_notMem_segments (cut ▸ List.mem_concat_self)
  rw [empty, toList_text, cut, List.getLast?_concat, Option.some_inj]
  by_cases single : front = []
  · rw [single, List.nil_append, List.intercalate_singleton]
    constructor
    · exact .inl
    · rintro (none | slash)
      · exact none
      · exact absurd (List.mem_of_getLast? slash) noSlash
  · rw [intercalate_concat single]
    constructor
    · rintro rfl
      exact .inr (List.getLast?_concat ..)
    · rintro (none | slash)
      · simp at none
      · by_contra some
        rw [List.getLast?_append_cons, List.getLast?_cons_of_ne_nil some] at slash
        exact noSlash (List.mem_of_getLast? slash)

/-- **A joined path has the segments of both.** -/
theorem segments_join {base path : Path} (relative : path.isAbsolute = false) :
    (base.join path).segments = base.trunk ++ path.segments := by
  have noSlash := getLast?_segments_iff base
  unfold join trunk
  rw [if_neg (by simp [relative])]
  by_cases ended : base.text = "" ∨ base.text.toList.getLast? = some '/'
  · rw [if_pos ended, if_pos (noSlash.mpr ended)]
    rcases ended with none | slash
    · have cut : base.segments = [[]] := by
        rw [segments, none]
        rfl
      rw [cut]
      simp [segments, none]
    · obtain ⟨front, made⟩ : ∃ front, base.text.toList = front ++ ['/'] :=
        ⟨_, (List.dropLast_append_getLast? '/' slash).symm⟩
      have cut : base.segments = front.splitOn '/' ++ [[]] := by
        rw [segments, made, List.splitOn_append_cons_self, List.splitOn_nil]
      rw [cut, List.dropLast_concat, segments, String.toList_append, made, List.append_assoc,
        List.singleton_append, List.splitOn_append_cons_self]
      rfl
  · rw [if_neg ended, if_neg (mt noSlash.mp ended), segments, String.toList_append,
      String.toList_append, List.append_assoc]
    exact List.splitOn_append_cons_self ..

/-- The trunk passes through the same as the path. -/
theorem loud_trunk (path : Path) : loud path.trunk = loud path.segments := by
  rcases path.segments_eq_trunk with cut | ⟨cut, -⟩
  · rw [cut, loud_concat_of_silent _ rfl]
  · rw [cut]

/-! ### Names -/

/-- A segment that names an entry of a directory. -/
structure IsNameSegment (segment : List Char) : Prop where
  noSlash : '/' ∉ segment
  isLoud : isSilent segment = false
  notParent : segment ≠ ['.', '.']

instance (segment : List Char) : Decidable (IsNameSegment segment) :=
  decidable_of_iff ('/' ∉ segment ∧ isSilent segment = false ∧ segment ≠ ['.', '.'])
    ⟨fun ⟨noSlash, isLoud, notParent⟩ => ⟨noSlash, isLoud, notParent⟩,
      fun named => ⟨named.noSlash, named.isLoud, named.notParent⟩⟩

theorem IsNameSegment.ne_nil {segment : List Char} (named : IsNameSegment segment) :
    segment ≠ [] := by
  rintro rfl
  cases named.isLoud

theorem IsNameSegment.ne_dot {segment : List Char} (named : IsNameSegment segment) :
    segment ≠ ['.'] := by
  rintro rfl
  cases named.isLoud

theorem IsNameSegment.componentOf_eq {segment : List Char} (named : IsNameSegment segment) :
    componentOf segment = .name (String.ofList segment) :=
  if_neg named.notParent

theorem IsNameSegment.loud_singleton {segment : List Char} (named : IsNameSegment segment) :
    loud [segment] = [segment] :=
  loud_cons_of_loud (Bool.eq_false_iff.mp named.isLoud) []

/-- A name is a path of one segment. -/
theorem segments_name {name : String} (noSlash : '/' ∉ name.toList) :
    segments ⟨name⟩ = [name.toList] := by
  have made : (⟨name⟩ : Path) = ofSegments [name.toList] := by
    rw [ofSegments, List.intercalate_singleton, String.ofList_toList]
  rw [made, segments_ofSegments (by simp) (by simpa using noSlash)]

theorem isAbsolute_name {name : String} (noSlash : '/' ∉ name.toList) :
    isAbsolute ⟨name⟩ = false := by
  rw [Bool.eq_false_iff]
  intro absolute
  exact ((isAbsolute_iff (segments_name noSlash)).mp absolute).2 rfl

theorem segments_child (base : Path) {name : String} (noSlash : '/' ∉ name.toList) :
    (base.child name).segments = base.trunk ++ [name.toList] := by
  rw [child, segments_join (isAbsolute_name noSlash), segments_name noSlash]

theorem trunk_child (base : Path) {name : String} (noSlash : '/' ∉ name.toList)
    (some : name.toList ≠ []) : (base.child name).trunk = base.trunk ++ [name.toList] := by
  rw [trunk, segments_child base noSlash, List.getLast?_concat, if_neg (by simpa using some)]

/-- A name comes behind a slash, unless there is nothing in front. -/
theorem toList_child {base : Path} {name : String} (front : base.trunk ≠ [])
    (noSlash : '/' ∉ name.toList) :
    (base.child name).text.toList =
      List.intercalate ['/'] base.trunk ++ '/' :: name.toList := by
  rw [toList_text, segments_child base noSlash, intercalate_concat front]

theorem loud_of_named {segments : List (List Char)}
    (named : ∀ segment ∈ segments, IsNameSegment segment) : loud segments = segments := by
  refine List.filter_eq_self.mpr ?_
  intro segment member
  rw [(named segment member).isLoud]
  rfl

theorem isNameSegment_of_mem_map {names : List String}
    (named : ∀ name ∈ names, IsNameSegment name.toList) :
    ∀ segment ∈ names.map String.toList, IsNameSegment segment := by
  intro segment member
  obtain ⟨name, listed, rfl⟩ := List.mem_map.mp member
  exact named name listed

theorem map_componentOf_names {names : List String}
    (named : ∀ name ∈ names, IsNameSegment name.toList) :
    (names.map String.toList).map componentOf = names.map .name := by
  rw [List.map_map]
  refine List.map_congr_left fun name listed => ?_
  exact (named name listed).componentOf_eq.trans (congrArg _ String.ofList_toList)

theorem headOf_of_named {head : List Char} (named : IsNameSegment head)
    (tail : List (List Char)) : headOf head tail = [componentOf head] := by
  unfold headOf
  rw [if_neg named.ne_nil, if_neg named.ne_dot]

/-- Names behind the trunk of a path add their components. -/
theorem components_of_trunk {base path : Path} {more : List (List Char)}
    (cut : path.segments = base.trunk ++ more) (some : more ≠ [])
    (named : ∀ segment ∈ more, IsNameSegment segment) :
    path.components = base.components ++ more.map componentOf := by
  -- behind a head, the names join the tail
  have extended : ∀ {head tail other}, base.segments = head :: tail → loud other = loud tail →
      (head = [] → tail ≠ []) → path.segments = head :: (other ++ more) →
      path.components = base.components ++ more.map componentOf := by
    intro head tail other baseCut same absolute pathCut
    rw [components_eq baseCut, components_eq pathCut, loud_append, same, loud_of_named named,
      List.map_append, List.append_assoc]
    congr 1
    refine headOf_congr fun empty => ?_
    simp [absolute empty, some]
  rcases base.segments_eq_trunk with whole | ⟨whole, filled⟩
  · cases front : base.trunk with
    | nil =>
      rw [front, List.nil_append] at whole cut
      obtain ⟨first, rest, rfl⟩ := List.exists_cons_of_ne_nil some
      rw [components_eq whole, components_eq cut,
        headOf_of_named (named first List.mem_cons_self),
        loud_of_named fun segment member => named segment (List.mem_cons_of_mem _ member)]
      rfl
    | cons head tail =>
      rw [front] at whole cut
      exact extended whole (loud_concat_of_silent tail rfl).symm (by simp) cut
  · obtain ⟨head, tail, front⟩ := base.exists_segments
    rw [← whole, front] at cut
    refine extended front rfl ?_ cut
    rintro rfl rfl
    exact filled (congrArg List.getLast? front)

/-- A name in a directory adds a component. -/
theorem components_child (base : Path) {name : String} (named : IsNameSegment name.toList) :
    (base.child name).components = base.components ++ [.name name] := by
  have last : componentOf name.toList = .name name := by
    rw [named.componentOf_eq, String.ofList_toList]
  rw [components_of_trunk (segments_child base named.noSlash) (by simp) (by simpa using named),
    List.map_singleton, last]

end Path

end CheckerFixtures
