/-
**Where paths lead.**

In a tree without links a path leads to the place that its components spell out: a name goes down,
two dots go up. A tree is proper if its entries have names that a file can have and lie in
directories.

* `place_of_locate`: a path that can be followed leads where its components say;
* `placeFrom_join`: a joined path leads on from where the first one leads;
* `placeFrom_pathOf`: the path of a place leads there;
* `IsProper.name_of_locate`: in a proper tree, a path that leads to a file ends in a name;
* `isFile_congr`: only the directories on the way and the end of a path matter.
-/

import CheckerFixtures.FileTree
import CheckerFixtures.Proofs.Segments
import Mathlib.Data.List.Infix

namespace CheckerFixtures

open CheckerFixtures.Path (Component IsNameSegment loud)

/-! ### Places by components -/

namespace Path

/-- One step along a path. -/
def Component.step (place : Place) : Component → Place
  | root => []
  | current => place
  | parent => place.dropLast
  | name text => place ++ [text]

/-- Where components lead from a place. -/
def placeFrom (place : Place) (components : List Component) : Place :=
  components.foldl Component.step place

theorem placeFrom_append (place : Place) (first second : List Component) :
    placeFrom place (first ++ second) = placeFrom (placeFrom place first) second :=
  List.foldl_append

theorem placeFrom_names (place names : Place) :
    placeFrom place (names.map .name) = place ++ names := by
  induction names generalizing place with
  | nil => exact (List.append_nil place).symm
  | cons name names ih =>
    rw [List.map_cons, placeFrom, List.foldl_cons]
    exact (ih (place ++ [name])).trans (List.append_cons ..).symm

/-- What the first segment names leads where the segment does, from the place where the path
begins. -/
theorem placeFrom_headOf (start : Place) {path : Path} {head : List Char}
    {tail : List (List Char)} (cut : path.segments = head :: tail) :
    placeFrom start (headOf head tail) =
      placeFrom (if path.isAbsolute then [] else start) ((loud [head]).map componentOf) := by
  rw [headOf]
  by_cases absolute : path.isAbsolute = true
  · obtain ⟨rfl, some⟩ := (isAbsolute_iff cut).mp absolute
    rw [if_pos rfl, if_neg some, if_pos absolute]
    rfl
  · rw [if_neg absolute]
    by_cases empty : head = []
    · have none : tail = [] := by
        by_contra some
        exact absolute ((isAbsolute_iff cut).mpr ⟨empty, some⟩)
      rw [empty, none]
      rfl
    · rw [if_neg empty]
      by_cases dot : head = ['.']
      · rw [if_pos dot, dot]
        rfl
      · have isLoud : ¬ isSilent head = true := by simp [isSilent, empty, dot]
        rw [if_neg dot, loud_cons_of_loud isLoud]
        rfl

/-- Where the segments of a path lead is where its components lead. -/
theorem placeFrom_components (start : Place) (path : Path) :
    placeFrom start path.components =
      placeFrom (if path.isAbsolute then [] else start)
        ((loud path.segments).map componentOf) := by
  obtain ⟨head, tail, cut⟩ := path.exists_segments
  rw [components_eq cut, cut, placeFrom_append, placeFrom_headOf start cut, ← placeFrom_append,
    ← List.map_append, ← loud_append, List.singleton_append]

theorem placeFrom_of_isAbsolute {path : Path} (absolute : path.isAbsolute = true)
    (start other : Place) : placeFrom start path.components = placeFrom other path.components := by
  rw [placeFrom_components, placeFrom_components other, if_pos absolute, if_pos absolute]

theorem placeFrom_begin (start : Place) (path : Path) :
    placeFrom (if path.isAbsolute then [] else start) path.components =
      placeFrom start path.components := by
  split
  · rename_i absolute
    exact placeFrom_of_isAbsolute absolute [] start
  · rfl

/-- A relative path joined to another one is absolute if that is. -/
theorem isAbsolute_join {base path : Path} (relative : path.isAbsolute = false) :
    (base.join path).isAbsolute = base.isAbsolute := by
  unfold join
  rw [if_neg (by simp [relative])]
  by_cases empty : base.text = ""
  · rw [if_pos (.inl empty), empty, String.empty_append, relative, isAbsolute, empty]
    rfl
  · have some : base.text.toList ≠ [] := by
      rwa [← String.toList_inj, String.toList_empty] at empty
    unfold isAbsolute
    split
    · rw [String.toList_append, List.head?_append_of_ne_nil _ some]
    · rw [String.toList_append, String.toList_append, List.append_assoc,
        List.head?_append_of_ne_nil _ some]

/-- A path joined to an absolute one is absolute. -/
theorem isAbsolute_join_of_isAbsolute {base : Path} (absolute : base.isAbsolute = true)
    (path : Path) : (base.join path).isAbsolute = true := by
  cases given : path.isAbsolute with
  | true => rw [join_absolute given, given]
  | false => rw [isAbsolute_join given, absolute]

/-- **A joined path leads on from where the first one leads.** -/
theorem placeFrom_join (start : Place) (base path : Path) :
    placeFrom start (base.join path).components =
      placeFrom (placeFrom start base.components) path.components := by
  by_cases absolute : path.isAbsolute = true
  · rw [join_absolute absolute, placeFrom_of_isAbsolute absolute]
  · have relative : path.isAbsolute = false := Bool.eq_false_iff.mpr absolute
    rw [placeFrom_components, placeFrom_components start base, placeFrom_components _ path,
      isAbsolute_join relative, segments_join relative, loud_append, loud_trunk, List.map_append,
      placeFrom_append, if_neg absolute]

end Path

/-! ### Paths of places -/

namespace FileTree

/-- The path of a place as segments. -/
theorem segments_pathOf {place : Place} (named : ∀ name ∈ place, IsNameSegment name.toList) :
    (pathOf place).segments =
      [] :: if place = [] then [[]] else place.map String.toList := by
  have made : pathOf place =
      Path.ofSegments ([] :: if place = [] then [[]] else place.map String.toList) := by
    unfold pathOf Path.ofSegments
    congr 1
    rw [← String.toList_inj, String.toList_ofList, String.toList_append,
      String.toList_intercalate]
    cases place with
    | nil => rfl
    | cons name place =>
      rw [if_neg (by simp), List.map_cons, List.intercalate_cons_cons]
      rfl
  rw [made, Path.segments_ofSegments (by simp)]
  intro segment member
  rcases List.mem_cons.mp member with rfl | member
  · exact List.not_mem_nil
  · split at member
    · rw [List.mem_singleton.mp member]
      exact List.not_mem_nil
    · obtain ⟨name, listed, rfl⟩ := List.mem_map.mp member
      exact (named name listed).noSlash

theorem trunk_pathOf {place : Place} (named : ∀ name ∈ place, IsNameSegment name.toList) :
    (pathOf place).trunk = [] :: place.map String.toList := by
  unfold Path.trunk
  rw [segments_pathOf named]
  rcases List.eq_nil_or_concat place with rfl | ⟨front, name, rfl⟩
  · rfl
  · rw [List.concat_eq_append] at named ⊢
    have some : name.toList ≠ [] := (named name List.mem_concat_self).ne_nil
    have cut : ([] :: if front ++ [name] = [] then [[]] else (front ++ [name]).map String.toList) =
        ([] :: front.map String.toList) ++ [name.toList] := by simp
    rw [cut, List.getLast?_concat, if_neg (by simpa using some)]
    simp

theorem isAbsolute_pathOf (place : Place) : (pathOf place).isAbsolute = true := by
  unfold pathOf Path.isAbsolute
  rw [String.toList_append]
  rfl

/-- What the path of a place passes through. -/
theorem components_pathOf {place : Place} (named : ∀ name ∈ place, IsNameSegment name.toList) :
    (pathOf place).components = .root :: place.map .name := by
  rw [Path.components_eq (segments_pathOf named)]
  by_cases top : place = []
  · rw [top]
    rfl
  · rw [if_neg top, Path.loud_of_named (Path.isNameSegment_of_mem_map named),
      Path.map_componentOf_names named, Path.headOf, if_pos rfl, if_neg (by simpa using top)]
    rfl

/-- The path of a place leads there. -/
theorem placeFrom_pathOf (start : Place) {place : Place}
    (named : ∀ name ∈ place, IsNameSegment name.toList) :
    Path.placeFrom start (pathOf place).components = place := by
  rw [components_pathOf named]
  exact (Path.placeFrom_names [] place).trans (List.nil_append place)

/-! ### Following -/

/-- A step is made from a directory, and a name must not be too long. -/
theorem follow_cons_eq_ok_iff {tree : FileTree} {start place : Place} {segment : List Char}
    {rest : List (List Char)} :
    tree.follow start (segment :: rest) = .ok place ↔
      tree.get? start = some .directory ∧
        (Path.isSilent segment = false → segment ≠ ['.', '.'] →
          (Utf8.encode segment).length ≤ longestName) ∧
        tree.follow (Path.placeFrom start ((loud [segment]).map Path.componentOf)) rest =
          .ok place := by
  rw [follow]
  cases tree.get? start with
  | none => simp
  | some entry =>
    cases entry with
    | file bytes => simp
    | directory =>
      dsimp only
      by_cases silent : Path.isSilent segment = true
      · rw [if_pos silent, Path.loud_cons_of_silent silent]
        simp [silent, Path.placeFrom, loud]
      · have next : Path.placeFrom start ((loud [segment]).map Path.componentOf) =
            (Path.componentOf segment).step start := by
          rw [Path.loud_cons_of_loud silent]
          rfl
        rw [if_neg silent, next, Path.componentOf]
        by_cases up : segment = ['.', '.']
        · rw [if_pos up, if_pos up]
          simp [up, Path.Component.step]
        · rw [if_neg up, if_neg up]
          by_cases long : longestName < (Utf8.encode segment).length
          · rw [if_pos long]
            simp [silent, up, Nat.not_le.mpr long]
          · rw [if_neg long]
            simp [Nat.not_lt.mp long, Path.Component.step]

/-- A path that can be followed leads where its segments say. -/
theorem place_of_follow {tree : FileTree} {start place : Place} {segments : List (List Char)}
    (followed : tree.follow start segments = .ok place) :
    place = Path.placeFrom start ((loud segments).map Path.componentOf) := by
  induction segments generalizing start with
  | nil =>
    cases followed
    rfl
  | cons segment rest ih =>
    rw [ih (follow_cons_eq_ok_iff.mp followed).2.2, ← Path.placeFrom_append, ← List.map_append,
      ← Path.loud_append, List.singleton_append]

theorem follow_append (tree : FileTree) (start : Place) (first second : List (List Char)) :
    tree.follow start (first ++ second) =
      (tree.follow start first).bind fun place => tree.follow place second := by
  induction first generalizing start with
  | nil => rfl
  | cons segment first ih =>
    rw [List.cons_append, follow, follow]
    split
    · rfl
    · rfl
    · split
      · exact ih _
      · split
        · exact ih _
        · split
          · rfl
          · exact ih _

/-- What it means that a path leads to an entry. -/
theorem locate_eq_ok_iff {tree : FileTree} {start place : Place} {path : Path} {entry : Entry} :
    tree.locate start path = .ok (place, entry) ↔
      path.text ≠ "" ∧ '\x00' ∉ path.text.toList ∧ path.text.utf8ByteSize ≤ longestPath ∧
        tree.follow (if path.isAbsolute then [] else start) path.segments = .ok place ∧
          tree.get? place = some entry := by
  unfold locate
  constructor
  · intro located
    split at located
    · cases located
    · rename_i some
      split at located
      · cases located
      · rename_i noNul
        split at located
        · cases located
        · rename_i short
          split at located
          · cases located
          · rename_i reached followed
            split at located
            · cases located
            · rename_i found there
              cases located
              exact ⟨some, by simpa using noNul, Nat.not_lt.mp short, followed, there⟩
  · rintro ⟨some, noNul, short, followed, there⟩
    rw [if_neg some, if_neg (by simpa using noNul), if_neg (Nat.not_lt.mpr short), followed]
    dsimp only
    rw [there]

/-- **A path that can be followed leads where its components say.** -/
theorem place_of_locate {tree : FileTree} {start place : Place} {path : Path} {entry : Entry}
    (located : tree.locate start path = .ok (place, entry)) :
    place = Path.placeFrom start path.components := by
  obtain ⟨-, -, -, followed, -⟩ := locate_eq_ok_iff.mp located
  rw [Path.placeFrom_components, place_of_follow followed]

theorem exists_locate_of_isFile {tree : FileTree} {start : Place} {path : Path}
    (found : tree.isFile start path = true) :
    ∃ place bytes, tree.locate start path = .ok (place, .file bytes) := by
  unfold isFile at found
  split at found
  · rename_i place bytes located
    exact ⟨place, bytes, located⟩
  · cases found

/-- A file in a directory is found there, by a path that leads to the directory. -/
theorem locate_child_of_isFile {tree : FileTree} {start : Place} {directory : Path} {name : String}
    (absolute : directory.isAbsolute = true) (named : IsNameSegment name.toList)
    (found : tree.isFile start (directory.child name) = true) :
    ∃ bytes, tree.locate start (directory.child name) =
      .ok (Path.placeFrom [] directory.components ++ [name], .file bytes) := by
  obtain ⟨place, bytes, located⟩ := exists_locate_of_isFile found
  have reached := place_of_locate located
  rw [Path.components_child directory named, Path.placeFrom_append,
    Path.placeFrom_of_isAbsolute absolute start []] at reached
  refine ⟨bytes, ?_⟩
  rw [located, reached]
  rfl

/-! ### Proper trees -/

/-- All entries have names that a file can have and lie in directories. -/
structure IsProper (tree : FileTree) : Prop where
  named : ∀ entry ∈ tree.entries.entries, ∀ name ∈ entry.1, IsNameSegment name.toList
  storable : ∀ entry ∈ tree.entries.entries, ∀ name ∈ entry.1,
    '\x00' ∉ name.toList ∧ (Utf8.encode name.toList).length ≤ longestName
  nested : ∀ entry ∈ tree.entries.entries, tree.get? entry.1.dropLast = some .directory

theorem IsProper.named_of_get? {tree : FileTree} (proper : tree.IsProper) {place : Place}
    {entry : Entry} (found : tree.get? place = some entry) :
    ∀ name ∈ place, IsNameSegment name.toList := by
  unfold get? at found
  split at found
  · rename_i top
    simp [top]
  · exact proper.named _ (SortedMap.get?_eq_some_iff.mp found)

theorem IsProper.storable_of_get? {tree : FileTree} (proper : tree.IsProper) {place : Place}
    {entry : Entry} (found : tree.get? place = some entry) :
    ∀ name ∈ place, '\x00' ∉ name.toList ∧ (Utf8.encode name.toList).length ≤ longestName := by
  unfold get? at found
  split at found
  · rename_i top
    simp [top]
  · exact proper.storable _ (SortedMap.get?_eq_some_iff.mp found)

/-- What is above an entry is a directory. -/
theorem IsProper.get?_dropLast {tree : FileTree} (proper : tree.IsProper) {place : Place}
    {entry : Entry} (found : tree.get? place = some entry) :
    tree.get? place.dropLast = some .directory := by
  by_cases top : place = []
  · rw [top]
    rfl
  · unfold get? at found
    rw [if_neg top] at found
    exact proper.nested _ (SortedMap.get?_eq_some_iff.mp found)

/-- What has a name lies in a directory. -/
theorem IsProper.get?_above {tree : FileTree} (proper : tree.IsProper) {place : Place}
    {name : String} {entry : Entry} (found : tree.get? (place ++ [name]) = some entry) :
    tree.get? place = some .directory := by
  have above := proper.get?_dropLast found
  rwa [List.dropLast_concat] at above

instance (tree : FileTree) : Decidable tree.IsProper :=
  decidable_of_iff
    ((∀ entry ∈ tree.entries.entries, ∀ name ∈ entry.1, IsNameSegment name.toList) ∧
      (∀ entry ∈ tree.entries.entries, ∀ name ∈ entry.1,
        '\x00' ∉ name.toList ∧ (Utf8.encode name.toList).length ≤ longestName) ∧
      ∀ entry ∈ tree.entries.entries, tree.get? entry.1.dropLast = some .directory)
    ⟨fun ⟨named, storable, nested⟩ => ⟨named, storable, nested⟩,
      fun proper => ⟨proper.named, proper.storable, proper.nested⟩⟩

/-- The last step to a file goes down by a name: dots lead to directories. -/
theorem IsProper.name_of_follow {tree : FileTree} (proper : tree.IsProper) {start place : Place}
    {front : List (List Char)} {last : List Char} {bytes : List UInt8}
    (followed : tree.follow start (front ++ [last]) = .ok place)
    (file : tree.get? place = some (.file bytes)) :
    Path.isSilent last = false ∧ last ≠ ['.', '.'] := by
  rw [follow_append] at followed
  cases above : tree.follow start front with
  | error problem =>
    rw [above] at followed
    cases followed
  | ok directory =>
    rw [above] at followed
    have step : tree.follow directory [last] = .ok place := followed
    obtain ⟨isDirectory, -, ended⟩ := follow_cons_eq_ok_iff.mp step
    cases ended
    constructor
    · by_contra silent
      rw [Path.loud_cons_of_silent (by simpa using silent)] at file
      cases isDirectory.symm.trans file
    · rintro rfl
      cases (proper.get?_dropLast isDirectory).symm.trans file

/-- **A path that leads to a file ends in a name.** -/
theorem IsProper.name_of_locate {tree : FileTree} (proper : tree.IsProper) {start place : Place}
    {path : Path} {bytes : List UInt8}
    (located : tree.locate start path = .ok (place, .file bytes)) :
    ∃ front name, path.components = front ++ [.name name] := by
  obtain ⟨-, -, -, followed, file⟩ := locate_eq_ok_iff.mp located
  obtain ⟨front, last, cut⟩ : ∃ front last, path.segments = front ++ [last] :=
    ⟨_, _, (List.dropLast_concat_getLast path.segments_ne_nil).symm⟩
  rw [cut] at followed
  obtain ⟨isLoud, notParent⟩ := proper.name_of_follow followed file
  have named : IsNameSegment last :=
    ⟨Path.slash_notMem_segments (cut ▸ List.mem_concat_self), isLoud, notParent⟩
  cases front with
  | nil =>
    rw [Path.components_eq cut, Path.headOf_of_named named, named.componentOf_eq]
    exact ⟨[], _, rfl⟩
  | cons head tail =>
    rw [List.cons_append] at cut
    rw [Path.components_eq cut, Path.loud_append, named.loud_singleton, List.map_append,
      ← List.append_assoc, List.map_singleton, named.componentOf_eq]
    exact ⟨_, _, rfl⟩

/-! ### Paths that can be followed -/

/-- From a directory, a name leads to the entry of that name. -/
theorem IsProper.follow_name {tree : FileTree} (proper : tree.IsProper) {place : Place}
    {name : String} {entry : Entry} (found : tree.get? (place ++ [name]) = some entry) :
    tree.follow place [name.toList] = .ok (place ++ [name]) := by
  have named := proper.named_of_get? found name List.mem_concat_self
  have storable := proper.storable_of_get? found name List.mem_concat_self
  rw [follow, proper.get?_above found]
  dsimp only
  rw [if_neg (by simp [named.isLoud]), if_neg named.notParent,
    if_neg (Nat.not_lt.mpr storable.2), String.ofList_toList, follow]

/-- **Names lead to a directory**, whatever dots stand between them. -/
theorem IsProper.follow_of_loud {tree : FileTree} (proper : tree.IsProper)
    {segments : List (List Char)} {place : Place} (found : tree.get? place = some .directory)
    (names : loud segments = place.map String.toList) :
    tree.follow [] segments = .ok place := by
  induction segments using List.reverseRecOn generalizing place with
  | nil =>
    rw [List.map_eq_nil_iff.mp names.symm]
    rfl
  | append_singleton segments last ih =>
    by_cases silent : Path.isSilent last = true
    · rw [Path.loud_concat_of_silent segments silent] at names
      rw [follow_append, ih found names, Except.bind, follow, found]
      dsimp only
      rw [if_pos silent, follow]
    · rw [Path.loud_concat_of_loud segments silent] at names
      rcases List.eq_nil_or_concat place with rfl | ⟨front, name, rfl⟩
      · simp at names
      · rw [List.concat_eq_append, List.map_append, List.map_singleton] at names
        rw [List.concat_eq_append] at found ⊢
        obtain ⟨before, same⟩ := List.append_inj' names rfl
        rw [follow_append, ih (proper.get?_above found) before, List.singleton_inj.mp same,
          Except.bind, proper.follow_name found]

/-! ### What following depends on -/

/-- Whether there is a file at a place. -/
def holdsFile (tree : FileTree) (place : Place) : Bool :=
  match tree.get? place with
  | some (.file _) => true
  | _ => false

/-- What it means that a path leads to a file. -/
theorem isFile_iff {tree : FileTree} {start : Place} {path : Path} :
    tree.isFile start path = true ↔
      path.text ≠ "" ∧ '\x00' ∉ path.text.toList ∧ path.text.utf8ByteSize ≤ longestPath ∧
        tree.follow (if path.isAbsolute then [] else start) path.segments =
            .ok (Path.placeFrom start path.components) ∧
          tree.holdsFile (Path.placeFrom start path.components) = true := by
  constructor
  · intro file
    obtain ⟨place, bytes, located⟩ := exists_locate_of_isFile file
    cases place_of_locate located
    obtain ⟨some, noNul, short, followed, there⟩ := locate_eq_ok_iff.mp located
    exact ⟨some, noNul, short, followed, by rw [holdsFile, there]⟩
  · rintro ⟨some, noNul, short, followed, file⟩
    unfold holdsFile at file
    split at file
    · rename_i bytes there
      rw [isFile, locate_eq_ok_iff.mpr ⟨some, noNul, short, followed, there⟩]
    · cases file

end FileTree

/-- The places that a path leads through, from the one where it begins to its end. -/
def Path.passed (start : Place) (path : Path) : List Place :=
  path.components.inits.map (Path.placeFrom (if path.isAbsolute then [] else start))

theorem Path.mem_passed_iff {start place : Place} {path : Path} :
    place ∈ path.passed start ↔ ∃ front, front <+: path.components ∧
      Path.placeFrom (if path.isAbsolute then [] else start) front = place := by
  simp only [passed, List.mem_map, List.mem_inits]

/-- Following the segments of a path, one stays on the places that its components pass. -/
theorem Path.placeFrom_segments_mem_passed (start : Place) {path : Path}
    {front : List (List Char)} (before : front <+: path.segments) :
    placeFrom (if path.isAbsolute then [] else start) ((loud front).map componentOf) ∈
      path.passed start := by
  obtain ⟨head, tail, cut⟩ := path.exists_segments
  rw [cut] at before
  rw [mem_passed_iff, components_eq cut]
  cases front with
  | nil => exact ⟨[], List.nil_prefix, rfl⟩
  | cons segment front =>
    obtain ⟨rfl, shorter⟩ := List.cons_prefix_cons.mp before
    refine ⟨headOf segment tail ++ (loud front).map componentOf,
      (List.prefix_append_right_inj _).mpr ((shorter.filter _).map _), ?_⟩
    have begins : (if path.isAbsolute then [] else if path.isAbsolute then [] else start) =
        if path.isAbsolute then [] else start := by
      split <;> rfl
    rw [placeFrom_append, placeFrom_headOf _ cut, begins, ← placeFrom_append, ← List.map_append,
      ← loud_append, List.singleton_append]

namespace FileTree

/-- Following depends on the directories alone that are passed. -/
theorem follow_congr {tree other : FileTree} {start : Place} {segments : List (List Char)}
    (same : ∀ front, front <+: segments →
      (tree.get? (Path.placeFrom start ((loud front).map Path.componentOf)) = some .directory ↔
        other.get? (Path.placeFrom start ((loud front).map Path.componentOf)) = some .directory))
    (place : Place) : tree.follow start segments = .ok place ↔
      other.follow start segments = .ok place := by
  induction segments generalizing start with
  | nil => rw [follow, follow]
  | cons segment rest ih =>
    rw [follow_cons_eq_ok_iff, follow_cons_eq_ok_iff]
    refine and_congr (same [] List.nil_prefix) (and_congr Iff.rfl (ih fun front before => ?_))
    rw [← Path.placeFrom_append, ← List.map_append, ← Path.loud_append, List.singleton_append]
    exact same _ (List.cons_prefix_cons.mpr ⟨rfl, before⟩)

/-- **Whether a path leads to a file** depends on the directories that it passes and on what is at
its end. -/
theorem isFile_congr {tree other : FileTree} {start : Place} {path : Path}
    (passed : ∀ place ∈ path.passed start,
      (tree.get? place = some .directory ↔ other.get? place = some .directory))
    (last : tree.get? (Path.placeFrom start path.components) =
      other.get? (Path.placeFrom start path.components)) :
    tree.isFile start path = other.isFile start path := by
  have followed : tree.follow (if path.isAbsolute then [] else start) path.segments =
        .ok (Path.placeFrom start path.components) ↔
      other.follow (if path.isAbsolute then [] else start) path.segments =
        .ok (Path.placeFrom start path.components) :=
    follow_congr (fun _ before => passed _ (Path.placeFrom_segments_mem_passed start before)) _
  have holds : tree.holdsFile (Path.placeFrom start path.components) =
      other.holdsFile (Path.placeFrom start path.components) := by
    unfold holdsFile
    rw [last]
  rw [Bool.eq_iff_iff, isFile_iff, isFile_iff, followed, holds]

end FileTree

end CheckerFixtures
