/-
**Maps in key order.**

A map is its list of entries, with strictly ascending keys. Two maps with the same look-ups are
therefore equal, and listing a map is listing it in key order.

* `get?_alter`, `get?_insert`, `get?_erase`: one look-up equation per operation;
* `ext_get?`: a map is determined by its look-ups;
* `ofList_entries`: a map is made again from its entries;
* `mem_keys_iff`: the keys are what can be looked up;
* `get?_mapValues`: looking up a replaced value.
-/

namespace CheckerFixtures

universe u v

/-- Entries with strictly ascending keys. -/
structure SortedMap (Key : Type u) (Value : Type v) [LT Key] where
  entries : List (Key × Value)
  ascending : entries.Pairwise fun first second => first.1 < second.1

namespace SortedMap

variable {Key : Type u} {Value : Type v} [LT Key]

/-! ### Reading -/

def empty : SortedMap Key Value := ⟨[], .nil⟩

instance : EmptyCollection (SortedMap Key Value) := ⟨empty⟩

instance : Inhabited (SortedMap Key Value) := ⟨empty⟩

/-- Maps are equal when their entries are. -/
theorem eq_of_entries_eq {first second : SortedMap Key Value}
    (equal : first.entries = second.entries) : first = second := by
  cases first; cases second; simp_all

instance [DecidableEq Key] [DecidableEq Value] : DecidableEq (SortedMap Key Value) :=
  fun first second => decidable_of_iff (first.entries = second.entries)
    ⟨eq_of_entries_eq, fun equal => by rw [equal]⟩

/-- The value stored under a key. -/
def get? [DecidableEq Key] (map : SortedMap Key Value) (key : Key) : Option Value :=
  map.entries.lookup key

/-- Whether something is stored under a key. -/
def contains [DecidableEq Key] (map : SortedMap Key Value) (key : Key) : Bool :=
  (map.get? key).isSome

/-- The keys, ascending. -/
def keys (map : SortedMap Key Value) : List Key := map.entries.map Prod.fst

/-- The values in key order. -/
def values (map : SortedMap Key Value) : List Value := map.entries.map Prod.snd

def size (map : SortedMap Key Value) : Nat := map.entries.length

def isEmpty (map : SortedMap Key Value) : Bool := map.entries.isEmpty

/-! ### Changing one entry -/

/-- What an optional value adds to a list of entries. -/
def entryOf (key : Key) : Option Value → List (Key × Value)
  | none => []
  | some value => [(key, value)]

/-- Replaces what ascending entries hold under a key. -/
def alterEntries [DecidableLT Key] (key : Key) (change : Option Value → Option Value) :
    List (Key × Value) → List (Key × Value)
  | [] => entryOf key (change none)
  | (other, value) :: rest =>
    if other < key then (other, value) :: alterEntries key change rest
    else if key < other then entryOf key (change none) ++ (other, value) :: rest
    else entryOf key (change (some value)) ++ rest

/-- A change of one entry brings in no other key. -/
theorem mem_alterEntries [DecidableLT Key] {key : Key} {change : Option Value → Option Value}
    {entries : List (Key × Value)} {entry : Key × Value}
    (member : entry ∈ alterEntries key change entries) : entry.1 = key ∨ entry ∈ entries := by
  have fresh : ∀ {value : Option Value}, entry ∈ entryOf key value → entry.1 = key := by
    intro value there
    cases value <;> simp_all [entryOf]
  induction entries with
  | nil => exact .inl (fresh member)
  | cons head rest ih =>
    obtain ⟨other, value⟩ := head
    rw [alterEntries] at member
    split at member
    · rcases List.mem_cons.mp member with rfl | later
      · exact .inr (List.mem_cons_self ..)
      · exact (ih later).imp id (List.mem_cons_of_mem _)
    · split at member
      · rcases List.mem_append.mp member with here | later
        · exact .inl (fresh here)
        · exact .inr later
      · rcases List.mem_append.mp member with here | later
        · exact .inl (fresh here)
        · exact .inr (List.mem_cons_of_mem _ later)

section Ordered

variable [LE Key] [Std.IsLinearOrder Key] [Std.LawfulOrderLT Key] [DecidableLT Key]

/-- A change of one entry keeps the keys ascending. -/
theorem alterEntries_ascending (key : Key) (change : Option Value → Option Value)
    {entries : List (Key × Value)}
    (ascending : entries.Pairwise fun first second => first.1 < second.1) :
    (alterEntries key change entries).Pairwise fun first second => first.1 < second.1 := by
  induction entries with
  | nil =>
    rw [alterEntries]
    cases change none <;> simp [entryOf]
  | cons head rest ih =>
    obtain ⟨other, value⟩ := head
    obtain ⟨below, sorted⟩ := List.pairwise_cons.mp ascending
    rw [alterEntries]
    split
    · rename_i less
      refine List.pairwise_cons.mpr ⟨fun entry member => ?_, ih sorted⟩
      rcases mem_alterEntries member with same | member
      · exact same ▸ less
      · exact below entry member
    · split
      · rename_i less
        cases change none with
        | none => exact ascending
        | some fresh =>
          refine List.pairwise_cons.mpr ⟨fun entry member => ?_, ascending⟩
          rcases List.mem_cons.mp member with rfl | member
          · exact less
          · exact Std.lt_trans less (below entry member)
      · rename_i notLess notGreater
        have same : key = other :=
          Std.le_antisymm (Std.not_lt.mp notLess) (Std.not_lt.mp notGreater)
        subst same
        cases change (some value) with
        | none => exact sorted
        | some fresh => exact List.pairwise_cons.mpr ⟨below, sorted⟩

/-- The map with the value under one key replaced; `none` stands for no entry. -/
def alter (map : SortedMap Key Value) (key : Key) (change : Option Value → Option Value) :
    SortedMap Key Value :=
  ⟨alterEntries key change map.entries, alterEntries_ascending key change map.ascending⟩

/-- The map with a value stored under a key. -/
def insert (map : SortedMap Key Value) (key : Key) (value : Value) : SortedMap Key Value :=
  map.alter key fun _ => some value

/-- The map without the entry of a key. -/
def erase (map : SortedMap Key Value) (key : Key) : SortedMap Key Value :=
  map.alter key fun _ => none

/-- The map of some entries; of several with one key the last counts. -/
def ofList (entries : List (Key × Value)) : SortedMap Key Value :=
  entries.foldl (fun map entry => map.insert entry.1 entry.2) empty

/-! ### Laws of looking up -/

variable [DecidableEq Key]

/-- Looking up meets the first entry first. -/
theorem lookup_entry {Key : Type u} {Value : Type v} [DecidableEq Key] (key other : Key)
    (value : Value) (rest : List (Key × Value)) :
    ((other, value) :: rest).lookup key = if key = other then some value else rest.lookup key := by
  by_cases same : key = other
  · simp [same]
  · have differ : (key == other) = false := beq_eq_false_iff_ne.mpr same
    simp [List.lookup_cons, differ, same]

omit [Std.IsLinearOrder Key] [DecidableLT Key] in
/-- No look-up below the first key succeeds. -/
theorem lookup_eq_none_of_below {key : Key} {entries : List (Key × Value)}
    (below : ∀ entry ∈ entries, key < entry.1) : entries.lookup key = none := by
  rw [List.lookup_eq_none_iff]
  intro entry member
  have less := below entry member
  rw [bne_iff_ne]
  rintro rfl
  exact Std.lt_irrefl less

theorem lookup_alterEntries (key probe : Key) (change : Option Value → Option Value)
    {entries : List (Key × Value)}
    (ascending : entries.Pairwise fun first second => first.1 < second.1) :
    (alterEntries key change entries).lookup probe =
      if probe = key then change (entries.lookup key) else entries.lookup probe := by
  have single : ∀ (value : Option Value) (rest : List (Key × Value)),
      (entryOf key value ++ rest).lookup probe =
        if probe = key then value.or (rest.lookup probe) else rest.lookup probe := by
    intro value rest
    cases value with
    | none => simp [entryOf]
    | some value => simp [entryOf, lookup_entry]
  induction entries with
  | nil =>
    have := single (change none) []
    simpa [alterEntries] using this
  | cons head rest ih =>
    obtain ⟨other, value⟩ := head
    obtain ⟨below, sorted⟩ := List.pairwise_cons.mp ascending
    rw [alterEntries]
    split
    · rename_i less
      have different : key ≠ other := by rintro rfl; exact Std.lt_irrefl less
      rw [lookup_entry, ih sorted, lookup_entry, lookup_entry]
      by_cases here : probe = other
      · simp [here, different.symm]
      · simp [here, different]
    · split
      · rename_i less
        have absent : ((other, value) :: rest).lookup key = none := by
          refine lookup_eq_none_of_below fun entry member => ?_
          rcases List.mem_cons.mp member with rfl | member
          · exact less
          · exact Std.lt_trans less (below entry member)
        rw [single, absent]
        by_cases same : probe = key
        · simp [same, absent]
        · simp [same]
      · rename_i notLess notGreater
        have same : key = other :=
          Std.le_antisymm (Std.not_lt.mp notLess) (Std.not_lt.mp notGreater)
        subst same
        have absent : rest.lookup key = none :=
          lookup_eq_none_of_below fun entry member => below entry member
        rw [single, lookup_entry, lookup_entry]
        by_cases here : probe = key
        · simp [here, absent]
        · simp [here]

/-- What a changed map holds. -/
theorem get?_alter (map : SortedMap Key Value) (key probe : Key)
    (change : Option Value → Option Value) :
    (map.alter key change).get? probe =
      if probe = key then change (map.get? key) else map.get? probe :=
  lookup_alterEntries key probe change map.ascending

/-- What a map holds after storing a value. -/
theorem get?_insert (map : SortedMap Key Value) (key probe : Key) (value : Value) :
    (map.insert key value).get? probe = if probe = key then some value else map.get? probe :=
  get?_alter map key probe _

/-- What a map holds after removing an entry. -/
theorem get?_erase (map : SortedMap Key Value) (key probe : Key) :
    (map.erase key).get? probe = if probe = key then none else map.get? probe :=
  get?_alter map key probe _

omit [Std.IsLinearOrder Key] [DecidableLT Key] in
/-- Ascending entries are looked up exactly. -/
theorem lookup_eq_some_iff_mem {key : Key} {value : Value} {entries : List (Key × Value)}
    (ascending : entries.Pairwise fun first second => first.1 < second.1) :
    entries.lookup key = some value ↔ (key, value) ∈ entries := by
  induction entries with
  | nil => simp
  | cons head rest ih =>
    obtain ⟨other, stored⟩ := head
    obtain ⟨below, sorted⟩ := List.pairwise_cons.mp ascending
    rw [lookup_entry]
    by_cases same : key = other
    · subst same
      have notLater : (key, value) ∉ rest := fun later =>
        Std.lt_irrefl (a := key) (below _ later)
      simp [notLater, eq_comm]
    · simp [same, ih sorted]

omit [Std.IsLinearOrder Key] [DecidableLT Key] in
/-- A look-up finds exactly the entries. -/
theorem get?_eq_some_iff {map : SortedMap Key Value} {key : Key} {value : Value} :
    map.get? key = some value ↔ (key, value) ∈ map.entries :=
  lookup_eq_some_iff_mem map.ascending

omit [Std.IsLinearOrder Key] [DecidableLT Key] in
/-- The keys are what can be looked up. -/
theorem mem_keys_iff {map : SortedMap Key Value} {key : Key} :
    key ∈ map.keys ↔ (map.get? key).isSome = true := by
  rw [Option.isSome_iff_exists, keys, List.mem_map]
  constructor
  · rintro ⟨⟨_, value⟩, member, rfl⟩
    exact ⟨value, get?_eq_some_iff.mpr member⟩
  · rintro ⟨value, found⟩
    exact ⟨(key, value), get?_eq_some_iff.mp found, rfl⟩

omit [DecidableLT Key] [DecidableEq Key] in
/-- Ascending entries are determined by their members. -/
theorem eq_of_mem_iff {first second : List (Key × Value)}
    (firstAscending : first.Pairwise fun x y => x.1 < y.1)
    (secondAscending : second.Pairwise fun x y => x.1 < y.1)
    (agree : ∀ entry, entry ∈ first ↔ entry ∈ second) : first = second := by
  induction first generalizing second with
  | nil =>
    cases second with
    | nil => rfl
    | cons head rest => exact absurd ((agree head).mpr (List.mem_cons_self ..)) (by simp)
  | cons head rest ih =>
    cases second with
    | nil => exact absurd ((agree head).mp (List.mem_cons_self ..)) (by simp)
    | cons other others =>
      obtain ⟨below, sorted⟩ := List.pairwise_cons.mp firstAscending
      obtain ⟨below', sorted'⟩ := List.pairwise_cons.mp secondAscending
      have same : head = other := by
        rcases List.mem_cons.mp ((agree head).mp (List.mem_cons_self ..)) with same | later
        · exact same
        · rcases List.mem_cons.mp ((agree other).mpr (List.mem_cons_self ..)) with same | later'
          · exact same.symm
          · exact absurd (Std.lt_trans (below' _ later) (below _ later')) Std.lt_irrefl
      subst same
      congr 1
      refine ih sorted sorted' fun entry => ?_
      have both := agree entry
      rw [List.mem_cons, List.mem_cons] at both
      constructor
      · intro member
        rcases both.mp (.inr member) with rfl | there
        · exact absurd (below _ member) Std.lt_irrefl
        · exact there
      · intro member
        rcases both.mpr (.inr member) with rfl | there
        · exact absurd (below' _ member) Std.lt_irrefl
        · exact there

omit [DecidableLT Key] in
/-- A map is determined by its look-ups. -/
theorem ext_get? {first second : SortedMap Key Value}
    (agree : ∀ key, first.get? key = second.get? key) : first = second := by
  refine eq_of_entries_eq (eq_of_mem_iff first.ascending second.ascending fun entry => ?_)
  rw [show entry = (entry.1, entry.2) from rfl, ← get?_eq_some_iff, ← get?_eq_some_iff,
    agree entry.1]

/-- Storing ascending entries one after the other: they are looked up before what was there. -/
theorem get?_foldl_insert {entries : List (Key × Value)}
    (ascending : entries.Pairwise fun first second => first.1 < second.1)
    (map : SortedMap Key Value) (key : Key) :
    (entries.foldl (fun map entry => map.insert entry.1 entry.2) map).get? key =
      (entries.lookup key).or (map.get? key) := by
  induction entries generalizing map with
  | nil => simp
  | cons entry entries ih =>
    obtain ⟨other, value⟩ := entry
    obtain ⟨below, sorted⟩ := List.pairwise_cons.mp ascending
    rw [List.foldl_cons, ih sorted, get?_insert, lookup_entry]
    by_cases same : key = other
    · subst same
      rw [lookup_eq_none_of_below fun entry member => below entry member]
      simp
    · simp [same]

/-- The map of the entries of a map is that map. -/
theorem ofList_entries (map : SortedMap Key Value) : ofList map.entries = map :=
  ext_get? fun key => by
    rw [ofList, get?_foldl_insert map.ascending]
    exact Option.or_none

end Ordered

/-! ### Changing every value -/

/-- The map with each value replaced. -/
def mapValues {Other : Type v} (change : Key → Value → Other) (map : SortedMap Key Value) :
    SortedMap Key Other :=
  ⟨map.entries.map fun entry => (entry.1, change entry.1 entry.2), by
    rw [List.pairwise_map]
    exact map.ascending⟩

/-- What a map holds after each value was replaced. -/
theorem get?_mapValues [DecidableEq Key] {Other : Type v} (change : Key → Value → Other)
    (map : SortedMap Key Value) (key : Key) :
    (map.mapValues change).get? key = (map.get? key).map (change key) := by
  obtain ⟨entries, ascending⟩ := map
  show (entries.map _).lookup key = (entries.lookup key).map _
  clear ascending
  induction entries with
  | nil => rfl
  | cons entry entries ih =>
    obtain ⟨other, value⟩ := entry
    rw [List.map_cons, lookup_entry, lookup_entry, ih]
    by_cases same : key = other
    · rw [if_pos same, if_pos same, same]
      rfl
    · rw [if_neg same, if_neg same]

end SortedMap

end CheckerFixtures
