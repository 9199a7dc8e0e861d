/-
**The algebra of merges.**

Pragmas form a monoid under merging, whether or not the two maps of a pragma agree on its codes. A
merge is determined by what it says of each code: it declares what either side declares, has the
issues of the upper side before those of the lower one, and raises a flag that either side raises.
No issue is lost or counted twice, so which side comes first matters for the order of the issues
only.

* `isMerge_iff`: the declarative merge is the one that is computed;
* `issueCount_extend`: a merge has as many issues as both sides together;
* `hit_extend_comm`, `perm_issues_extend`: what changing sides does;
* `extend_laws`: the whole algebra.
-/

import CheckerFixtures.Proofs.Merging

namespace CheckerFixtures.Pragma

/-! ### Single codes -/

/-- The issues expected under a code; a code that is not declared has none. -/
def issuesUnder (pragma : Pragma) (code : String) : List Issue := (pragma.issues? code).getD []

/-- Values that are missing count as the unit when two of them are combined. -/
theorem getD_combine {α : Type} {join : α → α → α} {unit : α}
    (unit_join : ∀ value, join unit value = value) (join_unit : ∀ value, join value unit = value)
    (first second : Option α) :
    (combine join first second).getD unit = join (first.getD unit) (second.getD unit) := by
  cases first with
  | none =>
    rw [combine_none_left]
    exact (unit_join _).symm
  | some first =>
    cases second with
    | none => exact (join_unit first).symm
    | some second => rfl

/-- An optional value is determined by whether it is there, and by what stands for it if not. -/
theorem option_eq_of_getD {α : Type} {unit : α} {first second : Option α}
    (there : first.isSome = second.isSome) (same : first.getD unit = second.getD unit) :
    first = second := by
  cases first with
  | none =>
    cases second with
    | none => rfl
    | some second => cases there
  | some first =>
    cases second with
    | none => cases there
    | some second => exact congrArg some same

variable (first second : Pragma) (code : String)

theorem issuesUnder_extend :
    (first.extend second).issuesUnder code =
      first.issuesUnder code ++ second.issuesUnder code := by
  show ((first.extend second).issues.get? code).getD [] = _
  rw [get?_issues_extend]
  exact getD_combine List.nil_append List.append_nil _ _

theorem isHit_extend :
    (first.extend second).isHit code = (first.isHit code || second.isHit code) := by
  show ((first.extend second).hit.get? code).getD false = _
  rw [get?_hit_extend]
  exact getD_combine Bool.false_or Bool.or_false _ _

/-- **A merge declares what either side declares.** -/
theorem mem_codes_extend :
    code ∈ (first.extend second).codes ↔ code ∈ first.codes ∨ code ∈ second.codes := by
  unfold codes
  rw [SortedMap.mem_keys_iff, SortedMap.mem_keys_iff, SortedMap.mem_keys_iff,
    get?_issues_extend, isSome_combine, Bool.or_eq_true]

/-- **A merge has a flag where either side has one.** -/
theorem mem_flagged_extend :
    code ∈ (first.extend second).hit.keys ↔ code ∈ first.hit.keys ∨ code ∈ second.hit.keys := by
  rw [SortedMap.mem_keys_iff, SortedMap.mem_keys_iff, SortedMap.mem_keys_iff, get?_hit_extend,
    isSome_combine, Bool.or_eq_true]

/-! ### The declarative merge -/

/-- What a merge of two pragmas says of each code. -/
structure IsMerge (first second merged : Pragma) : Prop where
  declared : ∀ code, code ∈ merged.codes ↔ code ∈ first.codes ∨ code ∈ second.codes
  /-- Duplicates are kept, and the issues of the first pragma come first. -/
  issues : ∀ code,
    merged.issuesUnder code = first.issuesUnder code ++ second.issuesUnder code
  flagged : ∀ code,
    code ∈ merged.hit.keys ↔ code ∈ first.hit.keys ∨ code ∈ second.hit.keys
  raised : ∀ code, merged.isHit code = (first.isHit code || second.isHit code)

theorem isMerge_extend : IsMerge first second (first.extend second) where
  declared := mem_codes_extend first second
  issues := issuesUnder_extend first second
  flagged := mem_flagged_extend first second
  raised := isHit_extend first second

/-- Two maps agree on whether a code is there if it is a key of both or of neither. -/
theorem isSome_get?_congr {Value : Type} {map other : SortedMap String Value} {code : String}
    (same : code ∈ map.keys ↔ code ∈ other.keys) :
    (map.get? code).isSome = (other.get? code).isSome := by
  rw [SortedMap.mem_keys_iff, SortedMap.mem_keys_iff] at same
  exact Bool.eq_iff_iff.mpr same

/-- **Two pragmas have one merge**, the one that is computed. -/
theorem isMerge_iff {first second merged : Pragma} :
    IsMerge first second merged ↔ merged = first.extend second := by
  constructor
  · intro isMerge
    have computed := isMerge_extend first second
    refine ext_get? (fun code => ?_) (fun code => ?_)
    · refine option_eq_of_getD (isSome_get?_congr ?_)
        ((isMerge.issues code).trans (computed.issues code).symm)
      exact (isMerge.declared code).trans (computed.declared code).symm
    · refine option_eq_of_getD (isSome_get?_congr ?_)
        ((isMerge.raised code).trans (computed.raised code).symm)
      exact (isMerge.flagged code).trans (computed.flagged code).symm
  · rintro rfl
    exact isMerge_extend first second

/-! ### Counting -/

/-- Appending issues under one code adds as many issues. -/
theorem length_flatten_alterEntries (more : List Issue) (entries : List (String × List Issue)) :
    ((SortedMap.alterEntries code (fun old => some (old.getD [] ++ more)) entries).map
      Prod.snd).flatten.length = (entries.map Prod.snd).flatten.length + more.length := by
  induction entries with
  | nil => simp [SortedMap.alterEntries, SortedMap.entryOf]
  | cons entry entries ih =>
    obtain ⟨other, issues⟩ := entry
    rw [SortedMap.alterEntries]
    split
    · rw [List.map_cons, List.flatten_cons, List.length_append, ih, List.map_cons,
        List.flatten_cons, List.length_append, Nat.add_assoc]
    · split
      · simp only [SortedMap.entryOf, Option.getD_none, List.nil_append, List.singleton_append,
          List.map_cons, List.flatten_cons, List.length_append]
        omega
      · simp only [SortedMap.entryOf, Option.getD_some, List.singleton_append, List.map_cons,
          List.flatten_cons, List.length_append]
        omega

theorem length_flatten_foldl_appendIssues (entries : List (String × List Issue))
    (map : SortedMap String (List Issue)) :
    (entries.foldl appendIssues map).values.flatten.length =
      map.values.flatten.length + (entries.map Prod.snd).flatten.length := by
  induction entries generalizing map with
  | nil => rfl
  | cons entry entries ih =>
    have step : (appendIssues map entry).values.flatten.length =
        map.values.flatten.length + entry.2.length :=
      length_flatten_alterEntries entry.1 entry.2 map.entries
    rw [List.foldl_cons, ih, step, List.map_cons, List.flatten_cons, List.length_append,
      Nat.add_assoc]

/-- **A merge has as many issues as both sides together.** -/
theorem issueCount_extend :
    (first.extend second).issueCount = first.issueCount + second.issueCount :=
  length_flatten_foldl_appendIssues second.issues.entries first.issues

/-! ### Changing sides -/

/-- Merging with the empty pragma from above changes nothing. -/
theorem empty_extend : (∅ : Pragma).extend first = first := by
  refine (isMerge_iff.mp ?_).symm
  refine ⟨fun code => ?_, fun code => ?_, fun code => ?_, fun code => ?_⟩
  · exact (or_iff_right List.not_mem_nil).symm
  · exact (List.nil_append _).symm
  · exact (or_iff_right List.not_mem_nil).symm
  · exact (Bool.false_or _).symm

theorem combine_comm {α : Type} {join : α → α → α}
    (comm : ∀ first second, join first second = join second first) (first second : Option α) :
    combine join first second = combine join second first := by
  cases first with
  | none => cases second <;> rfl
  | some first =>
    cases second with
    | none => rfl
    | some second => exact congrArg some (comm first second)

/-- **The flags of a merge do not depend on which side comes first.** -/
theorem hit_extend_comm : (first.extend second).hit = (second.extend first).hit := by
  apply SortedMap.ext_get?
  intro code
  rw [get?_hit_extend, get?_hit_extend]
  exact combine_comm Bool.or_comm _ _

/-- **The issues of a code are the same ones in another order.** -/
theorem perm_issues_extend :
    ((first.extend second).issuesUnder code).Perm ((second.extend first).issuesUnder code) := by
  rw [issuesUnder_extend, issuesUnder_extend]
  exact List.perm_append_comm

/-! ### The whole algebra -/

/-- **The algebra of merges.** Merging is associative, and the empty pragma is its unit on both
sides. The merge of two pragmas is the one pragma that declares what either of them declares, has
for each code the issues of the first one and then those of the second, has a flag where either has
one, and raises it if either does. It has as many issues as both. Changing sides changes nothing
but the order of the issues of each code. -/
theorem extend_laws :
    (∀ first second third : Pragma,
      (first.extend second).extend third = first.extend (second.extend third)) ∧
    (∀ pragma : Pragma, (∅ : Pragma).extend pragma = pragma ∧ pragma.extend ∅ = pragma) ∧
    ∀ first second : Pragma,
      (∀ merged, IsMerge first second merged ↔ merged = first.extend second) ∧
      (first.extend second).issueCount = first.issueCount + second.issueCount ∧
      (first.extend second).hit = (second.extend first).hit ∧
      (∀ code, code ∈ (first.extend second).codes ↔ code ∈ (second.extend first).codes) ∧
      ∀ code, ((first.extend second).issuesUnder code).Perm
        ((second.extend first).issuesUnder code) := by
  refine ⟨extend_assoc, fun pragma => ⟨empty_extend pragma, extend_empty pragma⟩, ?_⟩
  intro first second
  refine ⟨fun merged => isMerge_iff, issueCount_extend first second,
    hit_extend_comm first second, fun code => ?_, perm_issues_extend first second⟩
  rw [mem_codes_extend, mem_codes_extend]
  exact or_comm

end CheckerFixtures.Pragma
