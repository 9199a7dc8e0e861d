/-
**What a run of operations does to pragmas.**

A pragma keeps two maps, the issues of its codes and their flags, and every operation changes each
of them for itself. Whatever operations follow one another, on however many pragmas, the two maps
have the same codes. And nothing is taken back: codes stay, issues are only added behind those that
are there, and a raised flag is not lowered.

* `kept_alter`, `kept_combine`: a change of one entry, and a merge, keep what was there;
* `Balanced.apply`, `Grows.apply`: one edit keeps the books balanced and makes its pragma grow;
* `Origin.balanced`: every pragma that a run may begin with is balanced;
* `Balanced.step`, `kept_step`: one action does the same for all variables;
* `run_balanced_grows`: and so does a whole run.
-/

import CheckerFixtures.Proofs.Merging
import CheckerFixtures.Proofs.Table

namespace CheckerFixtures

/-! ### What stays there -/

/-- What was there is still there, and has changed along a relation. -/
def Kept {α : Type} (relation : α → α → Prop) (before after : Option α) : Prop :=
  ∀ old, before = some old → ∃ new, after = some new ∧ relation old new

section Kept

variable {α : Type} {relation : α → α → Prop}

theorem Kept.refl (reflexive : ∀ value, relation value value) (value? : Option α) :
    Kept relation value? value? :=
  fun old there => ⟨old, there, reflexive old⟩

theorem Kept.trans
    (transitive : ∀ first second third, relation first second → relation second third →
      relation first third)
    {before between after : Option α} (first : Kept relation before between)
    (second : Kept relation between after) : Kept relation before after := by
  intro old there
  obtain ⟨middle, there, toMiddle⟩ := first old there
  obtain ⟨new, there, toNew⟩ := second middle there
  exact ⟨new, there, transitive old middle new toMiddle toNew⟩

/-- Changing one entry of a map keeps all of them if it keeps that one. -/
theorem kept_alter (reflexive : ∀ value, relation value value) (map : SortedMap String α)
    {code : String} {change : Option α → Option α}
    (changed : Kept relation (map.get? code) (change (map.get? code))) (probe : String) :
    Kept relation (map.get? probe) ((map.alter code change).get? probe) := by
  rw [SortedMap.get?_alter]
  split
  · rename_i same
    rw [same]
    exact changed
  · exact Kept.refl reflexive _

/-- Combining keeps what was there if joining does. -/
theorem kept_combine (reflexive : ∀ value, relation value value) {join : α → α → α}
    (joined : ∀ first second, relation first (join first second)) (first second : Option α) :
    Kept relation first (Pragma.combine join first second) := by
  rintro old rfl
  cases second with
  | none => exact ⟨old, rfl, reflexive old⟩
  | some second => exact ⟨join old second, rfl, joined old second⟩

end Kept

/-- An expected issue, whether or not it was observed. -/
def Issue.unmarked (issue : Issue) : Issue := { issue with hit := false }

namespace Pragma

/-! ### Operations and runs of them -/

/-- Where a pragma comes from. -/
inductive Origin where
  /-- Nothing is expected yet. -/
  | new
  /-- The text behind a comment token is read. -/
  | clauses (body : List Char)
  /-- The entry of a line in the fixture of a text. -/
  | text (name content : String) (tokens : List String) (line : Nat)
  /-- The entry of a line in the fixture of some bytes. -/
  | bytes (name : String) (content : List UInt8) (tokens : List String) (line : Nat)

/-- The pragma of an origin; a text may be no pragma, and a line may have no entry. -/
def Origin.pragma? : Origin → Option Pragma
  | new => some ∅
  | clauses body => Clause.parse? body
  | text name content tokens line => (Fixture.ofText name content tokens).pragmaAt? line
  | bytes name content tokens line => (Fixture.ofBytes name content tokens).pragmaAt? line

/-- An operation on a pragma that is held in a variable. -/
inductive Edit where
  | declare (code : String)
  | push (code : String) (issue : Issue)
  /-- Merges a copy of a variable, perhaps of the same one. -/
  | extend (other : Nat)
  | markHit (code : String)
  /-- Sets the flag of one of the expected issues of a code. -/
  | setHit (code : String) (index : Nat) (value : Bool)

/-- The pragma after an operation; without the variable or the issue that it names it stays as it
was. -/
def Edit.apply (held : List Pragma) (edit : Edit) (pragma : Pragma) : Pragma :=
  match edit with
  | declare code => pragma.declare code
  | push code issue => pragma.push code issue
  -- merging the empty pragma changes nothing
  | extend other => pragma.extend (held[other]?.getD ∅)
  | markHit code => (pragma.markHit code).2
  | setHit code index value => ((pragma.setHit? code index value).map Prod.snd).getD pragma

/-- What may happen to the variables, which are numbered from zero. -/
inductive Action where
  /-- A pragma is stored in a fresh variable. -/
  | store (origin : Origin)
  /-- A copy of a variable is stored in a fresh one. -/
  | copy (source : Nat)
  /-- A variable is changed in place. -/
  | change (target : Nat) (edit : Edit)

def Action.step (held : List Pragma) : Action → List Pragma
  | store origin => held ++ origin.pragma?.toList
  | copy source => held ++ held[source]?.toList
  | change target edit => held.modify target (edit.apply held)

/-- The variables after some actions. -/
def run (actions : List Action) : List Pragma := actions.foldl Action.step []

/-! ### Balanced books -/

/-- The codes with a flag are the declared ones. -/
def Balanced (pragma : Pragma) : Prop := pragma.hit.keys = pragma.issues.keys

theorem balanced_iff {pragma : Pragma} :
    pragma.Balanced ↔
      ∀ code, (pragma.hit.get? code).isSome = (pragma.issues.get? code).isSome := by
  constructor
  · intro balanced code
    rw [Bool.eq_iff_iff, ← SortedMap.mem_keys_iff, ← SortedMap.mem_keys_iff, balanced]
  · intro agree
    have hitAscending : pragma.hit.keys.Pairwise (· < ·) :=
      List.pairwise_map.mpr pragma.hit.ascending
    have issuesAscending : pragma.issues.keys.Pairwise (· < ·) :=
      List.pairwise_map.mpr pragma.issues.ascending
    refine hitAscending.eq_of_mem_iff issuesAscending fun code => ?_
    rw [SortedMap.mem_keys_iff, SortedMap.mem_keys_iff, agree]

/-- What setting the flag of an issue does. -/
theorem exists_of_setHit? {pragma next : Pragma} {code : String} {index : Nat} {value : Bool}
    {marked : Issue} (set : pragma.setHit? code index value = some (marked, next)) :
    ∃ issues issue, pragma.issues.get? code = some issues ∧ issues[index]? = some issue ∧
      next = { pragma with
        issues := pragma.issues.insert code (issues.set index { issue with hit := value }) } := by
  unfold setHit? issues? at set
  obtain ⟨issues, declared, set⟩ := Option.bind_eq_some_iff.mp set
  obtain ⟨issue, there, set⟩ := Option.bind_eq_some_iff.mp set
  cases set
  exact ⟨issues, issue, declared, there, rfl⟩

namespace Balanced

variable {pragma : Pragma}

theorem empty : Balanced ∅ := rfl

theorem expect (balanced : pragma.Balanced) (code : String) (issues : List Issue) :
    (pragma.expect code issues).Balanced := by
  rw [balanced_iff] at balanced ⊢
  intro probe
  rw [get?_hit_expect, get?_issues_expect]
  split
  · rfl
  · exact balanced probe

theorem extend (balanced : pragma.Balanced) {later : Pragma} (laterBalanced : later.Balanced) :
    (pragma.extend later).Balanced := by
  rw [balanced_iff] at balanced laterBalanced ⊢
  intro code
  rw [get?_hit_extend, get?_issues_extend, isSome_combine, isSome_combine, balanced, laterBalanced]

theorem markHit (balanced : pragma.Balanced) (code : String) :
    (pragma.markHit code).2.Balanced := by
  unfold Pragma.markHit
  split
  · rename_i flagged
    rw [balanced_iff] at balanced ⊢
    intro probe
    rw [SortedMap.get?_insert]
    split
    · rename_i same
      rw [same, ← balanced]
      exact flagged.symm
    · exact balanced probe
  · exact balanced

theorem setHit? (balanced : pragma.Balanced) {code : String} {index : Nat} {value : Bool}
    {marked : Issue} {next : Pragma}
    (set : pragma.setHit? code index value = some (marked, next)) : next.Balanced := by
  obtain ⟨issues, issue, declared, -, rfl⟩ := exists_of_setHit? set
  rw [balanced_iff] at balanced ⊢
  intro probe
  rw [SortedMap.get?_insert]
  split
  · rename_i same
    rw [same, balanced, declared]
    rfl
  · exact balanced probe

/-- **One edit keeps the books balanced.** -/
theorem apply {held : List Pragma} (all : ∀ other ∈ held, other.Balanced)
    (balanced : pragma.Balanced) (edit : Edit) : (edit.apply held pragma).Balanced := by
  cases edit with
  | declare code => exact balanced.expect code []
  | push code issue => exact balanced.expect code [issue]
  | extend other =>
    refine balanced.extend ?_
    cases there : held[other]? with
    | none => exact .empty
    | some later => exact all later (List.mem_of_getElem? there)
  | markHit code => exact balanced.markHit code
  | setHit code index value =>
    show (((pragma.setHit? code index value).map Prod.snd).getD pragma).Balanced
    cases set : pragma.setHit? code index value with
    | none => exact balanced
    | some result => exact balanced.setHit? set

/-! ### What balanced books are good for -/

/-- Marking a code succeeds exactly if the code is declared. -/
theorem markHit_fst (balanced : pragma.Balanced) (code : String) :
    (pragma.markHit code).1 = pragma.contains code := by
  have flagged : (pragma.markHit code).1 = pragma.hit.contains code := by
    unfold Pragma.markHit
    split
    · rename_i flagged
      exact flagged.symm
    · rename_i unflagged
      exact (Bool.not_eq_true _ ▸ unflagged).symm
  rw [flagged]
  exact balanced_iff.mp balanced code

/-- A code that was observed is declared. -/
theorem contains_of_isHit (balanced : pragma.Balanced) {code : String}
    (observed : pragma.isHit code = true) : pragma.contains code = true := by
  unfold isHit at observed
  cases flag : pragma.hit.get? code with
  | none =>
    rw [flag] at observed
    cases observed
  | some value =>
    have both := balanced_iff.mp balanced code
    rw [flag] at both
    exact both.symm

end Balanced

/-! ### Nothing is taken back -/

/-- Issues that continue others: flags apart, these come first and in their order. -/
def Continues (before after : List Issue) : Prop :=
  before.map Issue.unmarked <+: after.map Issue.unmarked

namespace Continues

theorem refl (issues : List Issue) : Continues issues issues := List.prefix_rfl

theorem trans (first second third : List Issue) (before : Continues first second)
    (after : Continues second third) : Continues first third :=
  List.IsPrefix.trans before after

theorem append (issues more : List Issue) : Continues issues (issues ++ more) := by
  unfold Continues
  rw [List.map_append]
  exact List.prefix_append _ _

/-- Setting the flag of an issue leaves the list as it is, flags apart. -/
theorem set {issues : List Issue} {index : Nat} {issue : Issue}
    (there : issues[index]? = some issue) (value : Bool) :
    Continues issues (issues.set index { issue with hit := value }) := by
  obtain ⟨inside, rfl⟩ := List.getElem?_eq_some_iff.mp there
  have same : { issues[index] with hit := value }.unmarked = issues[index].unmarked := rfl
  have length : index < (issues.map Issue.unmarked).length := by
    rw [List.length_map]
    exact inside
  unfold Continues
  rw [List.map_set, same, ← List.getElem_map Issue.unmarked (h := length), List.set_getElem_self]

end Continues

/-- A flag that stays raised if it is. -/
def Stays (before after : Bool) : Prop := before = true → after = true

namespace Stays

theorem refl (flag : Bool) : Stays flag flag := id

theorem trans (first second third : Bool) (before : Stays first second)
    (after : Stays second third) : Stays first third :=
  after ∘ before

theorem or (flag other : Bool) : Stays flag (flag || other) := by
  rintro rfl
  exact Bool.true_or other

end Stays

/-- A pragma has every code of another, with all its issues and with its flag. -/
structure Grows (before after : Pragma) : Prop where
  issues : ∀ code, Kept Continues (before.issues.get? code) (after.issues.get? code)
  flags : ∀ code, Kept Stays (before.hit.get? code) (after.hit.get? code)

namespace Grows

variable {pragma : Pragma}

theorem refl (pragma : Pragma) : Grows pragma pragma :=
  ⟨fun _ => Kept.refl Continues.refl _, fun _ => Kept.refl Stays.refl _⟩

theorem trans (first second third : Pragma) (before : Grows first second)
    (after : Grows second third) : Grows first third :=
  ⟨fun code => (before.issues code).trans Continues.trans (after.issues code),
    fun code => (before.flags code).trans Stays.trans (after.flags code)⟩

theorem expect (pragma : Pragma) (code : String) (issues : List Issue) :
    Grows pragma (pragma.expect code issues) := by
  constructor
  · refine kept_alter Continues.refl pragma.issues ?_
    intro old there
    exact ⟨old ++ issues, by rw [there]; rfl, .append old issues⟩
  · refine kept_alter Stays.refl pragma.hit ?_
    intro old there
    exact ⟨old, by rw [there]; rfl, .refl old⟩

theorem extend (pragma later : Pragma) : Grows pragma (pragma.extend later) := by
  constructor
  · intro code
    rw [get?_issues_extend]
    exact kept_combine Continues.refl Continues.append _ _
  · intro code
    rw [get?_hit_extend]
    exact kept_combine Stays.refl Stays.or _ _

theorem markHit (pragma : Pragma) (code : String) : Grows pragma (pragma.markHit code).2 := by
  unfold Pragma.markHit
  split
  · refine ⟨fun _ => Kept.refl Continues.refl _, kept_alter Stays.refl pragma.hit ?_⟩
    exact fun _ _ => ⟨true, rfl, fun _ => rfl⟩
  · exact refl pragma

theorem setHit? {next : Pragma} {code : String} {index : Nat} {value : Bool} {marked : Issue}
    (set : pragma.setHit? code index value = some (marked, next)) : Grows pragma next := by
  obtain ⟨issues, issue, declared, there, rfl⟩ := exists_of_setHit? set
  refine ⟨kept_alter Continues.refl pragma.issues ?_, fun _ => Kept.refl Stays.refl _⟩
  intro old isOld
  rw [declared] at isOld
  cases isOld
  exact ⟨_, rfl, .set there value⟩

/-- **One edit makes its pragma grow.** -/
theorem apply (held : List Pragma) (edit : Edit) (pragma : Pragma) :
    Grows pragma (edit.apply held pragma) := by
  cases edit with
  | declare code => exact expect pragma code []
  | push code issue => exact expect pragma code [issue]
  | extend other => exact extend pragma _
  | markHit code => exact markHit pragma code
  | setHit code index value =>
    show Grows pragma (((pragma.setHit? code index value).map Prod.snd).getD pragma)
    cases set : pragma.setHit? code index value with
    | none => exact refl pragma
    | some result => exact setHit? set

end Grows

/-! ### What a run may begin with -/

/-- A pragma that was read is balanced. -/
theorem balanced_of_parse? {body : List Char} {pragma : Pragma}
    (read : Clause.parse? body = some pragma) : pragma.Balanced := by
  rw [Clause.parse?_eq] at read
  split at read
  · cases read
  · rw [← Option.some.inj read, balanced_iff]
    intro code
    rw [Clause.get?_hit_collect, Clause.get?_issues_collect]
    split <;> rfl

/-- Every entry of a fixture is balanced. -/
theorem balanced_ofLines {name : String} {content : List Char} {tokens : List String}
    {lines : List (List Char)} {line : Nat} {pragma : Pragma}
    (found : (Fixture.ofLines name content tokens lines).pragmaAt? line = some pragma) :
    pragma.Balanced :=
  entry_induction (fun _ _ => balanced_of_parse?) (fun _ _ upper lower => upper.extend lower) found

/-- **Every pragma that a run may begin with is balanced.** -/
theorem Origin.balanced {origin : Origin} {pragma : Pragma}
    (found : origin.pragma? = some pragma) : pragma.Balanced := by
  cases origin with
  | new =>
    cases found
    exact .empty
  | clauses body => exact balanced_of_parse? found
  | text name content tokens line => exact balanced_ofLines found
  | bytes name content tokens line => exact balanced_ofLines found

/-! ### Whole runs -/

/-- **One action keeps the books of all variables balanced.** -/
theorem Balanced.step {held : List Pragma} (all : ∀ pragma ∈ held, pragma.Balanced)
    (action : Action) : ∀ pragma ∈ action.step held, pragma.Balanced := by
  intro pragma member
  cases action with
  | store origin =>
    rcases List.mem_append.mp member with old | new
    · exact all pragma old
    · exact Origin.balanced (Option.mem_toList.mp new)
  | copy source =>
    rcases List.mem_append.mp member with old | new
    · exact all pragma old
    · exact all pragma (List.mem_of_getElem? (Option.mem_toList.mp new))
  | change target edit =>
    obtain ⟨number, there⟩ := List.mem_iff_getElem?.mp member
    rw [Action.step, List.getElem?_modify] at there
    obtain ⟨old, was, rfl⟩ := Option.map_eq_some_iff.mp there
    have balanced := all old (List.mem_of_getElem? was)
    split
    · exact balanced.apply all edit
    · exact balanced

/-- **One action makes every variable grow**, or leaves it as it is. -/
theorem kept_step (held : List Pragma) (action : Action) (number : Nat) :
    Kept Grows held[number]? (action.step held)[number]? := by
  have append : ∀ fresh : List Pragma, Kept Grows held[number]? (held ++ fresh)[number]? := by
    intro fresh pragma there
    have inside : number < held.length := (List.getElem?_eq_some_iff.mp there).1
    exact ⟨pragma, (List.getElem?_append_left inside).trans there, .refl pragma⟩
  cases action with
  | store origin => exact append _
  | copy source => exact append _
  | change target edit =>
    intro pragma there
    rw [Action.step, List.getElem?_modify, there]
    refine ⟨_, rfl, ?_⟩
    split
    · exact .apply held edit pragma
    · exact .refl pragma

theorem kept_foldl_step (held : List Pragma) (actions : List Action) (number : Nat) :
    Kept Grows held[number]? (actions.foldl Action.step held)[number]? := by
  induction actions generalizing held with
  | nil => exact Kept.refl Grows.refl _
  | cons action actions ih => exact (kept_step held action number).trans Grows.trans (ih _)

theorem Balanced.foldl_step {held : List Pragma}
    (all : ∀ pragma ∈ held, pragma.Balanced) (actions : List Action) :
    ∀ pragma ∈ actions.foldl Action.step held, pragma.Balanced := by
  induction actions generalizing held with
  | nil => exact all
  | cons action actions ih => exact ih (Balanced.step all action)

/-- **The books stay straight along every run.** Whatever was done, the codes with a flag are the
declared ones; so marking a code succeeds exactly if it is declared, and an observed code is
declared. And whatever is done next, every variable only grows. -/
theorem run_balanced_grows (done next : List Action) :
    (∀ pragma ∈ run done, pragma.hit.keys = pragma.issues.keys ∧
      ∀ code, (pragma.markHit code).1 = pragma.contains code ∧
        (pragma.isHit code = true → pragma.contains code = true)) ∧
      ∀ number : Nat, Kept Grows (run done)[number]? (run (done ++ next))[number]? := by
  constructor
  · intro pragma member
    have balanced : pragma.Balanced := Balanced.foldl_step (by simp) done pragma member
    exact ⟨balanced, fun code => ⟨balanced.markHit_fst code, balanced.contains_of_isHit⟩⟩
  · intro number
    unfold run
    rw [List.foldl_append]
    exact kept_foldl_step _ next number

end Pragma

end CheckerFixtures
