/-
**The order of paths.**

Paths are ordered by their components, first by the kind of a component and then by its text. This
is a strict order in which two paths that pass through the same stand at the same place and any
others one before the other.

* `Component.before_trans`, `Component.eq_of_not_before`: components are ordered;
* `before_trans`, `before_irrefl`: so are paths;
* `components_eq_of_not_before`: only paths that pass through the same are not ordered.
-/

import CheckerFixtures.Path
import CheckerFixtures.SortedMap

namespace CheckerFixtures.Path

/-! ### Components -/

theorem Component.before_iff {first second : Component} :
    first.before second = true ↔
      first.rank < second.rank ∨ first.rank = second.rank ∧ first.label < second.label := by
  simp [Component.before]

theorem Component.eq_of_rank_of_label {first second : Component}
    (rank : first.rank = second.rank) (label : first.label = second.label) : first = second := by
  cases first <;> cases second <;> simp_all [Component.rank, Component.label]

theorem Component.before_irrefl (component : Component) :
    ¬ component.before component = true := by
  rw [before_iff]
  rintro (less | ⟨-, less⟩)
  · exact Nat.lt_irrefl _ less
  · exact Std.lt_irrefl less

theorem Component.before_trans {first second third : Component}
    (earlier : first.before second = true) (later : second.before third = true) :
    first.before third = true := by
  rw [before_iff] at earlier later ⊢
  rcases earlier with earlier | ⟨same, earlier⟩ <;> rcases later with later | ⟨same', later⟩
  · exact .inl (Nat.lt_trans earlier later)
  · exact .inl (same' ▸ earlier)
  · exact .inl (same ▸ later)
  · exact .inr ⟨same.trans same', Std.lt_trans earlier later⟩

/-- Of two components one comes first, unless they are the same. -/
theorem Component.eq_of_not_before {first second : Component}
    (notBefore : ¬ first.before second = true) (notBehind : ¬ second.before first = true) :
    first = second := by
  rw [before_iff, not_or, not_and] at notBefore notBehind
  have rank : first.rank = second.rank :=
    Nat.le_antisymm (Nat.le_of_not_lt notBehind.1) (Nat.le_of_not_lt notBefore.1)
  refine eq_of_rank_of_label rank ?_
  rcases Std.lt_trichotomy first.label second.label with less | same | greater
  · exact absurd less (notBefore.2 rank)
  · exact same
  · exact absurd greater (notBehind.2 rank.symm)

/-! ### Paths -/

theorem before_iff_lex {first second : Path} :
    first.before second = true ↔
      List.Lex (fun x y => x.before y = true) first.components second.components :=
  List.lex_eq_true_iff_lex _

theorem before_irrefl (path : Path) : ¬ path.before path = true := by
  rw [before_iff_lex]
  exact List.lex_irrefl Component.before_irrefl _

theorem before_trans {first second third : Path} (earlier : first.before second = true)
    (later : second.before third = true) : first.before third = true := by
  rw [before_iff_lex] at earlier later ⊢
  exact List.lex_trans Component.before_trans earlier later

theorem before_asymm {first second : Path} (earlier : first.before second = true) :
    ¬ second.before first = true :=
  fun later => before_irrefl first (before_trans earlier later)

/-- **Only paths that pass through the same are not ordered.** -/
theorem components_eq_of_not_before {first second : Path}
    (notBefore : ¬ first.before second = true) (notBehind : ¬ second.before first = true) :
    first.components = second.components := by
  rw [before_iff_lex] at notBefore notBehind
  exact List.lex_trichotomous (fun _ _ => Component.eq_of_not_before) notBehind notBefore

/-- Paths that pass through the same stand at the same place. -/
theorem before_congr {first second : Path} (same : first.components = second.components)
    (third : Path) : third.before first = third.before second := by
  rw [before, before, same]

end CheckerFixtures.Path
