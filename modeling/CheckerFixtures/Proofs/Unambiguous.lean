/-
**Texts that can be told apart.**

Pieces can be read off what was put together from them, if a mark behind each piece does not occur
in it, or if no piece is the beginning of another one. So the digits of a number, the form of a
character in quotes and the items of a list each determine what they stand for.

* `append_mark_inj`: what stands in front of a mark, and what behind it;
* `intercalate_inj`: the items of a list with marks between them;
* `toDigits_ten_inj`, `toDigits_sixteen_inj`: a number;
* `quote_inj`: a text in quotes.
-/

import CheckerFixtures.Proofs.Numeral
import CheckerFixtures.Text.Quoted
import Mathlib.Data.List.Basic

namespace CheckerFixtures.Text

/-! ### Marks -/

/-- **What stands in front of the first mark and behind it are told apart.** -/
theorem append_mark_inj {α : Type} {mark : α} {front other rest rest' : List α}
    (free : mark ∉ front) (free' : mark ∉ other)
    (same : front ++ mark :: rest = other ++ mark :: rest') :
    front = other ∧ rest = rest' := by
  induction front generalizing other with
  | nil =>
    cases other with
    | nil => exact ⟨rfl, (List.cons.inj same).2⟩
    | cons c other => exact absurd (List.cons.inj same).1 (List.ne_of_not_mem_cons free')
  | cons c front ih =>
    cases other with
    | nil => exact absurd (List.cons.inj same).1.symm (List.ne_of_not_mem_cons free)
    | cons c' other =>
      obtain ⟨first, later⟩ := List.cons.inj same
      obtain ⟨fronts, rests⟩ := ih (List.not_mem_of_not_mem_cons free)
        (List.not_mem_of_not_mem_cons free') later
      exact ⟨by rw [first, fronts], rests⟩

theorem intercalate_cons (gap first : List Char) (items : List (List Char)) :
    List.intercalate gap (first :: items) = first ++ items.flatMap (gap ++ ·) := by
  induction items generalizing first with
  | nil => simp
  | cons second items ih =>
    rw [List.intercalate_cons_cons, ih, List.flatMap_cons, List.append_assoc, List.append_assoc]

/-- What a list is put together from is in it. -/
theorem subset_intercalate (gap : List Char) {items : List (List Char)} {item : List Char}
    (member : item ∈ items) : item ⊆ List.intercalate gap items := by
  cases items with
  | nil => cases member
  | cons first items =>
    rw [intercalate_cons]
    intro c inside
    rcases List.mem_cons.mp member with rfl | later
    · exact List.mem_append_left _ inside
    · exact List.mem_append_right _
        (List.mem_flatMap.mpr ⟨item, later, List.mem_append_right _ inside⟩)

/-- What stands between two items may as well be counted to the second one, but for its mark. -/
theorem intercalate_mark (mark : Char) (gap first : List Char) (items : List (List Char)) :
    List.intercalate (mark :: gap) (first :: items) =
      List.intercalate [mark] (first :: items.map (gap ++ ·)) := by
  rw [intercalate_cons, intercalate_cons, List.flatMap_map]
  simp only [List.cons_append, List.nil_append]

theorem splitOn_intercalate_mark {mark : Char} {gap first : List Char} {items : List (List Char)}
    (inside : mark ∉ gap) (free : ∀ item ∈ first :: items, mark ∉ item) :
    (List.intercalate (mark :: gap) (first :: items)).splitOn mark =
      first :: items.map (gap ++ ·) := by
  rw [intercalate_mark]
  refine List.splitOn_intercalate mark ?_ (List.cons_ne_nil _ _)
  intro item member
  rcases List.mem_cons.mp member with rfl | later
  · exact free item List.mem_cons_self
  · obtain ⟨own, listed, rfl⟩ := List.mem_map.mp later
    rw [List.mem_append, not_or]
    exact ⟨inside, free own (List.mem_cons_of_mem _ listed)⟩

/-- **Items with marks between them are told apart.** -/
theorem intercalate_inj {mark : Char} {gap : List Char} {items others : List (List Char)}
    (inside : mark ∉ gap) (some : items ≠ []) (some' : others ≠ [])
    (free : ∀ item ∈ items, mark ∉ item) (free' : ∀ item ∈ others, mark ∉ item)
    (same : List.intercalate (mark :: gap) items = List.intercalate (mark :: gap) others) :
    items = others := by
  obtain ⟨first, items, rfl⟩ := List.exists_cons_of_ne_nil some
  obtain ⟨first', others, rfl⟩ := List.exists_cons_of_ne_nil some'
  have cut := congrArg (List.splitOn mark) same
  rw [splitOn_intercalate_mark inside free, splitOn_intercalate_mark inside free'] at cut
  obtain ⟨firsts, later⟩ := List.cons.inj cut
  rw [firsts, List.map_injective_iff.mpr (List.append_right_injective gap) later]

/-! ### Numbers -/

theorem toDigits_ten_inj {number other : Nat}
    (same : Nat.toDigits 10 number = Nat.toDigits 10 other) : number = other := by
  rw [← Literal.decimal_of_denotes (Literal.denotes_toDigits number), same,
    Literal.decimal_of_denotes (Literal.denotes_toDigits other)]

theorem toDigits_sixteen_inj {number other : Nat}
    (same : Nat.toDigits 16 number = Nat.toDigits 16 other) : number = other := by
  rw [← Literal.hexNumber_of_denotes (Literal.denotes_toDigits_of_base (by decide) number), same,
    Literal.hexNumber_of_denotes (Literal.denotes_toDigits_of_base (by decide) other)]

theorem brace_notMem_toDigits (number : Nat) : '\x7d' ∉ Nat.toDigits 16 number := by
  intro member
  have digit := Literal.isHexDigit_of_denotes (Literal.denotes_toDigits_of_base (by decide) number)
    _ member
  cases digit

/-! ### Quotes -/

/-- A letter stands for one character only, and none is written with the letter of a number. -/
theorem letter?_inj {c d letter : Char} (first : letter? c = some letter)
    (second : letter? d = some letter) : c = d ∧ letter ≠ 'u' := by
  unfold letter? at first second
  split at first <;> cases first <;> split at second <;> simp_all

theorem numbered_append (c : Char) (rest : List Char) :
    numbered c ++ rest =
      '\\' :: 'u' :: '\x7b' :: (Nat.toDigits 16 c.toNat ++ '\x7d' :: rest) := by
  simp [numbered]

/-- The form of a character in quotes. -/
inductive Form (c : Char) : List Char → Prop
  | letter {letter : Char} : letter? c = some letter → Form c ['\\', letter]
  | number : Form c (numbered c)
  | plain : c ≠ '\\' → c ≠ '"' → Form c [c]

theorem form_quoteChar (c : Char) : Form c (quoteChar c) := by
  unfold quoteChar
  split
  · rename_i letter known
    exact .letter known
  · rename_i unknown
    split
    · refine .plain ?_ ?_
      · rintro rfl
        cases unknown
      · rintro rfl
        cases unknown
    · exact .number

theorem Form.ne_nil {c : Char} {form : List Char} (holds : Form c form) : form ≠ [] := by
  cases holds <;> exact List.cons_ne_nil _ _

/-- **No form is the beginning of another one.** -/
theorem Form.append_inj {c d : Char} {form form' rest rest' : List Char} (first : Form c form)
    (second : Form d form') (same : form ++ rest = form' ++ rest') : c = d ∧ rest = rest' := by
  -- behind a backslash, the second character tells a letter from a number
  cases first with
  | letter known =>
    cases second with
    | letter known' =>
      obtain ⟨rfl, later⟩ := List.cons.inj (List.cons.inj same).2
      exact ⟨(letter?_inj known known').1, later⟩
    | number =>
      have isU := (List.cons.inj (List.cons.inj same).2).1
      exact absurd isU (letter?_inj known known).2
    | plain notBackslash => exact absurd (List.cons.inj same).1.symm notBackslash
  | number =>
    cases second with
    | letter known' =>
      have isU := (List.cons.inj (List.cons.inj same).2).1
      exact absurd isU.symm (letter?_inj known' known').2
    | number =>
      rw [numbered_append, numbered_append] at same
      have later := (List.cons.inj (List.cons.inj (List.cons.inj same).2).2).2
      obtain ⟨digits, rests⟩ := append_mark_inj (brace_notMem_toDigits c.toNat)
        (brace_notMem_toDigits d.toNat) later
      exact ⟨Char.toNat_inj.mp (toDigits_sixteen_inj digits), rests⟩
    | plain notBackslash => exact absurd (List.cons.inj same).1.symm notBackslash
  | plain notBackslash =>
    cases second with
    | letter => exact absurd (List.cons.inj same).1 notBackslash
    | number => exact absurd (List.cons.inj same).1 notBackslash
    | plain => exact List.cons.inj same

theorem quoteChars_inj {text other : List Char} (same : quoteChars text = quoteChars other) :
    text = other := by
  induction text generalizing other with
  | nil =>
    cases other with
    | nil => rfl
    | cons d other => exact absurd (List.append_eq_nil_iff.mp same.symm).1 (form_quoteChar d).ne_nil
  | cons c text ih =>
    cases other with
    | nil => exact absurd (List.append_eq_nil_iff.mp same).1 (form_quoteChar c).ne_nil
    | cons d other =>
      obtain ⟨rfl, later⟩ := (form_quoteChar c).append_inj (form_quoteChar d) same
      rw [ih later]

/-- **A text is determined by its form in quotes.** -/
theorem quote_inj {text other : List Char} (same : quote text = quote other) : text = other := by
  unfold quote at same
  exact quoteChars_inj (List.append_cancel_right (List.cons.inj same).2)

end CheckerFixtures.Text
