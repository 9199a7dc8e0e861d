/-
**Blank characters and trimming.**

A blank is a character with the Unicode property White_Space: twenty-five code points, listed
here as ranges. Trimming works on lists of characters.

* `isBlank_of_isWhitespace`: every whitespace character of the core library is blank;
* `trim_eq_nil_iff`: a text trims to nothing exactly when it is all blank;
* `trimEnd_append_blanks`: blanks at the end never change the trimmed text.
-/

namespace CheckerFixtures.Text

/-! ### The class of blanks -/

/-- The ranges of White_Space, both ends included. -/
def blankRanges : List (Nat × Nat) :=
  [(0x09, 0x0D), (0x20, 0x20), (0x85, 0x85), (0xA0, 0xA0), (0x1680, 0x1680), (0x2000, 0x200A),
    (0x2028, 0x2029), (0x202F, 0x202F), (0x205F, 0x205F), (0x3000, 0x3000)]

/-- A blank has the Unicode property White_Space. -/
def isBlank (c : Char) : Bool :=
  blankRanges.any fun (low, high) => low ≤ c.toNat && c.toNat ≤ high

/-- The whitespace of the core library, which is ASCII only, is blank. -/
theorem isBlank_of_isWhitespace {c : Char} (space : c.isWhitespace = true) : isBlank c = true := by
  simp only [Char.isWhitespace, Bool.or_eq_true, decide_eq_true_eq] at space
  rcases space with ((rfl | rfl) | rfl) | rfl <;> rfl

/-! ### Trimming -/

/-- The text without its leading blanks. -/
def trimStart (text : List Char) : List Char := text.dropWhile isBlank

/-- The text without its trailing blanks. -/
def trimEnd (text : List Char) : List Char := (text.reverse.dropWhile isBlank).reverse

/-- The text without the blanks at both ends. -/
def trim (text : List Char) : List Char := trimEnd (trimStart text)

/-- Dropping while a test holds leaves nothing exactly when every element passes it. -/
theorem dropWhile_eq_nil_iff {α : Type} (test : α → Bool) (items : List α) :
    items.dropWhile test = [] ↔ ∀ item ∈ items, test item = true := by
  induction items with
  | nil => simp
  | cons item rest ih => by_cases pass : test item = true <;> simp [pass, ih]

theorem trimEnd_eq_nil_iff (text : List Char) :
    trimEnd text = [] ↔ ∀ c ∈ text, isBlank c = true := by
  rw [trimEnd, List.reverse_eq_nil_iff, dropWhile_eq_nil_iff]
  simp

theorem trimStart_eq_nil_iff (text : List Char) :
    trimStart text = [] ↔ ∀ c ∈ text, isBlank c = true :=
  dropWhile_eq_nil_iff isBlank text

/-- A text trims to nothing exactly when every character is blank. -/
theorem trim_eq_nil_iff (text : List Char) :
    trim text = [] ↔ ∀ c ∈ text, isBlank c = true := by
  induction text with
  | nil => simp [trim, trimStart, trimEnd]
  | cons c rest ih =>
    by_cases blank : isBlank c = true
    · simpa [trim, trimStart, blank] using ih
    · simp only [trim, trimStart, List.dropWhile_cons, blank, trimEnd_eq_nil_iff,
        Bool.false_eq_true, if_false]

/-- Blanks added at the end are trimmed away again. -/
theorem trimEnd_append_blanks (text blanks : List Char)
    (allBlank : ∀ c ∈ blanks, isBlank c = true) : trimEnd (text ++ blanks) = trimEnd text := by
  have reversed : ∀ c ∈ blanks.reverse, isBlank c = true := by simpa using allBlank
  have dropped : blanks.reverse.dropWhile isBlank = [] :=
    (dropWhile_eq_nil_iff isBlank _).mpr reversed
  simp [trimEnd, List.dropWhile_append, dropped]

end CheckerFixtures.Text
