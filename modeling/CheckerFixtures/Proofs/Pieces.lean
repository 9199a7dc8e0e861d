/-
**Where a text is cut.**

* `cutBehind_eq_iff`: some pieces are those of a text exactly when they put it together and each of
  them, but perhaps the last, ends with the only stop in it;
* `cutBehind_encode`: bytes are cut where their text is;
* `lineOfPiece_eq`: the two ways to strip a line end differ by one carriage return at most.
-/

import CheckerFixtures.Proofs.Utf8
import CheckerFixtures.Text.Lines

namespace CheckerFixtures.Text

variable {α : Type} {stop : α}

/-- Pieces that hold a stop at their end and nowhere else; the last one may lack it. -/
inductive IsCut (stop : α) : List (List α) → Prop
  | nil : IsCut stop []
  | unended {piece : List α} : piece ≠ [] → stop ∉ piece → IsCut stop [piece]
  | ended {body : List α} {rest : List (List α)} : stop ∉ body → IsCut stop rest →
      IsCut stop ((body ++ [stop]) :: rest)

theorem IsCut.of_append {first second : List (List α)} (cut : IsCut stop (first ++ second)) :
    IsCut stop first := by
  induction first with
  | nil => exact .nil
  | cons piece first ih =>
    rw [List.cons_append] at cut
    cases cut' : first ++ second with
    | nil =>
      rw [cut'] at cut
      obtain ⟨rfl, -⟩ := List.append_eq_nil_iff.mp cut'
      exact cut
    | cons next later =>
      rw [cut'] at cut ih
      cases cut with
      | ended free rest => exact .ended free (ih rest)

variable [DecidableEq α]

/-! ### Cutting -/

theorem cutBehind_of_notMem {piece : List α} (filled : piece ≠ []) (free : stop ∉ piece) :
    cutBehind stop piece = [piece] := by
  induction piece with
  | nil => exact absurd rfl filled
  | cons item piece ih =>
    have other := List.ne_of_not_mem_cons free
    have later := List.not_mem_of_not_mem_cons free
    rw [cutBehind, if_neg (Ne.symm other)]
    by_cases last : piece = []
    · rw [last]
      rfl
    · rw [ih last later]

theorem cutBehind_body {body : List α} (free : stop ∉ body) (rest : List α) :
    cutBehind stop (body ++ stop :: rest) = (body ++ [stop]) :: cutBehind stop rest := by
  induction body with
  | nil => rw [List.nil_append, cutBehind, if_pos rfl, List.nil_append]
  | cons item body ih =>
    have other := List.ne_of_not_mem_cons free
    have later := List.not_mem_of_not_mem_cons free
    rw [List.cons_append, cutBehind, if_neg (Ne.symm other), ih later, List.cons_append]

/-- What stands in front of the first stop belongs to the first piece. -/
theorem cutBehind_front {front : List α} (free : stop ∉ front) {items piece : List α}
    {rest : List (List α)} (cut : cutBehind stop items = piece :: rest) :
    cutBehind stop (front ++ items) = (front ++ piece) :: rest := by
  induction front with
  | nil => exact cut
  | cons item front ih =>
    have other := List.ne_of_not_mem_cons free
    have later := List.not_mem_of_not_mem_cons free
    rw [List.cons_append, cutBehind, if_neg (Ne.symm other), ih later, List.cons_append]

theorem isCut_cutBehind (items : List α) : IsCut stop (cutBehind stop items) := by
  induction items with
  | nil => exact .nil
  | cons item items ih =>
    rw [cutBehind]
    by_cases same : item = stop
    · rw [if_pos same, same]
      have none : stop ∉ ([] : List α) := by simp
      exact .ended none ih
    · rw [if_neg same]
      have extend : ∀ {piece : List α}, stop ∉ piece → stop ∉ item :: piece := by
        intro piece free
        exact List.not_mem_cons_of_ne_of_not_mem (Ne.symm same) free
      cases cut : cutBehind stop items with
      | nil => exact .unended (List.cons_ne_nil _ _) (extend (by simp))
      | cons piece rest =>
        rw [cut] at ih
        cases ih with
        | unended _ free => exact .unended (List.cons_ne_nil _ _) (extend free)
        | ended free later =>
          have longer := IsCut.ended (extend free) later
          rwa [List.cons_append] at longer

theorem cutBehind_flatten {pieces : List (List α)} (cut : IsCut stop pieces) :
    cutBehind stop pieces.flatten = pieces := by
  induction cut with
  | nil => rfl
  | unended filled free =>
    rw [List.flatten_cons, List.flatten_nil, List.append_nil, cutBehind_of_notMem filled free]
  | ended free _ ih =>
    rw [List.flatten_cons, List.append_assoc, List.singleton_append, cutBehind_body free, ih]

/-- **The pieces of a text** put it together and hold the stop at their ends only. -/
theorem cutBehind_eq_iff {items : List α} {pieces : List (List α)} :
    cutBehind stop items = pieces ↔ pieces.flatten = items ∧ IsCut stop pieces := by
  constructor
  · rintro rfl
    exact ⟨flatten_cutBehind stop items, isCut_cutBehind items⟩
  · rintro ⟨rfl, cut⟩
    exact cutBehind_flatten cut

/-! ### Bytes -/

/-- **Bytes are cut where their text is.** -/
theorem cutBehind_encode (text : List Char) :
    cutBehind 0x0A (Utf8.encode text) = (cutBehind '\n' text).map Utf8.encode := by
  induction text with
  | nil => rfl
  | cons c text ih =>
    rw [Utf8.encode_cons, cutBehind]
    by_cases newline : c = '\n'
    · rw [if_pos newline, newline, List.map_cons, ← ih]
      have none : (0x0A : UInt8) ∉ [] := List.not_mem_nil
      exact cutBehind_body none (Utf8.encode text)
    · rw [if_neg newline]
      have free := Utf8.newline_notMem newline
      cases cut : cutBehind '\n' text with
      | nil =>
        have empty : text = [] := by
          rw [← flatten_cutBehind '\n' text, cut, List.flatten_nil]
        rw [empty, Utf8.encode_nil, List.append_nil, cutBehind_of_notMem _ free]
        · show [String.utf8EncodeChar c] = [Utf8.encode [c]]
          rw [Utf8.encode_cons, Utf8.encode_nil, List.append_nil]
        · exact String.utf8EncodeChar_ne_nil
      | cons piece rest =>
        rw [cut, List.map_cons] at ih
        rw [cutBehind_front free ih, List.map_cons, Utf8.encode_cons]

/-! ### Line ends -/

theorem stripLast_concat (c : Char) (text : List Char) : stripLast c (text ++ [c]) = text := by
  unfold stripLast
  rw [if_pos (List.getLast?_concat ..), List.dropLast_concat]

theorem stripLast_of_ne {c : Char} {text : List Char} (other : text.getLast? ≠ some c) :
    stripLast c text = text := by
  unfold stripLast
  rw [if_neg other]

theorem eq_stripLast (c : Char) (text : List Char) :
    text = stripLast c text ∨ text = stripLast c text ++ [c] := by
  by_cases last : text.getLast? = some c
  · right
    obtain ⟨front, rfl⟩ := List.getLast?_eq_some_iff.mp last
    rw [stripLast_concat]
  · left
    exact (stripLast_of_ne last).symm

/-- **The two ways to strip a line end** differ only where a text ends with a carriage return. -/
theorem lineOfPiece_eq (piece : List Char) :
    lineOfPiece piece = lineOfStreamed piece ∨
      lineOfPiece piece = lineOfStreamed piece ++ ['\r'] := by
  unfold lineOfPiece lineOfStreamed
  by_cases ended : piece.getLast? = some '\n'
  · left
    rw [if_pos ended]
    unfold stripLast
    rw [if_pos ended]
  · rw [if_neg ended, stripLast_of_ne ended]
    exact eq_stripLast '\r' piece

/-! ### Lines -/

theorem lines_line {line : List Char} (single : '\n' ∉ line) (rest : List Char) :
    lines (line ++ '\n' :: rest) = stripLast '\r' line :: lines rest := by
  unfold lines
  rw [cutBehind_body single, List.map_cons]
  congr 1
  unfold lineOfPiece
  rw [if_pos (List.getLast?_concat ..), List.dropLast_concat]

theorem lines_unended {line : List Char} (single : '\n' ∉ line) (filled : line ≠ []) :
    lines line = [line] := by
  unfold lines
  rw [cutBehind_of_notMem filled single, List.map_singleton]
  unfold lineOfPiece
  rw [if_neg fun last => single (List.mem_of_getLast? last)]

end CheckerFixtures.Text
