/-
**Lines.**

A text, or a string of bytes, is cut behind each line feed; the pieces keep their line ends, so
nothing is lost. A line is a piece without its end, which is a line feed with at most one carriage
return before it.

* `flatten_cutBehind`: the pieces put together give the whole back;
* `cutBehind_append`: behind a complete line the cutting starts afresh.
-/

namespace CheckerFixtures.Text

/-! ### Pieces -/

/-- The items cut behind each stop; no piece is empty, and only the last may lack the stop. -/
def cutBehind {α : Type} [DecidableEq α] (stop : α) : List α → List (List α)
  | [] => []
  | item :: items =>
    if item = stop then [item] :: cutBehind stop items
    else match cutBehind stop items with
      | [] => [[item]]
      | piece :: rest => (item :: piece) :: rest

/-- Cutting loses nothing. -/
theorem flatten_cutBehind {α : Type} [DecidableEq α] (stop : α) (items : List α) :
    (cutBehind stop items).flatten = items := by
  induction items with
  | nil => rfl
  | cons item items ih =>
    rw [cutBehind]
    split
    · simp [ih]
    · cases cut : cutBehind stop items with
      | nil => rw [cut] at ih; simpa using ih
      | cons piece rest => rw [cut] at ih; simpa using ih

/-- Behind a stop the cutting starts afresh. -/
theorem cutBehind_append {α : Type} [DecidableEq α] (stop : α) (items rest : List α) :
    cutBehind stop (items ++ stop :: rest) =
      cutBehind stop (items ++ [stop]) ++ cutBehind stop rest := by
  induction items with
  | nil => simp [cutBehind]
  | cons item items ih =>
    rw [List.cons_append, cutBehind, List.cons_append, cutBehind]
    split
    · simp [ih]
    · rw [ih]
      cases cut : cutBehind stop (items ++ [stop]) with
      | nil =>
        have whole := flatten_cutBehind stop (items ++ [stop])
        rw [cut] at whole
        simp at whole
      | cons piece others => simp

/-! ### Lines -/

/-- A text without one given last character, if it ends with that. -/
def stripLast (c : Char) (text : List Char) : List Char :=
  if text.getLast? = some c then text.dropLast else text

/-- A piece without its line end. A carriage return belongs to the end only before a line feed. -/
def lineOfPiece (piece : List Char) : List Char :=
  if piece.getLast? = some '\n' then stripLast '\r' piece.dropLast else piece

def lines (text : List Char) : List (List Char) := (cutBehind '\n' text).map lineOfPiece

/-- A piece without a line feed and then without a carriage return, each if it is there. -/
def lineOfStreamed (piece : List Char) : List Char := stripLast '\r' (stripLast '\n' piece)

end CheckerFixtures.Text
