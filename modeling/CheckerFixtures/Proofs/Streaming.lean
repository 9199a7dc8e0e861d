/-
**Reading bytes agrees with reading their text.**

Bytes are decoded line by line, up to the first line that is no UTF-8. What comes of it is the
fixture of the text in front of that line: neither where the bytes are cut nor how line ends are
stripped makes a difference.

* `map_encode_decodedPieces`: the decoded pieces are the leading pieces that are UTF-8;
* `cutBehind_flatten_decodedPieces`: their text is cut into the same pieces;
* `ofLines_streamed`: line ends may be stripped either way;
* `ofBytes_eq_ofText`: the fixture of some bytes is the fixture of their readable text.
-/

import CheckerFixtures.Proofs.LineEnds
import CheckerFixtures.Proofs.Pieces

namespace CheckerFixtures.Fixture

open Utf8 (IsUtf8)

/-! ### The pieces that are kept -/

/-- Whether a piece can be decoded. -/
def isReadable (piece : List UInt8) : Bool := (Utf8.decode? piece).isSome

theorem isReadable_iff {piece : List UInt8} : isReadable piece = true ↔ IsUtf8 piece :=
  Utf8.decode?_isSome_iff

/-- The pieces of some bytes in front of the first one that is no UTF-8. -/
def keptPieces (bytes : List UInt8) : List (List UInt8) :=
  (Text.cutBehind 0x0A bytes).takeWhile isReadable

theorem map_encode_decodedPieces (bytes : List UInt8) :
    (decodedPieces bytes).map Utf8.encode = keptPieces bytes := by
  unfold decodedPieces keptPieces
  induction Text.cutBehind 0x0A bytes with
  | nil => rfl
  | cons piece pieces ih =>
    cases decoded : Utf8.decode? piece with
    | none =>
      have unreadable : isReadable piece = false := by
        unfold isReadable
        rw [decoded]
        rfl
      rw [List.map_cons, decoded, List.takeWhile_cons_of_neg (by simp),
        List.takeWhile_cons_of_neg (by simp [unreadable])]
      rfl
    | some text =>
      have readable : isReadable piece = true := by
        unfold isReadable
        rw [decoded]
        rfl
      rw [List.map_cons, decoded, List.takeWhile_cons_of_pos (by simp),
        List.takeWhile_cons_of_pos readable, ← ih, Utf8.decode?_eq_some_iff.mp decoded]
      rfl

theorem encode_flatten_decodedPieces (bytes : List UInt8) :
    Utf8.encode (decodedPieces bytes).flatten = (keptPieces bytes).flatten := by
  rw [← map_encode_decodedPieces]
  induction decodedPieces bytes with
  | nil => rfl
  | cons piece pieces ih =>
    rw [List.flatten_cons, Utf8.encode_append, ih, List.map_cons, List.flatten_cons]

/-- The decoded text is cut where the bytes were cut. -/
theorem cutBehind_flatten_decodedPieces (bytes : List UInt8) :
    Text.cutBehind '\n' (decodedPieces bytes).flatten = decodedPieces bytes := by
  have kept : Text.IsCut 0x0A (keptPieces bytes) := by
    have whole : Text.IsCut 0x0A (Text.cutBehind 0x0A bytes) := Text.isCut_cutBehind bytes
    rw [← List.takeWhile_append_dropWhile (p := isReadable) (l := Text.cutBehind 0x0A bytes)]
      at whole
    exact whole.of_append
  have same := Text.cutBehind_encode (decodedPieces bytes).flatten
  rw [encode_flatten_decodedPieces, Text.cutBehind_flatten kept, ← map_encode_decodedPieces] at same
  exact ((List.map_inj_right fun _ _ => Utf8.encode_injective).mp same).symm

/-- All pieces of UTF-8 are kept. -/
theorem keptPieces_of_isUtf8 {bytes : List UInt8} (readable : IsUtf8 bytes) :
    keptPieces bytes = Text.cutBehind 0x0A bytes := by
  obtain ⟨text, rfl⟩ := readable
  unfold keptPieces
  rw [Text.cutBehind_encode, List.takeWhile_eq_self_iff]
  intro piece member
  obtain ⟨line, -, rfl⟩ := List.mem_map.mp member
  exact isReadable_iff.mpr ⟨line, rfl⟩

/-! ### Line ends -/

theorem unseen_return {tokens : List String} (plain : ∀ token ∈ tokens, '\r' ∉ token.toList) :
    Unseen ((usableTokens tokens).map String.toList) ['\r'] := by
  constructor
  · decide
  · intro token listed c member
    obtain ⟨original, usable, rfl⟩ := List.mem_map.mp listed
    rw [List.mem_singleton.mp member]
    exact plain original (List.mem_filter.mp usable).1

theorem unseen_nil (tokens : List (List Char)) : Unseen tokens [] := by
  constructor
  · simp [Blanks]
  · simp

/-- Line ends may be stripped in either way. -/
theorem ofLines_streamed {tokens : List String} (plain : ∀ token ∈ tokens, '\r' ∉ token.toList)
    (name : String) (content : List Char) (pieces : List (List Char)) :
    ofLines name content tokens (pieces.map Text.lineOfStreamed) =
      ofLines name content tokens (pieces.map Text.lineOfPiece) := by
  have same : List.Forall₂ (SameUpToBlanks ((usableTokens tokens).map String.toList))
      (pieces.map Text.lineOfStreamed) (pieces.map Text.lineOfPiece) := by
    rw [List.forall₂_map_left_iff, List.forall₂_map_right_iff, List.forall₂_same]
    intro piece _
    have none := unseen_nil ((usableTokens tokens).map String.toList)
    rcases Text.lineOfPiece_eq piece with same | longer
    · exact ⟨Text.lineOfStreamed piece, [], [], none, none, by simp, by simp [same]⟩
    · exact ⟨Text.lineOfStreamed piece, [], ['\r'], none, unseen_return plain, by simp, longer⟩
  unfold ofLines
  rw [Scan.ofLines_congr same]

/-! ### Whole files -/

/-- **The fixture of some bytes is the fixture of their readable text**: the lines in front of the
first one that is no UTF-8, and everything if there is no such line. -/
theorem ofBytes_eq_ofText (name : String) (bytes : List UInt8) {tokens : List String}
    (plain : ∀ token ∈ tokens, '\r' ∉ token.toList) :
    ∃ (kept dropped : List (List UInt8)) (text : String),
      Text.cutBehind 0x0A bytes = kept ++ dropped ∧
      (∀ piece ∈ kept, IsUtf8 piece) ∧
      (∀ piece, dropped.head? = some piece → ¬ IsUtf8 piece) ∧
      Utf8.encode text.toList = kept.flatten ∧
      (IsUtf8 bytes → Utf8.encode text.toList = bytes) ∧
      ofBytes name bytes tokens = ofText name text tokens := by
  refine ⟨keptPieces bytes, (Text.cutBehind 0x0A bytes).dropWhile isReadable,
    String.ofList (decodedPieces bytes).flatten, ?_, ?_, ?_, ?_, ?_, ?_⟩
  · exact List.takeWhile_append_dropWhile.symm
  · intro piece member
    exact isReadable_iff.mp (List.mem_takeWhile_imp member)
  · intro piece first readable
    have head := List.head?_dropWhile_not isReadable (Text.cutBehind 0x0A bytes)
    rw [first] at head
    have unreadable : isReadable piece = false := head
    rw [isReadable_iff.mpr readable] at unreadable
    cases unreadable
  · rw [String.toList_ofList, encode_flatten_decodedPieces]
  · intro readable
    rw [String.toList_ofList, encode_flatten_decodedPieces, keptPieces_of_isUtf8 readable,
      Text.flatten_cutBehind]
  · unfold ofBytes ofText Text.lines
    rw [String.toList_ofList, cutBehind_flatten_decodedPieces, ofLines_streamed plain]

theorem ofBytes_eq_ofText_of_returns :
    (∀ token ∈ ["//"], '\r' ∉ token.toList) ∧
      ofBytes "a" (Utf8.encode "// [A]\r\nx\r".toList) ["//"] =
        ofText "a" "// [A]\r\nx\r" ["//"] := by
  have plain : ∀ token ∈ ["//"], '\r' ∉ token.toList := by decide
  obtain ⟨_, _, text, _, _, _, _, whole, same⟩ :=
    ofBytes_eq_ofText "a" (Utf8.encode "// [A]\r\nx\r".toList) plain
  have read : text = "// [A]\r\nx\r" :=
    String.toList_inj.mp (Utf8.encode_injective (whole ⟨_, rfl⟩))
  rw [read] at same
  exact ⟨plain, same⟩

end CheckerFixtures.Fixture
