/-
**Readers advance.**

A text is read by four readers, one for blanks, one for an expected character, one for columns and
one for messages. They may be called in any order, behind a fault as well: each call takes a piece
off the front of what is unread, and leaves the rest to the next one. A reader that finds nothing
takes nothing. Whatever else it answers, a fault included, it has taken at least one character; so
no more calls find something than the text has characters, and a loop that goes on only while
something is found comes to its end.

* `isSuffix_of_answersBody`: what a message leaves unread stood at the end of the text;
* `advances_reply`: what one call does;
* `flatten_pieces`: what some calls take and what they leave unread make up the text;
* `countFound_add_length_le`: each call that finds something is paid for with a character;
* `reply_column_digits`: a run of digits is a column if its value fits, and a fault otherwise;
* `readers_advance`: all together.
-/

import CheckerFixtures.Proofs.BrokenIssues

namespace CheckerFixtures.Literal

/-! ### Calls -/

/-- One of the readers. -/
inductive Call where
  | skipBlanks
  | eat (expected : Char)
  | column
  | message

/-- What a reader answers. -/
inductive Answer where
  /-- To skip blanks answers nothing. -/
  | skipped
  /-- Whether the expected character came first. -/
  | eaten (found : Bool)
  | column (outcome : Except Fault (Option Nat))
  | message (outcome : Except Fault (Option (List Char)))

/-- Whether a reader found what it looks for, be it with a fault. -/
def Answer.found : Answer → Bool
  | skipped => false
  | eaten found => found
  | column (.ok none) => false
  | column _ => true
  | message (.ok none) => false
  | message _ => true

/-- What a call answers, and what it leaves unread. -/
structure Reply where
  answer : Answer
  rest : List Char

/-- The reply to a call on what is unread. -/
def Call.reply (unread : List Char) : Call → Reply
  | skipBlanks => ⟨.skipped, Literal.skipBlanks unread⟩
  | eat expected =>
    match eat? expected unread with
    | some rest => ⟨.eaten true, rest⟩
    | none => ⟨.eaten false, unread⟩
  | column => ⟨.column (Literal.column unread).outcome, (Literal.column unread).rest⟩
  | message => ⟨.message (Literal.message unread).outcome, (Literal.message unread).rest⟩

/-- What is still unread after some calls. -/
def unreadAfter (unread : List Char) : List Call → List Char
  | [] => unread
  | call :: calls => unreadAfter (call.reply unread).rest calls

/-- The pieces that some calls take, one for each call. -/
def pieces (unread : List Char) : List Call → List (List Char)
  | [] => []
  | call :: calls =>
    let rest := (call.reply unread).rest
    unread.take (unread.length - rest.length) :: pieces rest calls

/-- How many of some calls find something. -/
def countFound (unread : List Char) : List Call → Nat
  | [] => 0
  | call :: calls =>
    let reply := call.reply unread
    countFound reply.rest calls + if reply.answer.found then 1 else 0

/-! ### One call -/

/-- What a reply says of what was unread before the call. -/
structure Advances (unread : List Char) (reply : Reply) : Prop where
  /-- What is left stood at the end. -/
  suffix : reply.rest <:+ unread
  /-- If a reader looked for something in vain, all is left. -/
  stays : reply.answer ≠ .skipped → reply.answer.found = false → reply.rest = unread
  /-- If it found something, some of it is gone. -/
  takes : reply.answer.found = true → reply.rest.length < unread.length

/-- A reader that finds nothing and takes nothing. -/
theorem advances_stay {unread : List Char} {answer : Answer} (nothing : answer.found = false) :
    Advances unread ⟨answer, unread⟩ where
  suffix := List.suffix_rfl
  stays := fun _ _ => rfl
  takes := fun found => by
    rw [nothing] at found
    cases found

/-- A reader that finds something and takes some characters. -/
theorem advances_take {front rest : List Char} {answer : Answer} (found : answer.found = true)
    (filled : front ≠ []) : Advances (front ++ rest) ⟨answer, rest⟩ where
  suffix := List.suffix_append front rest
  stays := fun _ nothing => by
    rw [found] at nothing
    cases nothing
  takes := fun _ => by
    have := List.length_pos_iff.mpr filled
    show rest.length < (front ++ rest).length
    rw [List.length_append]
    omega

theorem advances_eat (expected : Char) (unread : List Char) :
    Advances unread ((Call.eat expected).reply unread) := by
  cases unread with
  | nil => exact advances_stay rfl
  | cons c rest =>
    rw [Call.reply, eat?]
    by_cases same : c = expected
    · rw [if_pos same]
      exact advances_take rfl (List.cons_ne_nil c [])
    · rw [if_neg same]
      exact advances_stay rfl

theorem advances_column (unread : List Char) : Advances unread (Call.column.reply unread) := by
  have answers := answersColumn unread
  rw [Call.reply]
  generalize column unread = reading at answers
  cases answers with
  | spelled spelled _ =>
    cases spelled with
    | absent => exact advances_stay rfl
    | digits filled _ _ => exact advances_take rfl filled
  | overflow numeral large _ => exact advances_take rfl (ne_nil_of_large numeral large)

/-- Whatever a message is read to, what it leaves unread stood at the end of the text. -/
theorem isSuffix_of_answersBody {text : List Char} {reading : Reading (List Char)}
    (answers : AnswersBody text reading) : reading.rest <:+ text := by
  cases answers with
  | @ended body _ rest _ => exact (List.suffix_cons '"' rest).trans (List.suffix_append body _)
  | cutOff _ => exact List.nil_suffix
  | @malformed body _ taken rest _ =>
    have behind : rest <:+ '\\' :: (taken ++ rest) :=
      (List.suffix_append taken rest).trans (List.suffix_cons '\\' _)
    exact behind.trans (List.suffix_append body _)

/-- Behind an opening quote something is found, if only a fault. -/
theorem found_messageBody (text : List Char) :
    (Answer.message (messageBody text).outcome).found = true := by
  have answers := answersBody text
  generalize messageBody text = reading at answers
  cases answers <;> rfl

theorem advances_message (unread : List Char) : Advances unread (Call.message.reply unread) := by
  by_cases quoted : unread.head? = some '"'
  · obtain ⟨behind, rfl⟩ := List.head?_eq_some_iff.mp quoted
    obtain ⟨taken, cut⟩ := isSuffix_of_answersBody (answersBody behind)
    have advances : Advances ('"' :: taken ++ (messageBody behind).rest)
        ⟨.message (messageBody behind).outcome, (messageBody behind).rest⟩ :=
      advances_take (found_messageBody behind) (List.cons_ne_nil '"' taken)
    rwa [List.cons_append, cut] at advances
  · rw [Call.reply, message_of_head quoted]
    exact advances_stay rfl

/-- **A call takes a piece off the front**: nothing if it looks for something in vain, and at least
one character if it finds something. -/
theorem advances_reply (unread : List Char) (call : Call) : Advances unread (call.reply unread) := by
  cases call with
  | skipBlanks =>
    exact ⟨List.dropWhile_suffix _, fun some _ => absurd rfl some, fun found => by cases found⟩
  | eat expected => exact advances_eat expected unread
  | column => exact advances_column unread
  | message => exact advances_message unread

/-! ### Many calls -/

/-- **What some calls take, and what they leave unread, make up the text.** -/
theorem flatten_pieces (source : List Char) (calls : List Call) :
    (pieces source calls).flatten ++ unreadAfter source calls = source := by
  induction calls generalizing source with
  | nil => rfl
  | cons call calls ih =>
    have suffix := (advances_reply source call).suffix
    rw [pieces, unreadAfter, List.flatten_cons, List.append_assoc, ih]
    exact List.suffix_iff_eq_append.mp suffix

/-- **Each call that finds something is paid for with a character.** -/
theorem countFound_add_length_le (source : List Char) (calls : List Call) :
    countFound source calls + (unreadAfter source calls).length ≤ source.length := by
  induction calls generalizing source with
  | nil => exact Nat.le_of_eq (Nat.zero_add _)
  | cons call calls ih =>
    have advances := advances_reply source call
    have later := ih (call.reply source).rest
    rw [countFound, unreadAfter]
    by_cases found : (call.reply source).answer.found = true
    · have shorter := advances.takes found
      rw [if_pos found]
      omega
    · have noLonger := advances.suffix.length_le
      rw [if_neg found]
      omega

/-! ### Runs of digits -/

/-- **A run of digits is a column if its value fits a machine word**, and otherwise a fault that
keeps the digits. -/
theorem reply_column_digits {digits tail : List Char} (filled : digits ≠ [])
    (inside : ∀ c ∈ digits, c.isDigit = true) (stop : ∀ c, tail.head? = some c → c.isDigit = false) :
    ∃ value, Denotes 10 digits value ∧
      Call.column.reply (digits ++ tail) =
        ⟨.column (if value < wordBound then .ok (some value) else .error (.columnOverflow digits)),
          tail⟩ := by
  have numeral := denotes_decimal inside
  refine ⟨decimal digits, numeral, ?_⟩
  by_cases small : decimal digits < wordBound
  · rw [if_pos small, Call.reply, Clause.column_of_spells (.digits filled numeral small) stop]
  · rw [if_neg small, Call.reply, column_of_overflow numeral (Nat.not_lt.mp small) stop]

/-- **Readers advance.** After any calls, the pieces that they took and what is unread make up the
text; the next call takes a piece off the front of that, nothing if it looks for something in vain,
and at least one character if it finds something. So no more calls find something than the text has
characters. And a run of digits, however long, is read to its value if this fits a machine word, and
to a fault with these digits otherwise. -/
theorem readers_advance :
    (∀ (source : List Char) (calls : List Call),
      (pieces source calls).flatten ++ unreadAfter source calls = source ∧
      (∀ call : Call, Advances (unreadAfter source calls)
        (call.reply (unreadAfter source calls))) ∧
      countFound source calls ≤ source.length) ∧
    ∀ digits tail : List Char, digits ≠ [] → (∀ c ∈ digits, c.isDigit = true) →
      (∀ c, tail.head? = some c → c.isDigit = false) →
      ∃ value, Denotes 10 digits value ∧
        Call.column.reply (digits ++ tail) =
          ⟨.column (if value < wordBound then .ok (some value)
            else .error (.columnOverflow digits)), tail⟩ := by
  constructor
  · intro source calls
    refine ⟨flatten_pieces source calls, advances_reply (unreadAfter source calls), ?_⟩
    exact Nat.le_of_add_right_le (countFound_add_length_le source calls)
  · intro digits tail filled inside stop
    exact reply_column_digits filled inside stop

/-- Behind a message with a fault in it the readers go on, up to a column that is one too large. -/
theorem readers_advance_behindFault :
    (pieces "007 \"a\\q\", 18446744073709551616x".toList
        [.column, .skipBlanks, .message, .eat '"', .eat ',', .skipBlanks]).flatten ++
      "18446744073709551616x".toList = "007 \"a\\q\", 18446744073709551616x".toList ∧
    Advances "18446744073709551616x".toList (Call.message.reply "18446744073709551616x".toList) ∧
    Call.column.reply "18446744073709551616x".toList =
      ⟨.column (.error (.columnOverflow "18446744073709551616".toList)), ['x']⟩ := by
  have left : unreadAfter "007 \"a\\q\", 18446744073709551616x".toList
      [.column, .skipBlanks, .message, .eat '"', .eat ',', .skipBlanks] =
        "18446744073709551616x".toList := by decide +kernel
  obtain ⟨cut, next, -⟩ := readers_advance.1 "007 \"a\\q\", 18446744073709551616x".toList
    [.column, .skipBlanks, .message, .eat '"', .eat ',', .skipBlanks]
  rw [left] at cut next
  have stop : ∀ c, ['x'].head? = some c → c.isDigit = false := by
    rintro c ⟨⟩
    rfl
  have inside : ∀ c ∈ "18446744073709551616".toList, c.isDigit = true :=
    List.all_eq_true.mp (by decide +kernel)
  obtain ⟨value, numeral, reply⟩ :=
    readers_advance.2 "18446744073709551616".toList ['x'] (by simp) inside stop
  have large : decimal "18446744073709551616".toList = wordBound := by decide +kernel
  rw [← decimal_of_denotes numeral, large, if_neg (Nat.lt_irrefl _)] at reply
  exact ⟨cut, next .message, reply⟩

end CheckerFixtures.Literal
