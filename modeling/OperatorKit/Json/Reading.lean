import OperatorKit.Json.Fault

/-!
# Reading from the front of a text

A reader takes something from the front of the bytes and returns what is left, together with the
proof that this is less than before. Loops over the rest of a text therefore end without a counter.
-/

namespace OperatorKit.Json

open OperatorKit.Text

/-- Something taken from a text of which fewer than `bound` bytes are left. -/
structure Taken (α : Type) (bound : Nat) where
  value : α
  rest : Bytes
  fewer : rest.length < bound

namespace Taken

/-- The same bytes taken, with another value. -/
def map {α β : Type} {bound : Nat} (change : α → β) (taken : Taken α bound) : Taken β bound :=
  ⟨change taken.value, taken.rest, taken.fewer⟩

/-- Fewer bytes than a bound are fewer than a larger bound. -/
def widen {α : Type} {bound larger : Nat} (taken : Taken α bound) (wider : bound ≤ larger) :
    Taken α larger :=
  ⟨taken.value, taken.rest, Nat.lt_of_lt_of_le taken.fewer wider⟩

/-- A value after which `rest` is left. -/
def leaving {α : Type} (value : α) (rest : Bytes) : Taken α (rest.length + 1) :=
  ⟨value, rest, Nat.lt_succ_self _⟩

/-- What was taken from behind one more byte. -/
def afterByte {α : Type} {bound : Nat} (taken : Taken α bound) : Taken α (bound + 1) :=
  taken.widen (Nat.le_succ _)

/-- What was taken from behind something else. -/
def after {α β : Type} {bound : Nat} (first : Taken α bound)
    (second : Taken β first.rest.length) : Taken β bound :=
  second.widen (Nat.le_of_lt first.fewer)

end Taken

/-- Takes a value from the front of a text, at least one byte long. -/
abbrev Reader (α : Type) :=
  (text : Bytes) → Except Fault (Taken α text.length)

/-- The text without the blanks in front. -/
def skipBlanks (text : Bytes) : Bytes :=
  text.dropWhile Ascii.isBlank

/-- Skipping blanks adds nothing. -/
theorem length_skipBlanks_le (text : Bytes) : (skipBlanks text).length ≤ text.length :=
  (List.dropWhile_sublist _).length_le

/-- What follows the first byte after the blanks is shorter than the text. -/
theorem length_lt_of_skipBlanks {text rest : Bytes} {next : Byte}
    (blanks : skipBlanks text = next :: rest) : rest.length < text.length := by
  have bound := length_skipBlanks_le text
  rw [blanks] at bound
  exact bound

/-- Takes exactly the bytes of `word`; the first byte that differs is taken before the fault. -/
def readWord : (word text : Bytes) → Except Fault (Taken Unit (text.length + 1))
  | [], text => .ok (.leaving () text)
  | _ :: _, [] => .error (.here .endInValue [])
  | expected :: word, next :: text =>
    if next = expected then
      (readWord word text).map Taken.afterByte
    else .error (.here .expectedWord text)

end OperatorKit.Json
