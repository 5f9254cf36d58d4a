import OperatorKit.Text.Ascii

/-!
# UTF-8

Characters as bytes and back. Reading takes whole characters as long as it can, so what it returns
is the longest valid beginning of the bytes together with what is left.
-/

namespace OperatorKit.Text.Utf8

/-- The bytes of a text. -/
def encode (text : List Char) : Bytes :=
  text.flatMap String.utf8EncodeChar

/-- How many bytes the character with this first byte takes. -/
def width (first : Byte) : Nat :=
  if first < 0x80 then 1
  else if first < 0xE0 then 2
  else if first < 0xF0 then 3
  else 4

/-- The number spelled by the payload bits of one to four bytes. -/
def payload : Bytes → Nat
  | [a] => a.toNat
  | [a, b] => a.toNat % 32 * 64 + b.toNat % 64
  | [a, b, c] => a.toNat % 16 * 4096 + b.toNat % 64 * 64 + c.toNat % 64
  | [a, b, c, d] =>
      a.toNat % 8 * 262144 + b.toNat % 64 * 4096 + c.toNat % 64 * 64 + d.toNat % 64
  | _ => 0

/-- The first character of the bytes. A candidate counts only if it is written with exactly the
bytes it was read from, which rules out stray, overlong, surrogate and too large spellings. -/
def nextChar? : Bytes → Option (Char × Bytes)
  | [] => none
  | first :: more =>
    let spelling := (first :: more).take (width first)
    let candidate := Char.ofNat (payload spelling)
    if String.utf8EncodeChar candidate = spelling then
      some (candidate, (first :: more).drop (width first))
    else none

/-- Every character takes at least one byte. -/
theorem width_pos (first : Byte) : 0 < width first := by
  unfold width
  repeat' split
  all_goals decide

/-- Reading a character leaves fewer bytes. -/
theorem nextChar?_length {bytes rest : Bytes} {char : Char}
    (read : nextChar? bytes = some (char, rest)) : rest.length < bytes.length := by
  unfold nextChar? at read
  split at read
  · simp at read
  · rename_i first more
    have positive := width_pos first
    simp only at read
    split at read
    · simp only [Option.some.injEq, Prod.mk.injEq] at read
      rw [← read.2]
      simp only [List.length_drop, List.length_cons]
      omega
    · simp at read

/-- The characters of the longest valid beginning, and the bytes after it. -/
def decode (bytes : Bytes) : List Char × Bytes :=
  match _step : nextChar? bytes with
  | none => ([], bytes)
  | some (char, rest) =>
    let (chars, left) := decode rest
    (char :: chars, left)
termination_by bytes.length
decreasing_by exact nextChar?_length (by assumption)

/-- The text that the bytes spell, if they are valid throughout. -/
def text? (bytes : Bytes) : Option String :=
  match decode bytes with
  | (chars, []) => some (String.ofList chars)
  | (_, _ :: _) => none

end OperatorKit.Text.Utf8
