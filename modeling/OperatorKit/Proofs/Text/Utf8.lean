import OperatorKit.Text.Utf8

/-!
# Reading written characters

The bytes of a character tell how many they are and which character they spell, so reading takes
exactly the characters that were written and leaves nothing.
-/

namespace OperatorKit.Text.Utf8

/-- No character has a number beyond 21 bits. -/
theorem toNat_lt (char : Char) : char.val.toNat < 0x110000 := by
  have valid := char.valid
  simp only [UInt32.isValidChar, Nat.isValidChar] at valid
  omega

/-- The payload bits of the bytes of a character spell its number. -/
theorem payload_utf8EncodeChar (char : Char) :
    payload (String.utf8EncodeChar char) = char.toNat := by
  have bound := toNat_lt char
  rw [Char.toNat]
  simp only [String.utf8EncodeChar]
  repeat' split
  all_goals
    simp only [payload, UInt8.toNat_ofNat']
    omega

/-- The first byte of a character tells how many bytes it takes. -/
theorem utf8EncodeChar_eq_cons (char : Char) :
    ∃ first more, String.utf8EncodeChar char = first :: more ∧ width first = more.length + 1 := by
  have bound := toNat_lt char
  simp only [String.utf8EncodeChar]
  repeat' split
  all_goals
    refine ⟨_, _, rfl, ?_⟩
    simp only [width, UInt8.lt_iff_toNat_lt, UInt8.toNat_ofNat', UInt8.reduceToNat,
      List.length_cons, List.length_nil]
    repeat' split
    all_goals omega

/-- A written character is read, whatever follows it. -/
theorem nextChar?_append (char : Char) (rest : Bytes) :
    nextChar? (String.utf8EncodeChar char ++ rest) = some (char, rest) := by
  obtain ⟨first, more, bytes, size⟩ := utf8EncodeChar_eq_cons char
  have spelling : (first :: (more ++ rest)).take (width first) = String.utf8EncodeChar char := by
    rw [bytes, size]
    simp
  have left : (first :: (more ++ rest)).drop (width first) = rest := by
    rw [size]
    simp
  rw [bytes, List.cons_append, nextChar?]
  simp only [spelling, left, payload_utf8EncodeChar, Char.ofNat_toNat, if_true]

/-- Written characters are read whole. -/
theorem decode_encode (chars : List Char) : decode (encode chars) = (chars, []) := by
  induction chars with
  | nil =>
    rw [decode]
    rfl
  | cons char chars inductionHypothesis =>
    have step : nextChar? (encode (char :: chars)) = some (char, encode chars) :=
      nextChar?_append char (encode chars)
    rw [decode]
    split
    · rename_i nothing
      rw [step] at nothing
      cases nothing
    · rename_i next rest taken
      rw [step] at taken
      cases taken
      rw [inductionHypothesis]

/-- Characters written one after the other. -/
@[simp] theorem encode_append (front back : List Char) :
    encode (front ++ back) = encode front ++ encode back :=
  List.flatMap_append

/-- A number of 7 bits is the number of its byte. -/
theorem toNat_toUInt8 {number : Nat} (small : number < 0x80) : number.toUInt8.toNat = number := by
  rw [Nat.toUInt8_eq, UInt8.toNat_ofNat']
  omega

/-- A character of 7 bits is written as the byte of its number. -/
theorem utf8EncodeChar_of_lt {char : Char} (small : char.toNat < 0x80) :
    String.utf8EncodeChar char = [char.toNat.toUInt8] := by
  rw [Char.toNat] at small
  simp only [String.utf8EncodeChar]
  rw [if_pos (by omega)]
  rfl

/-- The bytes of a character of more than 7 bits all have their highest bit set. -/
theorem le_of_mem_utf8EncodeChar {char : Char} (large : 0x80 ≤ char.toNat) :
    ∀ byte ∈ String.utf8EncodeChar char, 0x80 ≤ byte.toNat := by
  have bound := toNat_lt char
  rw [Char.toNat] at large
  simp only [String.utf8EncodeChar]
  rw [if_neg (by omega)]
  repeat' split
  all_goals
    simp only [List.forall_mem_cons, UInt8.toNat_ofNat', List.not_mem_nil, false_implies,
      implies_true, and_true]
    omega

end OperatorKit.Text.Utf8
