import OperatorKit.Proofs.Text.Utf8

/-!
# Bytes in the order of characters

Texts are ordered by their characters, and their bytes come in the same order: the first byte of a
character grows with the number of its bytes, and each of the others holds six more bits.
-/

namespace OperatorKit.Text.Utf8

/-- A smaller number is smaller without its last six bits, or the same there and smaller in them. -/
theorem lt_in_six_bits {left right : Nat} (smaller : left < right) :
    left / 64 < right / 64 ∨ left / 64 = right / 64 ∧ left % 64 < right % 64 := by
  omega

/-- The bytes of a smaller character come first, whatever follows either of them. -/
theorem utf8EncodeChar_append_lt {left right : Char} (smaller : left < right)
    (leftRest rightRest : Bytes) :
    String.utf8EncodeChar left ++ leftRest < String.utf8EncodeChar right ++ rightRest := by
  have leftBound := toNat_lt left
  have rightBound := toNat_lt right
  have inLast := lt_in_six_bits (UInt32.lt_iff_toNat_lt.1 smaller)
  have inThird := @lt_in_six_bits (left.val.toNat / 64) (right.val.toNat / 64)
  have inSecond := @lt_in_six_bits (left.val.toNat / 64 / 64) (right.val.toNat / 64 / 64)
  have twelveBits (number : Nat) : number / 4096 = number / 64 / 64 := by omega
  have eighteenBits (number : Nat) : number / 262144 = number / 64 / 64 / 64 := by omega
  simp only [String.utf8EncodeChar, twelveBits, eighteenBits]
  repeat' split
  all_goals
    simp (disch := omega) only [List.cons_append, List.nil_append, List.cons_lt_cons_iff,
      UInt8.lt_iff_toNat_lt, ← UInt8.toNat_inj, UInt8.toNat_ofNat', Nat.mod_eq_of_lt]
    omega

/-- The bytes of a smaller text come first. -/
theorem encode_lt_encode {left right : List Char} (smaller : left < right) :
    encode left < encode right := by
  rw [← List.lex_lt] at smaller
  induction smaller with
  | @nil char chars =>
    obtain ⟨first, more, bytes, -⟩ := utf8EncodeChar_eq_cons char
    rw [encode, encode, List.flatMap_nil, List.flatMap_cons, bytes]
    exact List.nil_lt_cons _ _
  | rel smallerChar => exact utf8EncodeChar_append_lt smallerChar _ _
  | cons _ inductionHypothesis => exact List.append_left_lt inductionHypothesis

end OperatorKit.Text.Utf8
