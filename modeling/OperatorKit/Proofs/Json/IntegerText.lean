import OperatorKit.Json.NumberLiteral
import OperatorKit.Proofs.Decimal.Digits
import OperatorKit.Proofs.Json.Reads

/-!
# Reading written integers

The digits of an integer that fits in a word are added up to the integer, and nothing of what
follows is taken for a part of it.
-/

namespace OperatorKit.Json

open OperatorKit.Text OperatorKit.Decimal

/-- Nothing comes next that would go on a number. -/
def EndsNumber (rest : Bytes) : Prop :=
  ∀ next more, rest = next :: more → Ascii.isDigit next = false ∧ next ≠ Ascii.dot ∧
    next ≠ Ascii.letterE ∧ next ≠ Ascii.capitalE

variable {rest : Bytes}

/-- No digit comes after a number. -/
theorem EndsNumber.startsWithDigit (ends : EndsNumber rest) : startsWithDigit rest = false := by
  cases rest with
  | nil => rfl
  | cons next more => exact (ends next more rfl).1

/-- Digits are skipped up to the first byte that is none. -/
theorem skipDigits_append {digits : Bytes} (areDigits : ∀ byte ∈ digits, Ascii.isDigit byte = true)
    (noDigit : startsWithDigit rest = false) : skipDigits (digits ++ rest) = rest := by
  rw [skipDigits, List.dropWhile_append_of_pos areDigits]
  cases rest with
  | nil => rfl
  | cons next more => rw [List.dropWhile_cons_of_neg (by simpa [startsWithDigit] using noDigit)]

/-- The digits of a number stand in front of its end. -/
theorem leadingDigits_append {digits : Bytes}
    (areDigits : ∀ byte ∈ digits, Ascii.isDigit byte = true) (ends : EndsNumber rest) :
    leadingDigits (digits ++ rest) = digits := by
  rw [leadingDigits, List.takeWhile_append_of_pos areDigits]
  cases rest with
  | nil => simp
  | cons next more => simp [List.takeWhile_cons_of_neg, (ends next more rfl).1]

/-- Digits of a number that fits are all added. -/
theorem addDigits_encode {digits : List Char} (areDigits : ∀ char ∈ digits, char.isDigit = true)
    {significand : Nat} (fits : Nat.ofDigitChars 10 digits significand < significandLimit) :
    addDigits significand (Utf8.encode digits) =
      (Nat.ofDigitChars 10 digits significand, []) := by
  induction digits generalizing significand with
  | nil => rfl
  | cons char digits inductionHypothesis =>
    rw [List.forall_mem_cons] at areDigits
    obtain ⟨byte, encoded, -, value⟩ := encode_cons_of_isDigit areDigits.1 digits
    rw [Nat.ofDigitChars_cons] at fits ⊢
    have larger : significand * 10 + Ascii.digitValue byte =
        10 * significand + (char.toNat - '0'.toNat) := by
      rw [Ascii.digitValue, value, Nat.mul_comm]
      rfl
    -- Digits never make a number smaller, so one that fits in the end fits all along.
    have stillFits := Nat.lt_of_le_of_lt (le_ofDigitChars digits _) fits
    rw [encoded, addDigits]
    simp only [larger, if_pos stillFits]
    exact inductionHypothesis areDigits.2 fits

/-- A number whose digits all fit and that ends here is an integer literal. -/
theorem readAfterInteger_end {negative : Bool} {significand : Nat} {number : Number}
    (integer : integerNumber? negative significand = some number) (ends : EndsNumber rest) :
    Reads (readAfterInteger negative significand 0 rest) number rest := by
  unfold readAfterInteger
  split
  · exact absurd rfl (ends _ _ rfl).2.1
  · exact absurd rfl (ends _ _ rfl).2.2.1
  · exact absurd rfl (ends _ _ rfl).2.2.2
  · rw [if_pos rfl, integer]
    exact ⟨_, rfl⟩

/-- The digits of a number that fits are read as the number of its literal. -/
theorem readNumber_written {negative : Bool} {magnitude : Nat} {number : Number}
    (fits : magnitude < significandLimit)
    (integer : integerNumber? negative magnitude = some number) (ends : EndsNumber rest) :
    Reads (readNumber negative (Utf8.encode (Nat.toDigits 10 magnitude) ++ rest)) number rest := by
  have areDigits := isDigit_of_mem_digits magnitude
  by_cases isZero : magnitude = 0
  · subst isZero
    have literal : Utf8.encode (Nat.toDigits 10 0) ++ rest = Ascii.zero :: rest := by
      rw [Nat.toDigits_zero]
      rfl
    rw [literal, readNumber, if_pos rfl, if_neg (by simp [ends.startsWithDigit])]
    exact readAfterInteger_end integer ends
  · obtain ⟨first, more, digits, notZero⟩ := digits_eq_cons (Nat.pos_of_ne_zero isZero)
    have added : addDigits 0 (Utf8.encode (Nat.toDigits 10 magnitude)) = (magnitude, []) := by
      have total : Nat.ofDigitChars 10 (Nat.toDigits 10 magnitude) 0 = magnitude :=
        Nat.ofDigitChars_ten_toDigits
      rw [addDigits_encode areDigits (by rwa [total]), total]
    rw [digits] at areDigits added ⊢
    rw [List.forall_mem_cons] at areDigits
    obtain ⟨byte, encoded, isDigit, value⟩ := encode_cons_of_isDigit areDigits.1 more
    have byteNotZero : byte ≠ Ascii.zero := by
      rintro rfl
      exact notZero (Char.toNat_inj.1 value.symm)
    have moreDigits := isDigit_of_mem_encode areDigits.2
    have taken : Reads (readAfterInteger negative magnitude 0
        (skipDigits (Utf8.encode more ++ rest))) number rest := by
      rw [skipDigits_append moreDigits ends.startsWithDigit]
      exact readAfterInteger_end integer ends
    rw [encoded] at added ⊢
    rw [List.cons_append, readNumber, if_neg byteNotZero, if_pos isDigit,
      leadingDigits_append moreDigits ends, added]
    exact taken.change fun fewer => ⟨_, rfl⟩

end OperatorKit.Json
