import OperatorKit.Decimal.Integer
import OperatorKit.Proofs.Text.Utf8

/-!
# Decimal digits

The digits of a number as characters and as bytes.
-/

namespace OperatorKit.Decimal

open OperatorKit.Text

/-- A digit is written as one byte, which is a digit and has the number of the character. -/
theorem encode_cons_of_isDigit {char : Char} (isDigit : char.isDigit = true) (more : List Char) :
    ∃ byte, Utf8.encode (char :: more) = byte :: Utf8.encode more ∧ Ascii.isDigit byte = true ∧
      byte.toNat = char.toNat := by
  have range : 48 ≤ char.toNat ∧ char.toNat ≤ 57 := Char.isDigit_iff_toNat.1 isDigit
  have number : char.toNat.toUInt8.toNat = char.toNat := Utf8.toNat_toUInt8 (by omega)
  refine ⟨char.toNat.toUInt8, ?_, ?_, number⟩
  · rw [Utf8.encode, List.flatMap_cons, Utf8.utf8EncodeChar_of_lt (by omega)]
    rfl
  · simp only [Ascii.isDigit, UInt8.le_iff_toNat_le, number, UInt8.reduceToNat, Bool.and_eq_true,
      decide_eq_true_eq]
    exact range

/-- Digits are written as digits. -/
theorem isDigit_of_mem_encode {digits : List Char}
    (areDigits : ∀ char ∈ digits, char.isDigit = true) :
    ∀ byte ∈ Utf8.encode digits, Ascii.isDigit byte = true := by
  induction digits with
  | nil => exact List.forall_mem_nil _
  | cons char digits inductionHypothesis =>
    rw [List.forall_mem_cons] at areDigits
    obtain ⟨byte, encoded, isDigit, -⟩ := encode_cons_of_isDigit areDigits.1 digits
    rw [encoded, List.forall_mem_cons]
    exact ⟨isDigit, inductionHypothesis areDigits.2⟩

/-- The digits of a number are digits. -/
theorem isDigit_of_mem_digits (number : Nat) :
    ∀ char ∈ Nat.toDigits 10 number, char.isDigit = true :=
  fun _ member => Nat.isDigit_of_mem_toDigits (by decide) (by decide) member

/-- More digits never make a number smaller. -/
theorem le_ofDigitChars (digits : List Char) (number : Nat) :
    number ≤ Nat.ofDigitChars 10 digits number := by
  have positive : 0 < 10 ^ digits.length := Nat.pow_pos (by decide)
  rw [Nat.ofDigitChars_eq_ofDigitChars_zero]
  exact Nat.le_add_right_of_le (Nat.le_mul_of_pos_left number positive)

/-- The digits of a number other than zero do not begin with a zero. -/
theorem digits_eq_cons {number : Nat} (positive : 0 < number) :
    ∃ first more, Nat.toDigits 10 number = first :: more ∧ first ≠ '0' := by
  induction number using Nat.strongRecOn with
  | ind number inductionHypothesis =>
    by_cases small : number < 10
    · have notZero : ∀ digit < 10, 0 < digit → Nat.digitChar digit ≠ '0' := by decide
      exact ⟨_, [], Nat.toDigits_of_lt_base small, notZero number small positive⟩
    · obtain ⟨first, more, digits, notZero⟩ :=
        inductionHypothesis (number / 10) (by omega) (by omega)
      refine ⟨first, more ++ [(number % 10).digitChar], ?_, notZero⟩
      rw [Nat.toDigits_of_base_le (by decide) (by omega), digits]
      rfl

/-- A digit is the digit of its number. -/
theorem digitChar_of_isDigit {char : Char} (isDigit : char.isDigit = true) :
    ∃ digit < 10, char.toNat - '0'.toNat = digit ∧ digit.digitChar = char := by
  have range : 48 ≤ char.toNat ∧ char.toNat ≤ 57 := Char.isDigit_iff_toNat.1 isDigit
  have code : ∀ digit < 10, digit.digitChar.toNat = 48 + digit := by decide
  have zero : '0'.toNat = 48 := rfl
  refine ⟨char.toNat - '0'.toNat, by omega, rfl, Char.toNat_inj.1 ?_⟩
  rw [code _ (by omega)]
  omega

/-- Digits written behind those of a number are the digits of the longer number. -/
theorem digits_append {number : Nat} {digits : List Char} (positive : 0 < number)
    (areDigits : ∀ char ∈ digits, char.isDigit = true) :
    Nat.toDigits 10 number ++ digits = Nat.toDigits 10 (Nat.ofDigitChars 10 digits number) := by
  induction digits generalizing number with
  | nil => rw [List.append_nil, Nat.ofDigitChars_nil]
  | cons char digits inductionHypothesis =>
    rw [List.forall_mem_cons] at areDigits
    obtain ⟨digit, small, value, same⟩ := digitChar_of_isDigit areDigits.1
    have longer : Nat.toDigits 10 number ++ [char] = Nat.toDigits 10 (10 * number + digit) := by
      rw [← same, ← Nat.toDigits_of_lt_base small,
        Nat.toDigits_append_toDigits (by decide) positive small]
    rw [Nat.ofDigitChars_cons, value, ← inductionHypothesis (by omega) areDigits.2, ← longer,
      List.append_assoc, List.singleton_append]

/-- Digits that no zero leads are the digits of their value. -/
theorem digits_ofDigitChars {digits : List Char} (nonempty : digits ≠ [])
    (areDigits : ∀ char ∈ digits, char.isDigit = true)
    (noZeros : digits.head? = some '0' → digits = ['0']) :
    Nat.toDigits 10 (Nat.ofDigitChars 10 digits 0) = digits := by
  obtain ⟨first, more, rfl⟩ := List.exists_cons_of_ne_nil nonempty
  rw [List.forall_mem_cons] at areDigits
  obtain ⟨digit, small, value, same⟩ := digitChar_of_isDigit areDigits.1
  rw [Nat.ofDigitChars_cons, value, Nat.mul_zero, Nat.zero_add]
  rcases Nat.eq_zero_or_pos digit with isZero | positive
  · subst isZero
    have onlyZero := noZeros (congrArg some same.symm)
    rw [onlyZero, (List.cons.inj onlyZero).2]
    rfl
  · rw [← digits_append positive areDigits.2, Nat.toDigits_of_lt_base small, same,
      List.singleton_append]

/-- The digits of a number do not begin with another character. -/
theorem head?_digits_ne {number : Nat} {char : Char} (noDigit : char.isDigit = false) :
    (Nat.toDigits 10 number).head? ≠ some char := by
  intro first
  have isDigit := isDigit_of_mem_digits number char (List.mem_of_mem_head? first)
  rw [noDigit] at isDigit
  cases isDigit

/-- Only the digits of zero begin with a zero. -/
theorem eq_zero_of_zero_leads {number : Nat}
    (zeroLeads : (Nat.toDigits 10 number).head? = some '0') : number = 0 := by
  refine (Nat.eq_zero_or_pos number).resolve_right fun positive => ?_
  obtain ⟨first, more, digits, notZero⟩ := digits_eq_cons positive
  rw [digits, List.head?_cons, Option.some.injEq] at zeroLeads
  exact notZero zeroLeads

/-- A written number begins with a digit. -/
theorem encode_digits (number : Nat) : ∃ first more,
    Utf8.encode (Nat.toDigits 10 number) = first :: more ∧ Ascii.isDigit first = true := by
  have areDigits := isDigit_of_mem_digits number
  cases digits : Nat.toDigits 10 number with
  | nil => exact absurd digits Nat.toDigits_ne_nil
  | cons char digits' =>
    rw [digits, List.forall_mem_cons] at areDigits
    obtain ⟨byte, encoded, isDigit, -⟩ := encode_cons_of_isDigit areDigits.1 digits'
    exact ⟨byte, _, encoded, isDigit⟩

end OperatorKit.Decimal
