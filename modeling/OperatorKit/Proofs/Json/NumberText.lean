import OperatorKit.Json.Number
import OperatorKit.Proofs.Decimal.Digits
import OperatorKit.Proofs.Decimal.Shortest

/-!
# The form of written numbers

Every number is written as a numeral, with a minus in front or without: digits before the point,
then perhaps a point and more digits, then perhaps an exponent. A leading zero stands alone, and
wherever digits are expected there is at least one.
-/

namespace OperatorKit.Json

open OperatorKit.Text OperatorKit.Decimal

/-- At least one digit and nothing else. -/
def AreDigits (chars : List Char) : Prop :=
  chars ≠ [] ∧ ∀ char ∈ chars, char.isDigit = true

/-- The digits of a number other than zero, which do not begin with a zero. -/
def AreSignificant (chars : List Char) : Prop :=
  ∃ first more, chars = first :: more ∧ first ≠ '0' ∧ ∀ char ∈ chars, char.isDigit = true

/-- What stands before the point of a numeral. -/
inductive IsWhole : List Char → Prop where
  | zero : IsWhole ['0']
  | significant {digits : List Char} (areSignificant : AreSignificant digits) : IsWhole digits

/-- The point of a numeral and what stands behind it. -/
inductive IsFraction : List Char → Prop where
  | absent : IsFraction []
  | digits {digits : List Char} (areDigits : AreDigits digits) : IsFraction ('.' :: digits)

/-- The exponent of a numeral. -/
inductive IsScale : List Char → Prop where
  | absent : IsScale []
  | digits {sign : Char} {digits : List Char} (isSign : sign = '+' ∨ sign = '-')
      (areDigits : AreDigits digits) : IsScale ('e' :: sign :: digits)

/-- The written form of a number without its sign. -/
inductive IsNumeral : List Char → Prop where
  | mk {whole fraction scale : List Char} (isWhole : IsWhole whole)
      (isFraction : IsFraction fraction) (isScale : IsScale scale) :
      IsNumeral (whole ++ (fraction ++ scale))

/-- The digits of a number are digits. -/
theorem areDigits_digits (number : Nat) : AreDigits (Nat.toDigits 10 number) :=
  ⟨Nat.toDigits_ne_nil, isDigit_of_mem_digits number⟩

/-- A zero is a digit. -/
theorem areDigits_zero : AreDigits ['0'] :=
  ⟨List.cons_ne_nil _ _, List.forall_mem_singleton.2 rfl⟩

/-- The digits of a number other than zero are significant. -/
theorem areSignificant_digits {number : Nat} (positive : 0 < number) :
    AreSignificant (Nat.toDigits 10 number) := by
  obtain ⟨first, more, digits, notZero⟩ := digits_eq_cons positive
  exact ⟨first, more, digits, notZero, isDigit_of_mem_digits number⟩

section LayOut

variable {digits more : List Char}

/-- Significant digits are digits. -/
theorem AreSignificant.areDigits (areSignificant : AreSignificant digits) : AreDigits digits := by
  obtain ⟨first, more, rfl, -, areDigits⟩ := areSignificant
  exact ⟨List.cons_ne_nil _ _, areDigits⟩

/-- More digits behind significant ones leave them significant. -/
theorem AreSignificant.append (areSignificant : AreSignificant digits)
    (areDigits : ∀ char ∈ more, char.isDigit = true) : AreSignificant (digits ++ more) := by
  obtain ⟨first, others, rfl, notZero, areDigits'⟩ := areSignificant
  refine ⟨first, others ++ more, rfl, notZero, ?_⟩
  exact List.forall_mem_append.2 ⟨areDigits', areDigits⟩

/-- The first of significant digits are significant. -/
theorem AreSignificant.take (areSignificant : AreSignificant digits) (count : Nat) :
    AreSignificant (digits.take (count + 1)) := by
  obtain ⟨first, others, rfl, notZero, areDigits⟩ := areSignificant
  exact ⟨first, others.take count, rfl, notZero,
    fun char inTaken => areDigits char (List.mem_of_mem_take inTaken)⟩

/-- Zeros are digits. -/
theorem isDigit_of_mem_zeros (count : Nat) :
    ∀ char ∈ List.replicate count '0', char.isDigit = true := by
  intro char isZero
  rw [(List.mem_replicate.1 isZero).2]
  rfl

/-- Significant digits make a numeral wherever the point goes. -/
theorem isNumeral_layOut (areSignificant : AreSignificant digits) (leading : Int) :
    IsNumeral (layOut digits leading) := by
  have areDigits := areSignificant.areDigits
  unfold layOut
  split
  · cases leading with
    | negSucc zeros =>
      have fraction : AreDigits (List.replicate zeros '0' ++ digits) :=
        ⟨by simp [areDigits.1], List.forall_mem_append.2 ⟨isDigit_of_mem_zeros zeros, areDigits.2⟩⟩
      simpa using IsNumeral.mk .zero (.digits fraction) .absent
    | ofNat before =>
      simp only
      split
      · rename_i inside
        have fraction : AreDigits (digits.drop (before + 1)) := by
          refine ⟨?_, fun char inDropped => areDigits.2 char (List.mem_of_mem_drop inDropped)⟩
          rw [Ne, List.drop_eq_nil_iff]
          omega
        simpa using
          IsNumeral.mk (.significant (areSignificant.take before)) (.digits fraction) .absent
      · have whole :=
          areSignificant.append (isDigit_of_mem_zeros (before + 1 - digits.length))
        simpa using IsNumeral.mk (.significant whole) (.digits areDigits_zero) .absent
  · rw [List.append_assoc]
    refine .mk (.significant (areSignificant.take 0)) ?_ ?_
    · split
      · exact .absent
      · rename_i notNil
        refine .digits ⟨notNil, fun char inDropped => ?_⟩
        exact areDigits.2 char (List.mem_of_mem_drop inDropped)
    · cases leading with
      | ofNat power => exact .digits (Or.inl rfl) (areDigits_digits power)
      | negSucc less => exact .digits (Or.inr rfl) (areDigits_digits (less + 1))

end LayOut

section Bytes

variable {digits numeral : List Char}

/-- Digits are written as at least one byte, all of them digits. -/
theorem AreDigits.encode (areDigits : AreDigits digits) : ∃ first more,
    Utf8.encode digits = first :: more ∧ Ascii.isDigit first = true ∧
      ∀ byte ∈ more, Ascii.isDigit byte = true := by
  obtain ⟨notNil, allDigits⟩ := areDigits
  obtain ⟨char, chars, rfl⟩ := List.exists_cons_of_ne_nil notNil
  rw [List.forall_mem_cons] at allDigits
  obtain ⟨byte, encoded, isDigit, -⟩ := encode_cons_of_isDigit allDigits.1 chars
  exact ⟨byte, _, encoded, isDigit, isDigit_of_mem_encode allDigits.2⟩

/-- What stands before the point is digits. -/
theorem IsWhole.areDigits (isWhole : IsWhole digits) : AreDigits digits := by
  cases isWhole with
  | zero => exact areDigits_zero
  | significant areSignificant => exact areSignificant.areDigits

/-- A numeral begins with a digit. -/
theorem IsNumeral.encode (isNumeral : IsNumeral numeral) :
    ∃ first more, Utf8.encode numeral = first :: more ∧ Ascii.isDigit first = true := by
  obtain ⟨isWhole, -, -⟩ := isNumeral
  obtain ⟨first, more, encoded, isDigit, -⟩ := isWhole.areDigits.encode
  exact ⟨first, _, by rw [Utf8.encode_append, encoded, List.cons_append], isDigit⟩

end Bytes

/-- The digits of a number are a numeral. -/
theorem isNumeral_digits (number : Nat) : IsNumeral (Nat.toDigits 10 number) := by
  have whole : IsWhole (Nat.toDigits 10 number) := by
    rcases Nat.eq_zero_or_pos number with rfl | positive
    · exact .zero
    · exact .significant (areSignificant_digits positive)
  simpa using IsNumeral.mk whole .absent .absent

/-- A step of a double is written as a numeral. -/
theorem isNumeral_stepChars (step : Nat) : IsNumeral (stepChars step) := by
  unfold stepChars
  split
  · exact IsNumeral.mk .zero (.digits areDigits_zero) .absent
  · rename_i notZero
    exact isNumeral_layOut (areSignificant_digits (digits_pos_shortest notZero)) _

/-- A number is written as a numeral, behind a minus or not. -/
theorem exists_numeral_chars (number : Number) :
    ∃ numeral, IsNumeral numeral ∧ (number.chars = numeral ∨ number.chars = '-' :: numeral) := by
  cases number with
  | integer value fits =>
    cases value with
    | ofNat magnitude => exact ⟨_, isNumeral_digits magnitude, Or.inl rfl⟩
    | negSucc less => exact ⟨_, isNumeral_digits (less + 1), Or.inr rfl⟩
  | double value =>
    refine ⟨_, isNumeral_stepChars value.magnitude, ?_⟩
    rw [Number.chars, doubleChars]
    cases value.negative with
    | false => exact Or.inl rfl
    | true => exact Or.inr rfl

end OperatorKit.Json
