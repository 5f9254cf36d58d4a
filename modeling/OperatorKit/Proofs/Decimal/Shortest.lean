import OperatorKit.Decimal.Shortest

/-!
# The digits of shortest decimals

Zero rounds to no other step, so the shortest decimal of a step other than zero has digits.
-/

namespace OperatorKit.Decimal

variable {step : Nat}

/-- A step other than zero counts some units. -/
theorem stepSignificand_pos (notZero : step ≠ 0) : 0 < stepSignificand step := by
  unfold stepSignificand
  split
  · exact Nat.pos_of_ne_zero notZero
  · exact Nat.add_pos_left (by decide) _

/-- Zero is smaller than any number of units. -/
theorem compareBinary_zero {exponent : Int} {count : Nat} (positive : 0 < count) (twos : Int) :
    (⟨0, exponent⟩ : Scaled).compareBinary count twos = .lt := by
  have units : 0 < 1 * Nat.pow 2 (- -twos).toNat * Nat.pow 10 (-exponent).toNat :=
    Nat.mul_pos (Nat.mul_pos Nat.one_pos (Nat.pow_pos (by decide))) (Nat.pow_pos (by decide))
  simp only [Scaled.compareBinary, shifted, Nat.zero_mul, Nat.mul_assoc] at units ⊢
  exact Nat.compare_eq_lt.2 (Nat.mul_pos positive units)

/-- A decimal that rounds to a step other than zero has digits. -/
theorem digits_pos_of_roundsTo (notZero : step ≠ 0) {decimal : Scaled}
    (rounds : decimal.roundsTo step = true) : 0 < decimal.digits := by
  obtain ⟨digits, exponent⟩ := decimal
  rcases Nat.eq_zero_or_pos digits with rfl | positive
  · have significand := stepSignificand_pos notZero
    unfold Scaled.roundsTo at rounds
    have lower : 0 < if step % binade == 0 && 2 * binade ≤ step then 4 * stepSignificand step - 1
        else 4 * stepSignificand step - 2 := by
      split <;> omega
    simp only [compareBinary_zero lower] at rounds
    cases rounds
  · exact positive

/-- A decimal that is found on a grid has digits. -/
theorem digits_pos_of_onGrid? (notZero : step ≠ 0) {exponent : Int} {decimal : Scaled}
    (found : onGrid? step exponent = some decimal) : 0 < decimal.digits := by
  simp only [onGrid?] at found
  split at found
  · rename_i below _
    cases found
    exact digits_pos_of_roundsTo notZero below
  · cases found
    exact Nat.succ_pos _
  · cases found
  · rename_i below _
    have belowPositive := digits_pos_of_roundsTo notZero below
    split at found
    · cases found
      exact belowPositive
    · cases found
      exact Nat.succ_pos _
    · split at found
      · cases found
        exact belowPositive
      · cases found
        exact Nat.succ_pos _

/-- The number of a step other than zero in full has digits. -/
theorem digits_pos_exactDecimal (notZero : step ≠ 0) : 0 < (exactDecimal step).digits :=
  Nat.mul_pos (Nat.mul_pos (stepSignificand_pos notZero) (Nat.pow_pos (by decide)))
    (Nat.pow_pos (by decide))

/-- The shortest decimal of a step other than zero has digits. -/
theorem digits_pos_shortest (notZero : step ≠ 0) : 0 < (shortest step).digits := by
  unfold shortest
  cases candidate : (List.range 21).findSome? fun (narrower : Nat) =>
      onGrid? step (widestGrid step - narrower) with
  | none => exact digits_pos_exactDecimal notZero
  | some decimal =>
    obtain ⟨narrower, -, found⟩ := List.exists_of_findSome?_eq_some candidate
    exact digits_pos_of_onGrid? notZero found

end OperatorKit.Decimal
