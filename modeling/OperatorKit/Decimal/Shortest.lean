import OperatorKit.Decimal.Double

/-!
# Shortest decimals

The decimal with the fewest digits that rounds to a given step, and of those the one nearest to it.
The numbers that round to a step form an interval between the two midpoints to its neighbours; a
decimal is tested against its ends by cross-multiplying naturals.
-/

namespace OperatorKit.Decimal

/-- The number `digits * 10 ^ exponent`. -/
structure Scaled where
  digits : Nat
  exponent : Int
deriving DecidableEq

/-- Compares `digits * 10 ^ exponent` with `count * 2 ^ twos`. -/
def Scaled.compareBinary (decimal : Scaled) (count : Nat) (twos : Int) : Ordering :=
  let (left, leftUnit) := shifted decimal.digits 1 (-twos)
  compare (left * Nat.pow 10 decimal.exponent.toNat)
    (count * leftUnit * Nat.pow 10 (-decimal.exponent).toNat)

/-- Whether a decimal rounds to a step. The midpoints themselves go to the step with the even
significand; below a power of two the gap to the neighbour is half as wide. -/
def Scaled.roundsTo (decimal : Scaled) (step : Nat) : Bool :=
  let significand := stepSignificand step
  let quarter := stepExponent step - 2
  let isNarrowBelow := step % binade == 0 && 2 * binade ≤ step
  let lower := if isNarrowBelow then 4 * significand - 1 else 4 * significand - 2
  let upper := 4 * significand + 2
  match decimal.compareBinary lower quarter, decimal.compareBinary upper quarter with
  | .gt, .lt => true
  | .eq, .lt | .gt, .eq => significand % 2 == 0
  | _, _ => false

/-- The multiple of `10 ^ exponent` next below a step. -/
def floorOnGrid (step : Nat) (exponent : Int) : Nat :=
  let (numerator, denominator) := shifted (stepSignificand step) 1 (stepExponent step)
  numerator * Nat.pow 10 (-exponent).toNat / (denominator * Nat.pow 10 exponent.toNat)

/-- The multiple of `10 ^ exponent` that rounds to the step: of the two next to it the nearer one,
or the even one if both are as near. -/
def onGrid? (step : Nat) (exponent : Int) : Option Scaled :=
  let below : Scaled := ⟨floorOnGrid step exponent, exponent⟩
  let above : Scaled := ⟨below.digits + 1, exponent⟩
  let middle : Scaled := ⟨below.digits + above.digits, exponent⟩
  match below.roundsTo step, above.roundsTo step with
  | true, false => some below
  | false, true => some above
  | false, false => none
  | true, true =>
    match middle.compareBinary (2 * stepSignificand step) (stepExponent step) with
    | .gt => some below
    | .lt => some above
    | .eq => some (if below.digits % 2 = 0 then below else above)

/-- A grid at least as wide as the step is large: no decimal on a wider one rounds to it. -/
def widestGrid (step : Nat) : Int :=
  ((stepSignificand step).log2 + stepExponent step) * 30103 / 100000 + 2

/-- The number of a step in full. -/
def exactDecimal (step : Nat) : Scaled :=
  let twos := stepExponent step
  ⟨stepSignificand step * Nat.pow 2 twos.toNat * Nat.pow 5 (-twos).toNat, min twos 0⟩

/-- The shortest decimal that rounds to a step other than zero. The grids are tried from the widest
one on; twenty-one of them reach past seventeen digits, which always suffice. -/
def shortest (step : Nat) : Scaled :=
  let candidate := (List.range 21).findSome? fun (narrower : Nat) =>
    onGrid? step (widestGrid step - narrower)
  candidate.getD (exactDecimal step)

end OperatorKit.Decimal
