/-!
# Finite doubles

A sign and a magnitude, the magnitude counted in steps from zero: the step after the largest one
of a binade is the first one of the next, so equal steps are equal numbers and the order of steps
is the order of numbers. All arithmetic is exact on naturals and rounds once, to the nearest step
with ties to the even one.
-/

namespace OperatorKit.Decimal

/-- The number of steps below the first number that is too large for a double. -/
def magnitudeLimit : Nat := 0x7FF0000000000000

/-- The number of steps in a binade. -/
def binade : Nat := 0x10000000000000

/-- A finite number of 53 significant bits. -/
structure Double where
  /-- Whether a minus sign stands in front; zero has both signs. -/
  negative : Bool
  /-- The number of steps from zero. -/
  magnitude : Nat
  finite : magnitude < magnitudeLimit
deriving DecidableEq

/-- The integer that the step counts in units of `2 ^ stepExponent`. -/
def stepSignificand (magnitude : Nat) : Nat :=
  if magnitude < binade then magnitude else binade + magnitude % binade

/-- The binary exponent of the unit in which `stepSignificand` counts. -/
def stepExponent (magnitude : Nat) : Int :=
  if magnitude < binade then -1074 else (magnitude / binade : Nat) - 1075

/-- A quotient rounded to the nearest integer, a half to the even one. -/
def divideToEven (numerator denominator : Nat) : Nat :=
  let quotient := numerator / denominator
  match compare (2 * (numerator % denominator)) denominator with
  | .lt => quotient
  | .gt => quotient + 1
  | .eq => quotient + quotient % 2

/-- The fraction `numerator / denominator * 2 ^ twos` as numerator and denominator. -/
def shifted (numerator denominator : Nat) (twos : Int) : Nat × Nat :=
  (numerator * Nat.pow 2 twos.toNat, denominator * Nat.pow 2 (-twos).toNat)

/-- The exponent of the largest power of two that is at most `numerator / denominator`. -/
def binaryExponent (numerator denominator : Nat) : Int :=
  let estimate : Int := numerator.log2 - denominator.log2
  let (scaled, unit) := shifted numerator denominator (-estimate)
  if unit ≤ scaled then estimate else estimate - 1

/-- The step nearest to `numerator / denominator`; it reaches `magnitudeLimit` where the fraction
is too large for a double. -/
def nearestStep (numerator denominator : Nat) : Nat :=
  if numerator = 0 then 0
  else
    let unit := max (binaryExponent numerator denominator - 52) (-1074)
    let (scaled, parts) := shifted numerator denominator (-unit)
    (unit + 1074).toNat * binade + divideToEven scaled parts

/-- The step nearest to the product of two steps. -/
def stepProduct (left right : Nat) : Nat :=
  let (numerator, denominator) :=
    shifted (stepSignificand left * stepSignificand right) 1
      (stepExponent left + stepExponent right)
  nearestStep numerator denominator

/-- The step nearest to the quotient of two steps. -/
def stepQuotient (left right : Nat) : Nat :=
  let (numerator, denominator) :=
    shifted (stepSignificand left) (stepSignificand right)
      (stepExponent left - stepExponent right)
  nearestStep numerator denominator

/-- The step nearest to a power of ten. -/
def powerOfTen (exponent : Nat) : Nat :=
  nearestStep (Nat.pow 10 exponent) 1

/-- The largest power of ten that is smaller than `magnitudeLimit`. -/
def largestPower : Nat := 308

/-- A step divided by a power of ten, as often as needed by the largest power and then once by the
rest; each division rounds. Nothing is left to divide once zero is reached. -/
def dividedByPower (step power : Nat) : Nat :=
  if power ≤ largestPower then stepQuotient step (powerOfTen power)
  else if step = 0 then 0
  else dividedByPower (stepQuotient step (powerOfTen largestPower)) (power - largestPower)
termination_by power
decreasing_by simp only [largestPower] at *; omega

/-- A step multiplied by a power of ten, rounded once; none where a factor is too large. -/
def timesPower? (step power : Nat) : Option Nat :=
  if power ≤ largestPower then some (stepProduct step (powerOfTen power))
  else if step = 0 then some 0
  else none

namespace Double

/-- The double with this sign and magnitude, if the magnitude is finite. -/
def ofMagnitude? (negative : Bool) (magnitude : Nat) : Option Double :=
  if finite : magnitude < magnitudeLimit then some ⟨negative, magnitude, finite⟩ else none

/-- The double read for `significand * 10 ^ exponent`: the significand is rounded first and the
power of ten applied afterwards, each multiplication and division rounding on its own, so the
result can be a step away from the nearest double. None where it is too large. -/
def ofDecimal? (negative : Bool) (significand : Nat) (exponent : Int) : Option Double :=
  let step := nearestStep significand 1
  match exponent with
  | .ofNat power => (timesPower? step power).bind (ofMagnitude? negative)
  | .negSucc power => ofMagnitude? negative (dividedByPower step (power + 1))

/-- Zero with a sign. -/
def zero (negative : Bool) : Double :=
  ⟨negative, 0, by decide⟩

/-- Whether two doubles are the same number; the two zeros are. -/
def agrees (left right : Double) : Bool :=
  left.magnitude == right.magnitude &&
    (left.negative == right.negative || left.magnitude == 0)

end Double

end OperatorKit.Decimal
