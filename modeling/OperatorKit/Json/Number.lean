import OperatorKit.Decimal.Integer
import OperatorKit.Decimal.Shortest

/-!
# JSON numbers

A number is an integer of at most 64 bits, signed or unsigned, or a finite double. The two kinds
never agree with each other, and each has one written form.
-/

namespace OperatorKit.Json

open OperatorKit.Decimal

/-- The integers that are kept exactly: those of a signed or an unsigned word of 64 bits. -/
def FitsWord (value : Int) : Prop :=
  -0x8000000000000000 ≤ value ∧ value < 0x10000000000000000

instance (value : Int) : Decidable (FitsWord value) :=
  inferInstanceAs (Decidable (_ ∧ _))

/-- A number as it is kept. -/
inductive Number where
  | integer (value : Int) (fits : FitsWord value)
  | double (value : Double)
deriving DecidableEq

/-- The exponents of the leading digit at which a double is written without an exponent. -/
def isPlain (leading : Int) : Bool :=
  -5 ≤ leading && leading ≤ 15

/-- The written form of the decimal `0.digits * 10 ^ (leading + 1)`, whose first digit is not zero.
Plain notation always has a fraction; the other has one digit before the point, no point if there is
no other digit, and a signed exponent. -/
def layOut (digits : List Char) (leading : Int) : List Char :=
  if isPlain leading then
    match leading with
    | .negSucc zeros => '0' :: '.' :: (List.replicate zeros '0' ++ digits)
    | .ofNat before =>
      if before + 1 < digits.length then
        digits.take (before + 1) ++ '.' :: digits.drop (before + 1)
      else
        digits ++ List.replicate (before + 1 - digits.length) '0' ++ ['.', '0']
  else
    let fraction := match digits.drop 1 with
      | [] => []
      | more => '.' :: more
    let exponent := match leading with
      | .ofNat power => '+' :: Nat.toDigits 10 power
      | .negSucc less => '-' :: Nat.toDigits 10 (less + 1)
    digits.take 1 ++ fraction ++ 'e' :: exponent

/-- A step of a double in its written form, which rounds back to the step. -/
def stepChars (step : Nat) : List Char :=
  if step = 0 then ['0', '.', '0']
  else
    let decimal := shortest step
    let digits := Nat.toDigits 10 decimal.digits
    layOut digits (decimal.exponent + digits.length - 1)

/-- A double in its written form. -/
def doubleChars (value : Double) : List Char :=
  if value.negative then '-' :: stepChars value.magnitude else stepChars value.magnitude

namespace Number

/-- The written form of a number. -/
def chars : Number → List Char
  | integer value _ => integerChars value
  | double value => doubleChars value

/-- Whether two numbers are the same number of the same kind. -/
def agrees : Number → Number → Bool
  | integer left _, integer right _ => left == right
  | double left, double right => left.agrees right
  | _, _ => false

end Number

end OperatorKit.Json
