/-!
# Integers in decimal

The canonical written form: no plus sign, no leading zeros, no sign before zero.
-/

namespace OperatorKit.Decimal

/-- An integer in decimal. -/
def integerChars : Int → List Char
  | .ofNat magnitude => Nat.toDigits 10 magnitude
  | .negSucc less => '-' :: Nat.toDigits 10 (less + 1)

/-- An integer in decimal, as a text. -/
def integerText (value : Int) : String :=
  String.ofList (integerChars value)

end OperatorKit.Decimal
