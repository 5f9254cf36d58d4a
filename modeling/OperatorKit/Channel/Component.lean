import OperatorKit.Text.Quoted

/-!
# Channel components

The pieces of a channel name that are compared, and the integer that a piece spells. Only the text
after the first `v` counts; a name without one stands for `0.0`, and a single piece gets a zero
after it.
-/

namespace OperatorKit.Channel

/-- Why a piece does not spell an integer. -/
inductive NumeralFault where
  | empty
  | invalidDigit
  | tooLarge
  | tooSmall
deriving DecidableEq

/-- The wording of a numeral fault. -/
def NumeralFault.message : NumeralFault → String
  | empty => "cannot parse integer from empty string"
  | invalidDigit => "invalid digit found in string"
  | tooLarge => "number too large to fit in target type"
  | tooSmall => "number too small to fit in target type"

/-- The sign of a numeral. -/
inductive Sign where
  | plus
  | minus
deriving DecidableEq

namespace Sign

/-- The value with one more digit after it. -/
def append (sign : Sign) (value : Int) (digit : Char) : Int :=
  let amount : Int := digit.toNat - '0'.toNat
  match sign with
  | plus => value * 10 + amount
  | minus => value * 10 - amount

/-- Whether a value with this sign fits in 64 bits. -/
def fits (sign : Sign) (value : Int) : Bool :=
  match sign with
  | plus => value < 0x8000000000000000
  | minus => -0x8000000000000000 ≤ value

/-- The fault of a value that does not fit. -/
def fault : Sign → NumeralFault
  | plus => .tooLarge
  | minus => .tooSmall

end Sign

/-- Appends digits to a value. The first character that is no digit, or takes the value out of
range, decides the fault. -/
def appendDigits (sign : Sign) (value : Int) : List Char → Except NumeralFault Int
  | [] => .ok value
  | char :: chars =>
    if char.isDigit then
      let longer := sign.append value char
      if sign.fits longer then appendDigits sign longer chars else .error sign.fault
    else .error .invalidDigit

/-- The integer spelled by an optional sign and at least one digit. -/
def readInteger : List Char → Except NumeralFault Int
  | [] => .error .empty
  | ['+'] | ['-'] => .error .invalidDigit
  | '+' :: digits => appendDigits .plus 0 digits
  | '-' :: digits => appendDigits .minus 0 digits
  | digits => appendDigits .plus 0 digits

/-- The text of a channel name that holds its version. -/
def versionPart (name : List Char) : List Char :=
  match name.dropWhile (· != 'v') with
  | [] => ['0', '.', '0']
  | _ :: version => version

/-- The pieces of a channel name, at least two. -/
def pieces (name : String) : List (List Char) :=
  match (versionPart name.toList).splitOn '.' with
  | [piece] => [piece, ['0']]
  | pieces => pieces

/-- A piece of a channel name that is no integer. -/
structure VersionFault where
  channel : String
  component : String
  position : Nat
  source : NumeralFault
deriving DecidableEq

/-- The wording of a version fault. -/
def VersionFault.message (fault : VersionFault) : String :=
  "invalid component " ++ Text.quoted fault.component ++ " at position " ++
    toString fault.position ++ " in channel " ++ Text.quoted fault.channel ++ ": " ++
    fault.source.message

/-- The integer at a position of a channel name. -/
def readPiece (channel : String) (position : Nat) (piece : List Char) : Except VersionFault Int :=
  (readInteger piece).mapError fun source =>
    ⟨channel, String.ofList piece, position, source⟩

end OperatorKit.Channel
