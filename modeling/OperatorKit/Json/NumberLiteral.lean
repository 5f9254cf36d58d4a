import OperatorKit.Json.Reading

/-!
# Number literals

The digits of a number are added up while they fit in 64 bits; those that no longer fit only move
the decimal point. A number without fraction, exponent or such digits is an integer where it fits.
-/

namespace OperatorKit.Json

open OperatorKit.Text OperatorKit.Decimal

/-- Whether a digit comes next. -/
def startsWithDigit : Bytes → Bool
  | [] => false
  | next :: _ => Ascii.isDigit next

/-- The digits in front of a text. -/
def leadingDigits (text : Bytes) : Bytes :=
  text.takeWhile Ascii.isDigit

/-- The text without the digits in front. -/
def skipDigits (text : Bytes) : Bytes :=
  text.dropWhile Ascii.isDigit

/-- Skipping digits adds nothing. -/
theorem length_skipDigits_le (text : Bytes) : (skipDigits text).length ≤ text.length :=
  (List.dropWhile_sublist _).length_le

/-- Skipping digits behind one more byte adds nothing. -/
theorem length_skipDigits_succ_le (text : Bytes) :
    (skipDigits text).length + 1 ≤ text.length + 1 :=
  Nat.succ_le_succ (length_skipDigits_le text)

/-- Skipping digits takes at least one where there is one. -/
theorem length_skipDigits_lt {text : Bytes} (digit : startsWithDigit text = true) :
    (skipDigits text).length < text.length := by
  cases text with
  | nil => simp [startsWithDigit] at digit
  | cons next rest =>
    have digit : Ascii.isDigit next = true := digit
    simp only [skipDigits, List.dropWhile_cons, digit, if_true, List.length_cons]
    exact Nat.lt_succ_of_le (length_skipDigits_le rest)

/-- The number that significands stay below, so that they fit in 64 bits. -/
def significandLimit : Nat := 0x10000000000000000

/-- Adds digits to a significand while it stays below the limit, and gives the digits from the first
one that no longer fits. -/
def addDigits (significand : Nat) : Bytes → Nat × Bytes
  | [] => (significand, [])
  | digit :: digits =>
    let larger := significand * 10 + Ascii.digitValue digit
    if larger < significandLimit then addDigits larger digits else (significand, digit :: digits)

/-- The number that exponents stay below, so that they fit in 31 bits. -/
def exponentLimit : Nat := 0x80000000

/-- Adds up the digits of an exponent. The first one that takes it to the limit is taken too and
ends the sum without a value. -/
def addExponent (exponent : Nat) : Bytes → Option Nat × Bytes
  | [] => (some exponent, [])
  | next :: rest =>
    if Ascii.isDigit next then
      let larger := exponent * 10 + Ascii.digitValue next
      if larger < exponentLimit then addExponent larger rest else (none, rest)
    else (some exponent, next :: rest)

/-- Adding up an exponent leaves no more than there was. -/
theorem length_le_of_addExponent {exponent : Nat} {text rest : Bytes} {total : Option Nat}
    (added : addExponent exponent text = (total, rest)) : rest.length ≤ text.length := by
  induction text generalizing exponent with
  | nil =>
    cases added
    exact Nat.le_refl _
  | cons next more inductionHypothesis =>
    simp only [addExponent] at added
    split at added
    · split at added
      · exact Nat.le_succ_of_le (inductionHypothesis added)
      · cases added
        exact Nat.le_succ _
    · cases added
      exact Nat.le_refl _

/-- Takes an optional sign; a minus counts. -/
def readSign : Bytes → Bool × Bytes
  | Ascii.plus :: rest => (false, rest)
  | Ascii.minus :: rest => (true, rest)
  | rest => (false, rest)

/-- What follows the first byte after a sign is shorter than the text. -/
theorem length_lt_of_readSign {text more : Bytes} {first : Byte} {isMinus : Bool}
    (signed : readSign text = (isMinus, first :: more)) : more.length < text.length := by
  unfold readSign at signed
  split at signed <;> cases signed <;> simp only [List.length_cons] <;> omega

/-- Ends a number as a double. -/
def finishDouble (negative : Bool) (significand : Nat) (exponent : Int) (rest : Bytes) :
    Except Fault (Taken Number (rest.length + 1)) :=
  match Double.ofDecimal? negative significand exponent with
  | some value => .ok (.leaving (.double value) rest)
  | none => .error (.here .numberOutOfRange rest)

/-- Takes what follows the letter of an exponent. An exponent of 31 bits or more makes the number
too large, or zero if its significand is zero or the exponent negative. -/
def readExponent (negative : Bool) (significand : Nat) (exponent : Int) : Reader Number :=
  fun text =>
    match signed : readSign text with
    | (_, []) => .error (.here .endInValue [])
    | (isMinus, first :: more) =>
      have shorter : more.length < text.length := length_lt_of_readSign signed
      if Ascii.isDigit first then
        match added : addExponent (Ascii.digitValue first) more with
        | (some amount, rest) =>
          have bound : rest.length < text.length :=
            Nat.lt_of_le_of_lt (length_le_of_addExponent added) shorter
          let total : Int := if isMinus then exponent - amount else exponent + amount
          (finishDouble negative significand total rest).map (·.widen bound)
        | (none, rest) =>
          have bound : rest.length < text.length :=
            Nat.lt_of_le_of_lt (length_le_of_addExponent added) shorter
          if significand ≠ 0 ∧ isMinus = false then .error (.here .numberOutOfRange rest)
          else
            let taken := Taken.leaving (.double (.zero negative)) (skipDigits rest)
            .ok ((taken.widen (length_skipDigits_succ_le rest)).widen bound)
      else .error (.here .invalidNumber more)

/-- Takes the exponent of a number if it has one, and ends it as a double. -/
def readScale (negative : Bool) (significand : Nat) (exponent : Int) :
    (text : Bytes) → Except Fault (Taken Number (text.length + 1))
  | Ascii.letterE :: rest | Ascii.capitalE :: rest =>
    (readExponent negative significand exponent rest).map (·.afterByte.afterByte)
  | rest => finishDouble negative significand exponent rest

/-- Takes what follows the point of a number: at least one digit, added while it fits, and an
exponent if there is one. -/
def readFraction (negative : Bool) (significand : Nat) (exponent : Int) : Reader Number :=
  fun text =>
    if digit : startsWithDigit text then
      let digits := leadingDigits text
      let (total, leftOver) := addDigits significand digits
      (readScale negative total (exponent - (digits.length - leftOver.length : Nat))
        (skipDigits text)).map (·.widen (length_skipDigits_lt digit))
    else .error (.atNext (if text.isEmpty then .endInValue else .invalidNumber) text)

/-- The number of an integer literal. A negative zero and integers beyond a word are doubles. -/
def integerNumber? (negative : Bool) (magnitude : Nat) : Option Number :=
  let value : Int := if negative then -magnitude else magnitude
  if fits : FitsWord value ∧ (negative = true → magnitude ≠ 0) then
    some (.integer value fits.1)
  else (Double.ofDecimal? negative magnitude 0).map .double

/-- Takes what follows the integer digits of a number, `leftOver` of which did not fit. -/
def readAfterInteger (negative : Bool) (significand leftOver : Nat) :
    (text : Bytes) → Except Fault (Taken Number (text.length + 1))
  | Ascii.dot :: rest =>
    (readFraction negative significand leftOver rest).map (·.afterByte.afterByte)
  | Ascii.letterE :: rest | Ascii.capitalE :: rest =>
    (readExponent negative significand leftOver rest).map (·.afterByte.afterByte)
  | rest =>
    if leftOver = 0 then
      match integerNumber? negative significand with
      | some number => .ok (.leaving number rest)
      | none => .error (.here .numberOutOfRange rest)
    else finishDouble negative significand leftOver rest

/-- Takes a number without its sign. -/
def readNumber (negative : Bool) : Reader Number
  | [] => .error (.here .endInValue [])
  | first :: more =>
    if first = Ascii.zero then
      if startsWithDigit more then .error (.atNext .invalidNumber more)
      else readAfterInteger negative 0 0 more
    else if Ascii.isDigit first then
      let (significand, leftOver) := addDigits 0 (first :: leadingDigits more)
      (readAfterInteger negative significand leftOver.length (skipDigits more)).map
        (·.widen (length_skipDigits_succ_le more))
    else .error (.here .invalidNumber more)

end OperatorKit.Json
