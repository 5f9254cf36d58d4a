import OperatorKit.Json.Number
import OperatorKit.Text.Ascii
import OperatorKit.Text.Quoted

/-!
# Faults of a JSON text

A fault has a cause and a place. While a text is read the place is kept as the number of bytes that
were left there, which needs no knowledge of what came before; line and column are counted once the
whole text is at hand.
-/

namespace OperatorKit.Json

open OperatorKit.Text OperatorKit.Decimal

/-- What stands in a text where a value is expected: a scalar as a whole, or the opening of an array
or object. -/
inductive Found where
  | null
  | boolean (truth : Bool)
  | number (number : Number)
  | string (text : String)
  | sequence
  | map

/-- How messages describe what stands in a text. -/
def Found.text : Found → String
  | null => "null"
  | boolean true => "boolean `true`"
  | boolean false => "boolean `false`"
  | number (.integer value _) => "integer `" ++ integerText value ++ "`"
  | number (.double value) => "floating point `" ++ String.ofList (doubleChars value) ++ "`"
  | string text => "string " ++ quoted text
  | sequence => "sequence"
  | map => "map"

/-- Why a text is not a JSON text, or not one of the expected type. -/
inductive Cause where
  | endInValue
  | endInList
  | endInObject
  | endInString
  | expectedValue
  | expectedWord
  | expectedColon
  | expectedCommaOrBracket
  | expectedCommaOrBrace
  | trailingComma
  | trailingCharacters
  | keyNotString
  | invalidNumber
  | numberOutOfRange
  | invalidEscape
  | loneSurrogate
  | endOfSurrogatePair
  | controlCharacter
  | invalidUnicode
  | tooDeep
  | unexpectedType (found : Found) (expected : String)
  | duplicateField (name : String)
  | missingField (name : String)
  | tooFewFields (count : Nat) (expected : String)

namespace Cause

/-- The wording of a cause. -/
def message : Cause → String
  | endInValue => "EOF while parsing a value"
  | endInList => "EOF while parsing a list"
  | endInObject => "EOF while parsing an object"
  | endInString => "EOF while parsing a string"
  | expectedValue => "expected value"
  | expectedWord => "expected ident"
  | expectedColon => "expected `:`"
  | expectedCommaOrBracket => "expected `,` or `]`"
  | expectedCommaOrBrace => "expected `,` or `\x7d`"
  | trailingComma => "trailing comma"
  | trailingCharacters => "trailing characters"
  | keyNotString => "key must be a string"
  | invalidNumber => "invalid number"
  | numberOutOfRange => "number out of range"
  | invalidEscape => "invalid escape"
  | loneSurrogate => "lone leading surrogate in hex escape"
  | endOfSurrogatePair => "unexpected end of hex escape"
  | controlCharacter =>
    "control character (\\u0000-\\u001F) found while parsing a string"
  | invalidUnicode => "invalid unicode code point"
  | tooDeep => "recursion limit exceeded"
  | unexpectedType found expected => "invalid type: " ++ found.text ++ ", expected " ++ expected
  | duplicateField name => "duplicate field `" ++ name ++ "`"
  | missingField name => "missing field `" ++ name ++ "`"
  | tooFewFields count expected =>
    "invalid length " ++ toString count ++ ", expected " ++ expected

/-- Whether the text ended too early. -/
def isEnd : Cause → Bool
  | endInValue | endInList | endInObject | endInString => true
  | _ => false

end Cause

/-- A cause, and how many bytes were left at its place. -/
structure Fault where
  cause : Cause
  left : Nat

/-- A line, counted from one, and the number of bytes on it before the place. -/
structure Position where
  line : Nat
  column : Nat
deriving DecidableEq

/-- The position after these bytes. -/
def Position.after (before : Bytes) : Position where
  line := before.count Ascii.lineFeed + 1
  column := (before.reverse.takeWhile (· != Ascii.lineFeed)).length

namespace Fault

/-- A fault at the place where these bytes are left. -/
def here (cause : Cause) (rest : Bytes) : Fault :=
  ⟨cause, rest.length⟩

/-- A fault at the next of these bytes, which is counted as read; at the end there is none. -/
def atNext (cause : Cause) (rest : Bytes) : Fault :=
  ⟨cause, rest.length - 1⟩

/-- Where in a text the fault lies. -/
def position (fault : Fault) (text : Bytes) : Position :=
  Position.after (text.take (text.length - fault.left))

end Fault

/-- A fault with its position in the text. -/
structure SyntaxFault where
  cause : Cause
  position : Position

/-- The message of a fault and where it lies. -/
def SyntaxFault.message (fault : SyntaxFault) : String :=
  fault.cause.message ++ " at line " ++ toString fault.position.line ++
    " column " ++ toString fault.position.column

/-- A fault of this text. -/
def Fault.within (text : Bytes) (fault : Fault) : SyntaxFault :=
  ⟨fault.cause, fault.position text⟩

end OperatorKit.Json
