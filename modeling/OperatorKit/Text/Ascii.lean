/-!
# Bytes of plain text

Names for the bytes that punctuate a JSON text, and the classes of bytes that its reader tells
apart. Every byte here stands for the one character of the same number.
-/

namespace OperatorKit.Text

/-- One byte of a text. -/
abbrev Byte := UInt8

/-- A text as it stands in a file. -/
abbrev Bytes := List Byte

namespace Ascii

@[match_pattern] def quote : Byte := 0x22
@[match_pattern] def backslash : Byte := 0x5C
@[match_pattern] def slash : Byte := 0x2F
@[match_pattern] def comma : Byte := 0x2C
@[match_pattern] def colon : Byte := 0x3A
@[match_pattern] def openBracket : Byte := 0x5B
@[match_pattern] def closeBracket : Byte := 0x5D
@[match_pattern] def openBrace : Byte := 0x7B
@[match_pattern] def closeBrace : Byte := 0x7D
@[match_pattern] def plus : Byte := 0x2B
@[match_pattern] def minus : Byte := 0x2D
@[match_pattern] def dot : Byte := 0x2E
@[match_pattern] def zero : Byte := 0x30
@[match_pattern] def backspace : Byte := 0x08
@[match_pattern] def tab : Byte := 0x09
@[match_pattern] def lineFeed : Byte := 0x0A
@[match_pattern] def formFeed : Byte := 0x0C
@[match_pattern] def carriageReturn : Byte := 0x0D
@[match_pattern] def space : Byte := 0x20
@[match_pattern] def letterB : Byte := 0x62
@[match_pattern] def letterE : Byte := 0x65
@[match_pattern] def capitalE : Byte := 0x45
@[match_pattern] def letterF : Byte := 0x66
@[match_pattern] def letterN : Byte := 0x6E
@[match_pattern] def letterR : Byte := 0x72
@[match_pattern] def letterT : Byte := 0x74
@[match_pattern] def letterU : Byte := 0x75

/-- The bytes `ull`, `rue` and `alse` that complete a word once its first letter is read. -/
def afterN : Bytes := [0x75, 0x6C, 0x6C]

@[inherit_doc afterN] def afterT : Bytes := [0x72, 0x75, 0x65]

@[inherit_doc afterN] def afterF : Bytes := [0x61, 0x6C, 0x73, 0x65]

/-- Space, tab, line feed and carriage return may stand between two tokens. -/
def isBlank (byte : Byte) : Bool :=
  byte == space || byte == tab || byte == lineFeed || byte == carriageReturn

/-- The bytes below the space are control characters. -/
def isControl (byte : Byte) : Bool :=
  byte < space

/-- The ten decimal digits. -/
def isDigit (byte : Byte) : Bool :=
  0x30 ≤ byte && byte ≤ 0x39

/-- What a decimal digit counts. -/
def digitValue (byte : Byte) : Nat :=
  byte.toNat - 0x30

/-- What a hexadecimal digit of either case counts. -/
def hexValue? (byte : Byte) : Option Nat :=
  if isDigit byte then some (digitValue byte)
  else if 0x61 ≤ byte && byte ≤ 0x66 then some (byte.toNat - 0x57)
  else if 0x41 ≤ byte && byte ≤ 0x46 then some (byte.toNat - 0x37)
  else none

end Ascii

end OperatorKit.Text
