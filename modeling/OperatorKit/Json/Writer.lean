import OperatorKit.Json.Value
import OperatorKit.Text.Utf8

/-!
# Writing values

One writer for both layouts: everything on one line without blanks, or one item a line, indented by
two spaces a level. The layouts differ only in the blanks before an item, before a closing bracket
and after a colon.
-/

namespace OperatorKit.Json

open OperatorKit.Text

/-- Where blanks are written. -/
inductive Layout where
  | compact
  /-- One item a line, at this many levels. -/
  | indented (level : Nat)

namespace Layout

/-- The layout of what stands inside a bracket. -/
def deeper : Layout → Layout
  | compact => compact
  | indented level => indented (level + 1)

/-- The blanks before an item or a closing bracket. -/
def lineBreak : Layout → List Char
  | compact => []
  | indented level => '\n' :: List.replicate (2 * level) ' '

/-- The colon between a key and its value. -/
def colon : Layout → List Char
  | compact => [':']
  | indented _ => [':', ' ']

end Layout

/-- The letter after a backslash that stands for a character in a string literal. -/
def escapeLetter? : Char → Option Char
  | '"' => some '"'
  | '\\' => some '\\'
  | '\x08' => some 'b'
  | '\t' => some 't'
  | '\n' => some 'n'
  | '\x0C' => some 'f'
  | '\r' => some 'r'
  | _ => none

/-- A character inside a string literal. Quotes, backslashes and control characters are escaped. -/
def escapedChar (char : Char) : List Char :=
  match escapeLetter? char with
  | some letter => ['\\', letter]
  | none =>
    if char.toNat < 0x20 then
      ['\\', 'u', '0', '0', Nat.digitChar (char.toNat / 16), Nat.digitChar (char.toNat % 16)]
    else [char]

/-- A text as a string literal. -/
def stringChars (text : String) : List Char :=
  '"' :: (text.toList.flatMap escapedChar ++ ['"'])

/-- The comma before all items but the first. -/
def separator (isFirst : Bool) : List Char :=
  if isFirst then [] else [',']

/-- The blanks before a closing bracket; an empty one holds none. -/
def beforeClosing {α : Type} (layout : Layout) (items : List α) : List Char :=
  if items.isEmpty then [] else layout.lineBreak

namespace Value

mutual

/-- A value in a layout. -/
def chars (layout : Layout) : Value → List Char
  | null => ['n', 'u', 'l', 'l']
  | boolean true => ['t', 'r', 'u', 'e']
  | boolean false => ['f', 'a', 'l', 's', 'e']
  | number amount => amount.chars
  | string text => stringChars text
  | array items =>
    '[' :: (itemsChars layout.deeper true items ++ beforeClosing layout items ++ [']'])
  | object members =>
    '\x7b' :: (membersChars layout.deeper true members ++ beforeClosing layout members ++ ['\x7d'])

/-- The items of an array, each after its comma and blanks. -/
def itemsChars (layout : Layout) (isFirst : Bool) : List Value → List Char
  | [] => []
  | item :: items =>
    separator isFirst ++ layout.lineBreak ++ chars layout item ++ itemsChars layout false items

/-- The members of an object, each after its comma and blanks. -/
def membersChars (layout : Layout) (isFirst : Bool) : List (String × Value) → List Char
  | [] => []
  | (key, value) :: members =>
    separator isFirst ++ layout.lineBreak ++ stringChars key ++ layout.colon ++
      chars layout value ++ membersChars layout false members

end

/-- A value on one line. -/
def compactText (value : Value) : String :=
  String.ofList (value.chars .compact)

/-- A value with one item a line. -/
def indentedText (value : Value) : String :=
  String.ofList (value.chars (.indented 0))

/-- The bytes of a value on one line. -/
def compactBytes (value : Value) : Bytes :=
  Utf8.encode (value.chars .compact)

end Value

end OperatorKit.Json
