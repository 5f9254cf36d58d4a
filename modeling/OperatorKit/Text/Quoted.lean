import OperatorKit.Text.Unprintable

/-!
# Quoted text

How a text is shown inside a message: between double quotes, on one line, with every character that
would not print written as its number.
-/

namespace OperatorKit.Text

/-- The letter after a backslash that stands for a character. -/
def quotedLetter? : Char → Option Char
  | '"' => some '"'
  | '\\' => some '\\'
  | '\n' => some 'n'
  | '\r' => some 'r'
  | '\t' => some 't'
  | '\x00' => some '0'
  | _ => none

/-- A character as it is shown between quotes. -/
def quotedChar (char : Char) : List Char :=
  match quotedLetter? char with
  | some letter => ['\\', letter]
  | none =>
    if isUnprintable char then
      ['\\', 'u', '\x7b'] ++ Nat.toDigits 16 char.toNat ++ ['\x7d']
    else [char]

/-- A text between double quotes. -/
def quoted (text : String) : String :=
  String.ofList ('"' :: text.toList.flatMap quotedChar ++ ['"'])

end OperatorKit.Text
