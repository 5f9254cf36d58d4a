import OperatorKit.Json.Bracket
import OperatorKit.Json.NumberLiteral
import OperatorKit.Json.Value

/-!
# Reading values

A text is one value with blanks around it. Arrays and objects may be nested to a fixed depth, and
that depth is what the reader recurses on.
-/

namespace OperatorKit.Json

open OperatorKit.Text

/-- How many arrays and objects may stand inside each other. -/
def levelLimit : Nat := 127

/-- Takes a scalar, or the opening of an array or object. -/
def readFound : Reader Found := fun text =>
  match blanks : skipBlanks text with
  | [] => .error (.atNext .endInValue [])
  | next :: rest =>
    have shorter := length_lt_of_skipBlanks blanks
    if next = Ascii.letterN then
      (readWord Ascii.afterN rest).map fun taken => (taken.map fun _ => .null).widen shorter
    else if next = Ascii.letterT then
      (readWord Ascii.afterT rest).map fun taken => (taken.map fun _ => .boolean true).widen shorter
    else if next = Ascii.letterF then
      (readWord Ascii.afterF rest).map fun taken =>
        (taken.map fun _ => .boolean false).widen shorter
    else if next = Ascii.minus then
      (readNumber true rest).map fun taken => (taken.map .number).afterByte.widen shorter
    else if Ascii.isDigit next then
      (readNumber false (next :: rest)).map fun taken => (taken.map .number).widen shorter
    else if next = Ascii.quote then
      (readString rest).map fun taken => (taken.map .string).afterByte.widen shorter
    else if next = Ascii.openBracket then .ok ⟨.sequence, rest, shorter⟩
    else if next = Ascii.openBrace then .ok ⟨.map, rest, shorter⟩
    else .error (.atNext .expectedValue (next :: rest))

/-- Takes a member of an object after its key; the members taken stand last first. -/
def readMember (value : Reader Value) (members : List (String × Value)) (key : String) :
    Reader (List (String × Value)) := fun text =>
  (readAfterColon value text).map fun taken => taken.map fun value => (key, value) :: members

/-- Takes a value; `nested` reads what its array or object holds, if it may hold anything. -/
def readValueOver (nested : Option (Reader Value)) : Reader Value := fun text => do
  let found ← readFound text
  match found.value, nested with
  | .null, _ => .ok (found.map fun _ => .null)
  | .boolean truth, _ => .ok (found.map fun _ => .boolean truth)
  | .number number, _ => .ok (found.map fun _ => .number number)
  | .string text, _ => .ok (found.map fun _ => .string text)
  | .sequence, some item =>
    let items ← readItems item true found.rest
    .ok ((found.after items).map .array)
  | .map, some value =>
    let members ← foldMembers (readMember value) true [] found.rest
    .ok ((found.after members).map fun members => .object members.reverse)
  | .sequence, none | .map, none => .error (.here .tooDeep found.rest)

/-- Takes a value with at most `levels` arrays and objects inside each other. -/
def readValue : (levels : Nat) → Reader Value
  | 0 => readValueOver none
  | levels + 1 => readValueOver (some (readValue levels))

/-- Reads a whole text, which holds nothing but blanks after its value. -/
def readWhole {α : Type} (value : Reader α) (text : Bytes) : Except SyntaxFault α :=
  let outcome := do
    let taken ← value text
    match skipBlanks taken.rest with
    | [] => .ok taken.value
    | more => .error (.atNext .trailingCharacters more)
  outcome.mapError (Fault.within text)

/-- Reads a JSON text. -/
def Value.read (text : Bytes) : Except SyntaxFault Value :=
  readWhole (readValue levelLimit) text

end OperatorKit.Json
