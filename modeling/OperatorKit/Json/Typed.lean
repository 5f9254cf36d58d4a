import OperatorKit.Json.Skip

/-!
# Reading values of a given type

Readers for texts, truth values, sequences and records, built from the parts of the value reader. A
value of another type is a fault; a scalar is read as a whole before it is refused, and an array or
object is refused at its opening.
-/

namespace OperatorKit.Json

open OperatorKit.Text

/-- The fault of a value of the wrong type. -/
def wrongType {bound : Nat} (found : Taken Found bound) (expected : String) : Fault :=
  let cause := Cause.unexpectedType found.value expected
  match found.value with
  | .sequence | .map => ⟨cause, found.rest.length + 1⟩
  | _ => .here cause found.rest

/-- Takes a text. -/
def expectText : Reader String := fun text => do
  let found ← readFound text
  match found.value with
  | .string content => .ok (found.map fun _ => content)
  | _ => .error (wrongType found "a string")

/-- Takes a truth value. -/
def expectBoolean : Reader Bool := fun text => do
  let found ← readFound text
  match found.value with
  | .boolean truth => .ok (found.map fun _ => truth)
  | _ => .error (wrongType found "a boolean")

/-- Takes a sequence of items. -/
def expectSequence {α : Type} (item : Reader α) : Reader (List α) := fun text => do
  let found ← readFound text
  match found.value with
  | .sequence => (readItems item true found.rest).map found.after
  | _ => .error (wrongType found "a sequence")

/-- Takes a record, which is written as an array of its fields or as an object. The two readers take
what follows the opening. -/
def expectRecord {α : Type} (expected : String) (asArray asObject : Reader α) : Reader α :=
  fun text => do
    let found ← readFound text
    match found.value with
    | .sequence => (asArray found.rest).map found.after
    | .map => (asObject found.rest).map found.after
    | _ => .error (wrongType found expected)

/-- What is left of an object once its closing brace is passed, if that comes next. -/
def afterClosingBrace (text : Bytes) : Bytes :=
  match skipBlanks text with
  | [] => []
  | next :: rest => if next = Ascii.closeBrace then rest else next :: rest

/-- Takes the value of a field of a record in an object, from the end of its key on. A field that
the record has already is a fault, placed after the closing brace if that comes next. -/
def readField {α : Type} (name : String) (isPresent : Bool) (value : Reader α) : Reader α :=
  fun text =>
    if isPresent then .error (.here (.duplicateField name) (afterClosingBrace text))
    else readAfterColon value text

/-- A field that a record must have. -/
def requireField {α : Type} (name : String) (value : Option α) (rest : Bytes) : Except Fault α :=
  match value with
  | some value => .ok value
  | none => .error (.here (.missingField name) rest)

/-- Takes the next field of a record in an array, or nothing where the array is closed. -/
def readElement {α : Type} (isFirst : Bool) (value : Reader α) (text : Bytes) :
    Except Fault (Taken (Option α) text.length) := do
  match ← nextItem isFirst text with
  | .closed rest fewer => .ok ⟨none, rest, fewer⟩
  | .more _ start fits => (value start).map fun taken => (taken.map some).widen fits

/-- Takes the next field of a record in an array, which must be there; `count` fields came before
it. -/
def requireElement {α : Type} (expected : String) (count : Nat) (value : Reader α) : Reader α :=
  fun text => do
    let element ← readElement (count == 0) value text
    match element.value with
    | some value => .ok (element.map fun _ => value)
    | none => .error (.here (.tooFewFields count expected) element.rest)

/-- Takes the closing bracket after the last field of a record. -/
def closeArray : Reader Unit := fun text =>
  match blanks : skipBlanks text with
  | [] => .error (.atNext .endInList [])
  | next :: rest =>
    if next = Ascii.closeBracket then .ok ⟨(), rest, length_lt_of_skipBlanks blanks⟩
    else if next = Ascii.comma then
      match skipBlanks rest with
      | [] => .error (.atNext .trailingCharacters [])
      | after :: more =>
        if after = Ascii.closeBracket then .error (.atNext .trailingComma (after :: more))
        else .error (.atNext .trailingCharacters (after :: more))
    else .error (.atNext .trailingCharacters (next :: rest))

/-- Takes the last field of a record in an array and the closing bracket; without the field the
default stands. -/
def readLastElement {α : Type} (default : α) (value : Reader α) : Reader α := fun text => do
  let element ← readElement false value text
  match element.value with
  | some value =>
    let closing ← closeArray element.rest
    .ok ((element.after closing).map fun _ => value)
  | none => .ok (element.map fun _ => default)

end OperatorKit.Json
