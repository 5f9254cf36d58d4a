import OperatorKit.Json.Number

/-!
# JSON values

A value keeps the members of an object in the order in which they were written, repeated keys
included; what repeated keys mean is decided by whoever uses the value.
-/

namespace OperatorKit.Json

/-- A JSON value as written. -/
inductive Value where
  | null
  | boolean (truth : Bool)
  | number (number : Number)
  | string (text : String)
  | array (items : List Value)
  | object (members : List (String × Value))

/-- The six kinds of value. -/
inductive Kind where
  | null
  | boolean
  | number
  | string
  | array
  | object
deriving DecidableEq

/-- The name of a kind in messages. -/
def Kind.name : Kind → String
  | null => "null"
  | boolean => "boolean"
  | number => "number"
  | string => "string"
  | array => "array"
  | object => "object"

namespace Value

/-- The kind of a value. -/
def kind : Value → Kind
  | null => .null
  | boolean _ => .boolean
  | number _ => .number
  | string _ => .string
  | array _ => .array
  | object _ => .object

mutual

/-- Whether two values are the same throughout, numbers compared by `Number.agrees`. -/
def agrees : Value → Value → Bool
  | null, null => true
  | boolean left, boolean right => left == right
  | number left, number right => left.agrees right
  | string left, string right => left == right
  | array left, array right => itemsAgree left right
  | object left, object right => membersAgree left right
  | _, _ => false

/-- Whether two arrays agree item by item. -/
def itemsAgree : List Value → List Value → Bool
  | [], [] => true
  | left :: lefts, right :: rights => agrees left right && itemsAgree lefts rights
  | _, _ => false

/-- Whether two objects agree member by member. -/
def membersAgree : List (String × Value) → List (String × Value) → Bool
  | [], [] => true
  | (leftKey, left) :: lefts, (rightKey, right) :: rights =>
    leftKey == rightKey && agrees left right && membersAgree lefts rights
  | _, _ => false

end

end Value

end OperatorKit.Json
