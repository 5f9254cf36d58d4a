import OperatorKit.Json.Value

/-!
# Size limits of values

How deeply a value is nested, and whether its numbers are written back as they were read. A value
within both limits survives being written and read again.
-/

namespace OperatorKit.Json.Value

mutual

/-- How many arrays and objects stand inside each other. -/
def levels : Value → Nat
  | null | boolean _ | number _ | string _ => 0
  | array items => itemsLevels items + 1
  | object members => membersLevels members + 1

/-- The levels of the deepest item. -/
def itemsLevels : List Value → Nat
  | [] => 0
  | item :: items => max (levels item) (itemsLevels items)

/-- The levels of the deepest member. -/
def membersLevels : List (String × Value) → Nat
  | [] => 0
  | (_, value) :: members => max (levels value) (membersLevels members)

end

mutual

/-- Whether all numbers in a value are integers. -/
def IntegersOnly : Value → Prop
  | null | boolean _ | string _ => True
  | number (.integer _ _) => True
  | number (.double _) => False
  | array items => ItemsIntegersOnly items
  | object members => MembersIntegersOnly members

/-- Whether all numbers in the items are integers. -/
def ItemsIntegersOnly : List Value → Prop
  | [] => True
  | item :: items => IntegersOnly item ∧ ItemsIntegersOnly items

/-- Whether all numbers in the members are integers. -/
def MembersIntegersOnly : List (String × Value) → Prop
  | [] => True
  | (_, value) :: members => IntegersOnly value ∧ MembersIntegersOnly members

end

end OperatorKit.Json.Value
