/-!
# Rosters

Lists of names in which the order does not matter but the number of times a name stands does.
-/

namespace OperatorKit.Roster

/-- Names in ascending order. -/
def sorted (names : List String) : List String :=
  names.mergeSort fun left right => decide (left ≤ right)

/-- Whether two lists hold the same names equally often. -/
def sameMembers (left right : List String) : Bool :=
  left.length == right.length && sorted left == sorted right

/-- Whether a name stands in a list. -/
def contains (names : List String) (name : String) : Bool :=
  names.any (· == name)

end OperatorKit.Roster
