import OperatorKit.Json.Fields

/-!
# Paths of keys

A path names a place inside a value by the keys that lead to it. It goes down through objects only,
so every other value is the end of all paths that reach it.
-/

namespace OperatorKit.Json.Value

/-- Keys to follow, the outermost first. -/
abbrev Path := List String

/-- The value at a path, if the path leads anywhere. -/
def at? : Path → Value → Option Value
  | [], value => some value
  | key :: path, object fields => (Fields.find? key fields).bind (at? path)
  | _ :: _, _ => none

/-- Whether a value is an object. -/
def IsObject (value : Value) : Prop :=
  value.kind = .object

/-- Whether a value is set to something that holds no fields. -/
def IsLeaf (value : Value) : Prop :=
  value.kind ≠ .null ∧ value.kind ≠ .object

end OperatorKit.Json.Value
