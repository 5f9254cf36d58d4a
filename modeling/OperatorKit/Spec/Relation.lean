import OperatorKit.Spec.Document

/-!
# How documents relate

Two relations between documents, both said key by key and without filling. A document extends
another if it says all that the other says; two documents are compatible if they never say different
things at the same place. A `null` says nothing.
-/

namespace OperatorKit.Spec

open OperatorKit.Json

mutual

/-- Whether a value says all that another one says. -/
def ValueExtends : (smaller larger : Value) → Prop
  | .null, _ => True
  | .object fields, larger => ∃ more, larger = .object more ∧ FieldsExtend fields more
  | smaller, larger => larger = smaller

/-- Whether fields say all that other fields say. -/
def FieldsExtend : (smaller larger : Fields) → Prop
  | [], _ => True
  | (key, value) :: smaller, larger =>
    (∃ other, larger.find? key = some other ∧ ValueExtends value other) ∧
      FieldsExtend smaller larger

end

mutual

/-- Whether two values never say different things. -/
def ValuesCompatible : (left right : Value) → Prop
  | .null, _ => True
  | .object fields, right =>
    right = .null ∨ ∃ others, right = .object others ∧ FieldsCompatible fields others
  | left, right => right = .null ∨ right = left

/-- Whether two tables of fields never say different things. -/
def FieldsCompatible : (left right : Fields) → Prop
  | [], _ => True
  | (key, value) :: left, right =>
    (∀ other, right.find? key = some other → ValuesCompatible value other) ∧
      FieldsCompatible left right

end

/-- Whether a document says all that another one says. -/
def Document.Extends (larger smaller : Document) : Prop :=
  FieldsExtend smaller.fields larger.fields

/-- Whether two documents never say different things. -/
def Document.Compatible (left right : Document) : Prop :=
  FieldsCompatible left.fields right.fields

end OperatorKit.Spec
