import OperatorKit.Json.Ordered
import OperatorKit.Json.Reader
import OperatorKit.Json.Writer

/-!
# Spec documents

A document is the object at the top of a JSON text, in key order throughout. A text that holds
`null` is an empty document; any other value is refused.
-/

namespace OperatorKit.Spec

open OperatorKit.Text OperatorKit.Json

/-- A spec: ordered fields. -/
structure Document where
  fields : Fields
  ordered : Value.MembersOrdered fields

/-- Why a text is not a document. -/
inductive DecodeFault where
  | malformed (fault : SyntaxFault)
  | notAnObject (found : Kind)

/-- The wording of a decode fault. -/
def DecodeFault.message : DecodeFault → String
  | malformed fault => "invalid JSON: " ++ fault.message
  | notAnObject found => "expected a JSON object at the top level, found " ++ found.name

namespace Document

/-- Documents with the same fields are the same. -/
@[ext] theorem ext {left right : Document} (fields : left.fields = right.fields) :
    left = right := by
  cases left
  cases right
  cases fields
  rfl

/-- The document without fields. -/
def empty : Document :=
  ⟨[], by simp [Value.MembersOrdered]⟩

/-- The document with these members; of a repeated key the last one stays. -/
def ofMembers (members : List (String × Value)) : Document :=
  ⟨Value.membersSorted [] members,
    Value.membersSorted_ordered members [] (by simp [Value.MembersOrdered])⟩

/-- The document that a value holds. -/
def ofValue : Value → Except DecodeFault Document
  | .object members => .ok (ofMembers members)
  | .null => .ok empty
  | other => .error (.notAnObject other.kind)

/-- Reads a document from a JSON text. -/
def decode (text : Bytes) : Except DecodeFault Document :=
  match Value.read text with
  | .ok value => ofValue value
  | .error fault => .error (.malformed fault)

/-- The document as a JSON value. -/
def toValue (document : Document) : Value :=
  .object document.fields

/-- The number of fields at the top level. -/
def size (document : Document) : Nat :=
  document.fields.length

/-- The keys at the top level with the kinds of their values. -/
def kinds (document : Document) : List (String × Kind) :=
  document.fields.map fun (key, value) => (key, value.kind)

/-- The document on one line. -/
def compactText (document : Document) : String :=
  document.toValue.compactText

/-- The bytes of the document on one line. -/
def compactBytes (document : Document) : Bytes :=
  document.toValue.compactBytes

/-- The document with one item a line. -/
def indentedText (document : Document) : String :=
  document.toValue.indentedText

end Document

end OperatorKit.Spec
