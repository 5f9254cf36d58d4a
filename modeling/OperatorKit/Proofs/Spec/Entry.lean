import OperatorKit.Proofs.Json.Lookup
import OperatorKit.Spec.Fill

/-!
# Entries of a document

What a document says at a key, with the objects inside it as documents of their own. A document is
determined by its entries, and the nesting of objects gives an induction over documents, so laws of
documents are shown one key at a time and never mention the order of fields.
-/

namespace OperatorKit.Spec

open OperatorKit.Json

/-- What a document says at a key. -/
inductive Entry where
  | missing
  | null
  | leaf (value : Value) (isLeaf : value.IsLeaf)
  | object (inner : Document)

namespace Entry

/-- The value of an entry, if there is one. -/
def value? : Entry → Option Value
  | missing => none
  | null => some .null
  | leaf value _ => some value
  | object inner => some inner.toValue

/-- The entry of a value that was found or not. -/
def ofFound : (found : Option Value) → (∀ value, found = some value → value.Ordered) → Entry
  | none, _ => missing
  | some .null, _ => null
  | some (.boolean truth), _ => leaf (.boolean truth) ⟨nofun, nofun⟩
  | some (.number number), _ => leaf (.number number) ⟨nofun, nofun⟩
  | some (.string text), _ => leaf (.string text) ⟨nofun, nofun⟩
  | some (.array items), _ => leaf (.array items) ⟨nofun, nofun⟩
  | some (.object fields), ordered =>
    object ⟨fields, by simpa [Value.Ordered] using ordered _ rfl⟩

/-- The document inside an entry. Whatever is no object holds no fields. -/
def inner : Entry → Document
  | object inner => inner
  | missing | null | leaf _ _ => .empty

/-- An entry has the value that it was made of. -/
@[simp] theorem value?_ofFound (found : Option Value)
    (ordered : ∀ value, found = some value → value.Ordered) :
    (ofFound found ordered).value? = found := by
  cases found with
  | none => rfl
  | some value => cases value <;> rfl

/-- Only a missing entry has no value. -/
theorem value?_eq_none {entry : Entry} : entry.value? = none ↔ entry = missing := by
  cases entry <;> simp [value?]

/-- Only an object entry has an object as its value. -/
theorem exists_object_of_isObject {entry : Entry} {value : Value}
    (found : entry.value? = some value) (isObject : value.IsObject) :
    ∃ inner, entry = object inner := by
  cases entry with
  | missing => cases found
  | null =>
    cases found
    cases isObject
  | leaf leaf isLeaf =>
    cases found
    exact absurd isObject isLeaf.2
  | object inner => exact ⟨inner, rfl⟩

/-- Entries with the same value are the same. -/
theorem ext_value? {left right : Entry} (same : left.value? = right.value?) : left = right := by
  cases left <;> cases right <;>
    grind [value?, Document.toValue, Value.IsLeaf, Value.kind, Document.ext]

end Entry

namespace Document

/-- What a document says at a key. -/
def entry (document : Document) (key : String) : Entry :=
  .ofFound (document.fields.find? key) fun _ found => ordered_of_find? document.ordered found

/-- The value of an entry is what is found at its key. -/
theorem value?_entry (document : Document) (key : String) :
    (document.entry key).value? = document.fields.find? key :=
  Entry.value?_ofFound _ _

/-- Nothing is said in an empty document. -/
@[simp] theorem entry_empty (key : String) : empty.entry key = .missing := by
  apply Entry.ext_value?
  rw [value?_entry]
  rfl

/-- Documents with the same entries are the same. -/
theorem ext_entry {left right : Document} (same : ∀ key, left.entry key = right.entry key) :
    left = right := by
  ext1
  apply Fields.ext_find? left.ordered right.ordered
  intro key
  rw [← value?_entry, ← value?_entry, same key]

/-- What holds of a document as soon as it holds of all objects in its entries holds of every
document. -/
theorem entryInduction {motive : Document → Prop}
    (step : ∀ document : Document,
      (∀ key inner, document.entry key = .object inner → motive inner) → motive document)
    (document : Document) : motive document := by
  apply step
  intro key inner isObject
  have found : document.fields.find? key = some inner.toValue := by
    rw [← value?_entry, isObject, Entry.value?]
  have smaller : sizeOf inner.fields < sizeOf document.fields := by
    have smallerValue := Fields.sizeOf_lt_of_find? found
    simp only [toValue, Value.object.sizeOf_spec] at smallerValue
    omega
  exact entryInduction step inner
termination_by sizeOf document.fields

end Document

end OperatorKit.Spec
