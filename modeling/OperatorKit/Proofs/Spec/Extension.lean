import OperatorKit.Proofs.Spec.Overlay
import OperatorKit.Spec.Relation

/-!
# Growing a default

A document extends another one if it says all that the other says. A default that says more leaves a
result that says more, and every result says what the changed document says. The changed document
itself has no such freedom: a leaf added to it hides what the default has there.
-/

namespace OperatorKit.Spec

open OperatorKit.Json

/-- Only a leaf says what it says itself. -/
theorem valueExtends_of_isLeaf {value other : Value} (isLeaf : value.IsLeaf) :
    ValueExtends value other ↔ other = value := by
  cases value with
  | null => exact absurd rfl isLeaf.1
  | object fields => exact absurd rfl isLeaf.2
  | boolean _ | number _ | string _ | array _ => exact Iff.rfl

/-- Fields extend others if they do so at every key of the others. -/
theorem fieldsExtend_iff {smaller larger : Fields} (ordered : Value.MembersOrdered smaller) :
    FieldsExtend smaller larger ↔ ∀ key value, smaller.find? key = some value →
      ∃ other, larger.find? key = some other ∧ ValueExtends value other := by
  induction smaller with
  | nil => simp [FieldsExtend, Fields.find?]
  | cons head smaller inductionHypothesis =>
    obtain ⟨above, -, restOrdered⟩ := ordered
    rw [FieldsExtend, inductionHypothesis restOrdered, Fields.forall_find?_cons above]

namespace Entry

/-- The entry says all that the other one says; a `null` says only that its key is there. -/
def Extends (larger : Entry) : (smaller : Entry) → Prop
  | missing => True
  | null => larger ≠ missing
  | leaf value isLeaf => larger = leaf value isLeaf
  | object inner => ∃ more, larger = object more ∧ more.Extends inner

variable {larger smaller : Entry}

/-- Entries extend others as their values do. -/
theorem extends_iff_values : larger.Extends smaller ↔ ∀ value, smaller.value? = some value →
    ∃ other, larger.value? = some other ∧ ValueExtends value other := by
  cases smaller with
  | missing => simp [Extends, value?]
  | null => cases larger <;> simp [Extends, value?, ValueExtends]
  | leaf value isLeaf =>
    cases larger with
    | missing => simp [Extends, value?]
    | null =>
      have notNull : Value.null ≠ value := fun equal => isLeaf.1 (equal ▸ rfl)
      simp [Extends, value?, valueExtends_of_isLeaf isLeaf, notNull]
    | leaf other otherIsLeaf => simp [Extends, value?, valueExtends_of_isLeaf isLeaf]
    | object inner =>
      have different : inner.toValue ≠ value := fun equal => isLeaf.2 (equal ▸ rfl)
      simp [Extends, value?, valueExtends_of_isLeaf isLeaf, different]
  | object inner =>
    cases larger with
    | missing | null => simp [Extends, value?, Document.toValue, ValueExtends]
    | leaf other otherIsLeaf =>
      have notObject : ∀ fields, other ≠ .object fields := fun _ equal => otherIsLeaf.2 (equal ▸ rfl)
      simp [Extends, value?, Document.toValue, ValueExtends, notObject]
    | object more =>
      simp [Extends, value?, Document.toValue, ValueExtends, Document.Extends]

end Entry

namespace Document

/-- A document extends another one if its entries do at every key. -/
theorem extends_iff_entries {larger smaller : Document} :
    larger.Extends smaller ↔ ∀ key, (larger.entry key).Extends (smaller.entry key) := by
  rw [Extends, fieldsExtend_iff smaller.ordered]
  simp only [Entry.extends_iff_values, value?_entry]

/-- Every document extends itself. -/
theorem extends_self (document : Document) : document.Extends document := by
  induction document using entryInduction with
  | step document inductionHypothesis =>
    rw [extends_iff_entries]
    intro key
    cases entry : document.entry key with
    | missing => trivial
    | null => exact Entry.noConfusion
    | leaf value isLeaf => rfl
    | object inner => exact ⟨inner, rfl, inductionHypothesis key inner entry⟩

/-- An empty document is extended by every document. -/
theorem extends_empty (document : Document) : document.Extends empty := by
  rw [extends_iff_entries]
  intro key
  rw [entry_empty]
  trivial

end Document

namespace Entry

variable {larger smaller : Entry}

/-- What is inside an entry extends what is inside an entry that it extends. -/
theorem Extends.inner (grown : larger.Extends smaller) :
    larger.inner.Extends smaller.inner := by
  cases smaller with
  | missing | null | leaf _ _ => exact Document.extends_empty _
  | object inner =>
    obtain ⟨more, rfl, inside⟩ := grown
    exact inside

/-- A `null` filled from a larger entry extends it filled from a smaller one. -/
theorem Extends.fill_null (grown : larger.Extends smaller) :
    (larger.fill null).Extends (smaller.fill null) := by
  cases smaller with
  | missing => cases larger <;> exact Entry.noConfusion
  | null =>
    rw [Entry.fill_null grown]
    exact grown
  | leaf value isLeaf =>
    cases grown
    rfl
  | object inner =>
    obtain ⟨more, rfl, inside⟩ := grown
    exact ⟨more, rfl, inside⟩

end Entry

namespace Document

/-- A default that extends another one leaves a result that extends the result of the other one. -/
theorem Extends.merge {larger smaller : Document} (grown : larger.Extends smaller)
    (changed : Document) : (larger.merge changed).Extends (smaller.merge changed) := by
  induction changed using entryInduction generalizing larger smaller with
  | step changed inductionHypothesis =>
    rw [extends_iff_entries]
    intro key
    have here := extends_iff_entries.1 grown key
    rw [entry_merge, entry_merge]
    cases entry : changed.entry key with
    | missing =>
      rw [Entry.fill_missing, Entry.fill_missing]
      exact here
    | null => exact here.fill_null
    | leaf value isLeaf =>
      rw [Entry.fill_leaf, Entry.fill_leaf]
      rfl
    | object inner =>
      rw [Entry.fill_object, Entry.fill_object]
      exact ⟨_, rfl, inductionHypothesis key inner entry here.inner⟩

/-- A document extends another one exactly if it has every key of the other one and at each of them
the other has a `null`, both say the same, or both have objects of which one extends the other. -/
theorem extends_iff {larger smaller : Document} : larger.Extends smaller ↔
    ∀ key, smaller.entry key ≠ .missing → larger.entry key ≠ .missing ∧
      (smaller.entry key = .null ∨ larger.entry key = smaller.entry key ∨
        ∃ inner more, smaller.entry key = .object inner ∧ larger.entry key = .object more ∧
          more.Extends inner) := by
  rw [extends_iff_entries]
  apply forall_congr'
  intro key
  cases smaller.entry key with
  | missing => simp [Entry.Extends]
  | null => simp [Entry.Extends]
  | leaf value isLeaf => simp +contextual [Entry.Extends]
  | object inner =>
    constructor
    · rintro ⟨more, found, inside⟩ -
      exact ⟨found ▸ Entry.noConfusion, Or.inr (Or.inr ⟨inner, more, rfl, found, inside⟩)⟩
    · intro atKey
      obtain ⟨-, isNull | same | ⟨other, more, isOther, found, inside⟩⟩ := atKey Entry.noConfusion
      · cases isNull
      · exact ⟨inner, same, extends_self inner⟩
      · cases isOther
        exact ⟨more, found, inside⟩

/-- However a default grows, no result is disturbed: the result of the larger default extends the
result of the smaller one, and it extends the changed document. -/
theorem merge_extends_merge {larger smaller : Document} (grown : larger.Extends smaller)
    (changed : Document) : (larger.merge changed).Extends (smaller.merge changed) ∧
      (larger.merge changed).Extends changed :=
  ⟨grown.merge changed, (extends_empty larger).merge changed⟩

/-- A default in which a `null` and a missing key become objects that the changed document goes into,
beside a key that both sides have alike. -/
theorem merge_extends_merge_of_grown_limits :
    let smaller := ofMembers [("limits", .object [("cpu", .null)]), ("mode", .string "fast")]
    let larger := ofMembers [("limits", .object [("cpu", .object [("max", .string "2")]),
      ("gpu", .object [("max", .null)])]), ("mode", .string "fast"), ("zone", .null)]
    let changed := ofMembers [("limits", .object [("cpu", .object [("min", .null)]),
      ("gpu", .object [])]), ("mode", .string "fast")]
    larger.Extends smaller ∧ (larger.merge changed).Extends (smaller.merge changed) ∧
      (larger.merge changed).Extends changed := by
  intro smaller larger changed
  have smallerFields : smaller.fields =
      [("limits", .object [("cpu", .null)]), ("mode", .string "fast")] := rfl
  have largerFields : larger.fields =
      [("limits", .object [("cpu", .object [("max", .string "2")]),
        ("gpu", .object [("max", .null)])]), ("mode", .string "fast"), ("zone", .null)] := rfl
  have grown : larger.Extends smaller := by
    simp [Document.Extends, smallerFields, largerFields, FieldsExtend, ValueExtends, Fields.find?]
  exact ⟨grown, merge_extends_merge grown changed⟩

end Document

end OperatorKit.Spec
