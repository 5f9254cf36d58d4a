import Mathlib.Data.List.Pairwise
import Mathlib.Data.List.Perm.Basic
import OperatorKit.Proofs.Spec.Absorption
import OperatorKit.Spec.Relation

/-!
# Reordering defaults

Compatible defaults may be filled in in any order. Two defaults are compatible exactly if it does
not matter which of them is merged into the other; below any document they then change places, and
so do any number of them.
-/

namespace OperatorKit.Spec

open OperatorKit.Json

/-- A leaf is compatible with a `null` and with itself. -/
theorem valuesCompatible_of_isLeaf {value other : Value} (isLeaf : value.IsLeaf) :
    ValuesCompatible value other ↔ other = .null ∨ other = value := by
  cases value with
  | null => exact absurd rfl isLeaf.1
  | object fields => exact absurd rfl isLeaf.2
  | boolean _ | number _ | string _ | array _ => exact Iff.rfl

/-- Fields are compatible if at every key that both have the values are. -/
theorem fieldsCompatible_iff {left right : Fields} (ordered : Value.MembersOrdered left) :
    FieldsCompatible left right ↔
      ∀ key value, left.find? key = some value →
        ∀ other, right.find? key = some other → ValuesCompatible value other := by
  induction left with
  | nil => simp [FieldsCompatible, Fields.find?]
  | cons head left inductionHypothesis =>
    obtain ⟨above, -, restOrdered⟩ := ordered
    rw [FieldsCompatible, inductionHypothesis restOrdered, Fields.forall_find?_cons above]

namespace Entry

/-- The entries never say different things; what is missing and a `null` say nothing. -/
def Compatible : (left right : Entry) → Prop
  | missing, _ | null, _ | _, missing | _, null => True
  | leaf value _, leaf other _ => value = other
  | leaf _ _, object _ | object _, leaf _ _ => False
  | object left, object right => left.Compatible right

variable {left right : Entry}

/-- Entries are compatible if their values are. -/
theorem compatible_iff_values : left.Compatible right ↔
    ∀ value, left.value? = some value → ∀ other, right.value? = some other →
      ValuesCompatible value other := by
  cases left with
  | missing => simp [Compatible, value?]
  | null => cases right <;> simp [Compatible, value?, ValuesCompatible]
  | leaf value isLeaf =>
    cases right with
    | missing => simp [Compatible, value?]
    | null => simp [Compatible, value?, valuesCompatible_of_isLeaf isLeaf]
    | leaf other otherIsLeaf =>
      have notNull : other ≠ .null := fun equal => otherIsLeaf.1 (equal ▸ rfl)
      simp [Compatible, value?, valuesCompatible_of_isLeaf isLeaf, notNull, eq_comm]
    | object inner =>
      have different : inner.toValue ≠ value := fun equal => isLeaf.2 (equal ▸ rfl)
      have notNull : inner.toValue ≠ .null := Value.noConfusion
      simp [Compatible, value?, valuesCompatible_of_isLeaf isLeaf, different, notNull]
  | object inner =>
    cases right with
    | missing => simp [Compatible, value?]
    | null => simp [Compatible, value?, Document.toValue, ValuesCompatible]
    | leaf other otherIsLeaf =>
      have notNull : other ≠ .null := fun equal => otherIsLeaf.1 (equal ▸ rfl)
      have notObject : ∀ fields, other ≠ .object fields := fun _ equal => otherIsLeaf.2 (equal ▸ rfl)
      simp [Compatible, value?, Document.toValue, ValuesCompatible, notNull, notObject]
    | object other =>
      simp [Compatible, value?, Document.toValue, ValuesCompatible, Document.Compatible]

/-- Entries are compatible exactly if either fills the other alike, given that this is so of the
documents inside. -/
theorem compatible_iff_fill_comm
    (inside : ∀ inner, left = object inner → ∀ other : Document,
      inner.Compatible other ↔ inner.merge other = other.merge inner) :
    left.Compatible right ↔ left.fill right = right.fill left := by
  cases left with
  | missing => simp [Compatible]
  | null => cases right <;> simp [Compatible, fill, inner]
  | leaf value isLeaf => cases right <;> simp [Compatible, fill, eq_comm]
  | object leftInner =>
    cases right with
    | missing | null | leaf _ _ => simp [Compatible, fill, inner]
    | object rightInner => simpa [Compatible, inner] using inside leftInner rfl rightInner

end Entry

namespace Document

/-- Documents are compatible if their entries are at every key. -/
theorem compatible_iff_entries {left right : Document} :
    left.Compatible right ↔ ∀ key, (left.entry key).Compatible (right.entry key) := by
  rw [Compatible, fieldsCompatible_iff left.ordered]
  simp only [Entry.compatible_iff_values, value?_entry]

/-- Two documents give the same merge in either order exactly if their entries do. -/
theorem merge_comm_iff_entries {left right : Document} :
    left.merge right = right.merge left ↔ ∀ key,
      (left.entry key).fill (right.entry key) = (right.entry key).fill (left.entry key) := by
  constructor
  · intro same key
    rw [← entry_merge, same, entry_merge]
  · intro same
    apply ext_entry
    intro key
    rw [entry_merge, entry_merge, same key]

/-- Two documents are compatible exactly if either may be the default of the other. -/
theorem compatible_iff_merge_comm {left right : Document} :
    left.Compatible right ↔ left.merge right = right.merge left := by
  induction left using entryInduction generalizing right with
  | step left inductionHypothesis =>
    rw [compatible_iff_entries, merge_comm_iff_entries]
    apply forall_congr'
    intro key
    apply Entry.compatible_iff_fill_comm
    intro inner isObject other
    exact inductionHypothesis key inner isObject

/-- Compatibility has no direction. -/
theorem Compatible.symm {left right : Document} (compatible : left.Compatible right) :
    right.Compatible left :=
  compatible_iff_merge_comm.2 (compatible_iff_merge_comm.1 compatible).symm

instance : Std.Symm Document.Compatible :=
  ⟨fun _ _ => Compatible.symm⟩

/-- Every document is compatible with itself. -/
theorem compatible_self (document : Document) : document.Compatible document :=
  compatible_iff_merge_comm.2 rfl

/-- An empty document is compatible with every document. -/
theorem empty_compatible (document : Document) : empty.Compatible document := by
  rw [compatible_iff_entries]
  intro key
  rw [entry_empty]
  trivial

end Document

namespace Entry

variable {left right : Entry}

/-- Either of two compatible entries may be the default of the other. -/
theorem Compatible.fill_comm (compatible : left.Compatible right) :
    left.fill right = right.fill left :=
  (compatible_iff_fill_comm fun _ _ _ => Document.compatible_iff_merge_comm).1 compatible

/-- The documents inside compatible entries are compatible. -/
theorem Compatible.inner (compatible : left.Compatible right) :
    left.inner.Compatible right.inner := by
  cases left with
  | missing | null | leaf _ _ => exact Document.empty_compatible _
  | object leftInner =>
    cases right with
    | missing | null | leaf _ _ => exact (Document.empty_compatible leftInner).symm
    | object rightInner => exact compatible

end Entry

namespace Document

/-- Two compatible defaults may change places below any document. -/
theorem Compatible.merge_merge_comm {left right : Document} (compatible : left.Compatible right)
    (state : Document) : left.merge (right.merge state) = right.merge (left.merge state) := by
  induction state using entryInduction generalizing left right with
  | step state inductionHypothesis =>
    apply ext_entry
    intro key
    have here := compatible_iff_entries.1 compatible key
    simp only [entry_merge]
    cases atState : state.entry key with
    | missing =>
      rw [Entry.fill_missing, Entry.fill_missing]
      exact here.fill_comm
    | null =>
      -- A missing default leaves the `null` for the other one; two that are present both take it.
      by_cases leftMissing : left.entry key = .missing
      · rw [leftMissing, Entry.missing_fill, Entry.missing_fill]
      · by_cases rightMissing : right.entry key = .missing
        · rw [rightMissing, Entry.missing_fill, Entry.missing_fill]
        · rw [Entry.fill_null leftMissing, Entry.fill_null rightMissing]
          exact here.fill_comm
    | leaf value isLeaf => simp only [Entry.fill_leaf]
    | object inner =>
      simp only [Entry.fill_object, Entry.object.injEq]
      exact inductionHypothesis key inner atState here.inner

/-- A document filled from pairwise compatible defaults is the same in whichever order they come. -/
theorem filledFrom_perm {defaults others : List Document}
    (compatible : defaults.Pairwise Document.Compatible) (reordered : defaults.Perm others)
    (state : Document) : state.filledFrom defaults = state.filledFrom others := by
  apply reordered.foldl_eq'
  intro first firstMember second secondMember state
  have alike : second.Compatible first :=
    compatible.forall_of_forall (fun document _ => compatible_self document) secondMember
      firstMember
  exact alike.merge_merge_comm state

/-- Three defaults that share an object, of which one fills a `null` of another, backwards. -/
theorem filledFrom_perm_of_shared_limits :
    let general := ofMembers [("limits", .object [("cpu", .string "2")]), ("mode", .null)]
    let middle := ofMembers [("limits", .object [("gpu", .null), ("cpu", .string "2")])]
    let special := ofMembers
      [("mode", .string "fast"), ("limits", .object [("gpu", .object [("max", .null)])])]
    let state := ofMembers [("mode", .null), ("limits", .object [("gpu", .null)])]
    [general, middle, special].Pairwise Document.Compatible ∧
      state.filledFrom [general, middle, special] =
        state.filledFrom [special, middle, general] := by
  intro general middle special state
  have generalFields : general.fields =
      [("limits", .object [("cpu", .string "2")]), ("mode", .null)] := rfl
  have middleFields : middle.fields =
      [("limits", .object [("cpu", .string "2"), ("gpu", .null)])] := rfl
  have specialFields : special.fields =
      [("limits", .object [("gpu", .object [("max", .null)])]), ("mode", .string "fast")] := rfl
  have compatible : [general, middle, special].Pairwise Document.Compatible := by
    simp [Document.Compatible, generalFields, middleFields, specialFields, FieldsCompatible,
      ValuesCompatible, Fields.find?]
  exact ⟨compatible, filledFrom_perm compatible (List.reverse_perm _).symm state⟩

end Document

end OperatorKit.Spec
