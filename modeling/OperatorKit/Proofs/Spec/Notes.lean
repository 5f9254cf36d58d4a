import Mathlib.Data.List.Basic
import OperatorKit.Proofs.Spec.Absorption

/-!
# Notes entry by entry

`Entry.notes` says what a merge notes at a key, without a loop over keys and without a comparison of
whole values. The notes of two documents are those of the default's keys, one after the other: where
filling passes over values that agree with their default, there was nothing to note.
-/

namespace OperatorKit.Spec

open OperatorKit.Json

/-- What is noted at a key, from the default there and from what is found. -/
def notesFound (key : String) (default : Value) : (changed : Option Value) → List Note
  | none => [.filledMissing key]
  | some changed => (fillValue key default changed).notes

/-- Filling fields notes what is noted at every default, whichever comes first. -/
theorem notes_fillFields {defaults : Fields} (ordered : Value.MembersOrdered defaults)
    (changed : Fields) :
    (fillFields defaults changed).notes =
      defaults.flatMap fun field => notesFound field.1 field.2 (changed.find? field.1) := by
  induction defaults generalizing changed with
  | nil => rfl
  | cons head defaults inductionHypothesis =>
    obtain ⟨key, default⟩ := head
    obtain ⟨above, -, restOrdered⟩ := ordered
    simp only [fillFields]
    rw [inductionHypothesis restOrdered, List.flatMap_cons]
    congr 1
    · cases changed.find? key <;> rfl
    · apply List.flatMap_congr
      intro field member
      have different : key ≠ field.1 := fun equal => String.lt_irrefl _ (equal ▸ above field member)
      rw [Fields.find?_insert, if_neg different]

/-- Nothing is noted on fields in which every default finds a value that agrees with it. -/
theorem notes_fillFields_of_agree {defaults changed : Fields}
    (ordered : Value.MembersOrdered defaults)
    (agree : ∀ field ∈ defaults, ∃ value, changed.find? field.1 = some value ∧
      value.agrees field.2 = true) :
    (fillFields defaults changed).notes = [] := by
  rw [notes_fillFields ordered, List.flatMap_eq_nil_iff]
  rintro ⟨key, default⟩ member
  obtain ⟨value, found, agrees⟩ := agree _ member
  rw [found, notesFound]
  cases default <;> simp [fillValue, agrees]

/-- Objects leave the notes of their fields, also where they agree. -/
theorem notes_fillValue_object {key : String} {defaults fields : Fields}
    (ordered : Value.MembersOrdered defaults) :
    (fillValue key (.object defaults) (.object fields)).notes =
      (fillFields defaults fields).notes := by
  simp only [fillValue]
  split
  · rename_i agree
    have found := find?_of_membersAgree ordered (by simpa [Value.agrees] using agree)
    rw [notes_fillFields_of_agree ordered found]
  · rfl

/-- A `null` that is filled with anything else is noted. -/
theorem notes_fillValue_null {key : String} {default : Value} (set : default ≠ .null) :
    (fillValue key default .null).notes = [.filledNull key] := by
  cases default with
  | null => exact absurd rfl set
  | boolean _ | number _ | string _ | array _ | object _ => simp [fillValue, Value.agrees]

/-- A leaf that is kept over an object is noted. -/
theorem notes_fillValue_leaf {key : String} {defaults : Fields} {changed : Value}
    (isLeaf : changed.IsLeaf) :
    (fillValue key (.object defaults) changed).notes = [.keptOverObject key changed.kind] := by
  cases changed with
  | null => exact absurd rfl isLeaf.1
  | object fields => exact absurd rfl isLeaf.2
  | boolean _ | number _ | string _ | array _ => simp [fillValue, Value.agrees]

/-- Nothing is noted where a value is kept over what is no object. -/
theorem notes_fillValue_kept {key : String} {default changed : Value}
    (defaultNotObject : ¬ default.IsObject) (changedNotNull : changed ≠ .null) :
    (fillValue key default changed).notes = [] := by
  cases default with
  | object defaults => exact absurd rfl defaultNotObject
  | null | boolean _ | number _ | string _ | array _ =>
    simp only [fillValue]
    split
    · rfl
    · cases changed with
      | null => exact absurd rfl changedNotNull
      | boolean _ | number _ | string _ | array _ | object _ => rfl

namespace Entry

/-- What is noted on filling a changed entry from a default entry. -/
def notes (key : String) : (default changed : Entry) → List Note
  | missing, _ => []
  | _, missing => [.filledMissing key]
  | null, null => []
  | _, null => [.filledNull key]
  | object _, leaf value _ => [.keptOverObject key value.kind]
  | object default, object changed => (default.fill changed).notes
  | _, _ => []

/-- The notes on two entries are those on their values. -/
theorem notesFound_value? (key : String) {default : Entry} {value : Value}
    (found : default.value? = some value) (changed : Entry) :
    notesFound key value changed.value? = default.notes key changed := by
  cases default with
  | missing => cases found
  | null =>
    cases found
    cases changed with
    | missing => rfl
    | null => simp [notesFound, notes, value?, fillValue, Value.agrees]
    | leaf kept isLeaf =>
      exact notes_fillValue_kept Value.not_isObject_null fun equal => isLeaf.1 (equal ▸ rfl)
    | object inner => exact notes_fillValue_kept Value.not_isObject_null Value.noConfusion
  | leaf default isLeaf =>
    cases found
    cases changed with
    | missing => rfl
    | null => exact notes_fillValue_null fun equal => isLeaf.1 (equal ▸ rfl)
    | leaf kept keptIsLeaf =>
      exact notes_fillValue_kept isLeaf.2 fun equal => keptIsLeaf.1 (equal ▸ rfl)
    | object inner => exact notes_fillValue_kept isLeaf.2 Value.noConfusion
  | object default =>
    cases found
    cases changed with
    | missing => rfl
    | null => exact notes_fillValue_null Value.noConfusion
    | leaf kept isLeaf => exact notes_fillValue_leaf isLeaf
    | object inner => exact notes_fillValue_object default.ordered

end Entry

namespace Document

/-- The keys at which a document says something. -/
def keys (document : Document) : List String :=
  document.fields.map Prod.fst

/-- The keys of a document ascend. -/
theorem keys_ascending (document : Document) : document.keys.Pairwise (· < ·) := by
  have ordered := document.ordered
  unfold keys
  generalize document.fields = fields at ordered ⊢
  induction fields with
  | nil => exact .nil
  | cons head fields inductionHypothesis =>
    obtain ⟨above, -, restOrdered⟩ := ordered
    refine List.pairwise_cons.2 ⟨fun key isKey => ?_, inductionHypothesis restOrdered⟩
    obtain ⟨field, member, rfl⟩ := List.mem_map.1 isKey
    exact above field member

/-- A key is one of a document's if its entry is not missing. -/
theorem mem_keys_iff {document : Document} {key : String} :
    key ∈ document.keys ↔ document.entry key ≠ .missing := by
  rw [ne_eq, ← Entry.value?_eq_none, value?_entry, keys, List.mem_map]
  constructor
  · rintro ⟨⟨key, value⟩, member, rfl⟩
    rw [Fields.find?_of_mem document.ordered member]
    nofun
  · intro found
    obtain ⟨value, found⟩ := Option.ne_none_iff_exists'.1 found
    exact ⟨(key, value), Fields.mem_of_find? found, rfl⟩

/-- The notes of a merge are those of the default's keys, one after the other. -/
theorem notes_fill (default changed : Document) :
    (default.fill changed).notes =
      default.keys.flatMap fun key => (default.entry key).notes key (changed.entry key) := by
  have ofFields : (default.fill changed).notes =
      (fillFields default.fields changed.fields).notes := rfl
  rw [ofFields, notes_fillFields default.ordered, keys, List.flatMap_map]
  apply List.flatMap_congr
  rintro ⟨key, value⟩ member
  have found := Fields.find?_of_mem default.ordered member
  rw [← value?_entry] at found
  rw [← value?_entry]
  exact Entry.notesFound_value? key found (changed.entry key)

end Document

/-- Whether a note tells that something was filled. -/
def Note.IsFilling : Note → Prop
  | filledMissing _ | filledNull _ => True
  | keptOverObject _ _ => False

/-- An entry is left alone by filling if no filling is noted, given that this is so of the documents
inside. -/
theorem Entry.fill_eq_iff_notes {default changed : Entry} (key : String)
    (inside : ∀ inner, changed = object inner → ∀ other : Document,
      inner.Absorbs other ↔ ∀ note ∈ (other.fill inner).notes, ¬ note.IsFilling) :
    default.fill changed = changed ↔ ∀ note ∈ default.notes key changed, ¬ note.IsFilling := by
  cases changed with
  | missing => cases default <;> simp [notes, Note.IsFilling]
  | null => cases default <;> simp [notes, fill, Note.IsFilling]
  | leaf value isLeaf => cases default <;> simp [notes, Note.IsFilling]
  | object inner =>
    cases default with
    | missing | null | leaf _ _ => simp [notes, Entry.inner]
    | object other => simpa [notes, Entry.inner, Document.Absorbs] using inside inner rfl other

/-- A document is left alone by filling exactly if no filling is noted. -/
theorem Document.absorbs_iff_notes {document default : Document} :
    document.Absorbs default ↔ ∀ note ∈ (default.fill document).notes, ¬ note.IsFilling := by
  induction document using entryInduction generalizing default with
  | step document inductionHypothesis =>
    rw [absorbs_iff, notes_fill, List.forall_mem_flatMap]
    constructor
    · intro alone key _
      exact (Entry.fill_eq_iff_notes key fun inner isObject _ =>
        inductionHypothesis key inner isObject).1 (alone key)
    · intro noFilling key
      by_cases isKey : key ∈ default.keys
      · exact (Entry.fill_eq_iff_notes key fun inner isObject _ =>
          inductionHypothesis key inner isObject).2 (noFilling key isKey)
      · rw [mem_keys_iff, Classical.not_not] at isKey
        rw [isKey, Entry.missing_fill]

end OperatorKit.Spec
