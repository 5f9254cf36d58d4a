import OperatorKit.Proofs.Spec.Entry

/-!
# Filling entry by entry

`Entry.fill` says what a merge leaves at a key, without a loop over keys and without a comparison of
whole values. `Document.entry_merge` shows that merging is filling at every key: the values that
agree with their default, which filling passes over, would have been left alone anyway.
-/

namespace OperatorKit.Spec

open OperatorKit.Json

/-- Fields in which every default finds a value that agrees with it are left alone. -/
theorem fillFields_of_agree {defaults changed : Fields}
    (defaultsOrdered : Value.MembersOrdered defaults)
    (changedOrdered : Value.MembersOrdered changed)
    (agree : ∀ field ∈ defaults, ∃ value, changed.find? field.1 = some value ∧
      value.agrees field.2 = true) :
    (fillFields defaults changed).result = changed := by
  induction defaults with
  | nil => rfl
  | cons head defaults inductionHypothesis =>
    obtain ⟨key, default⟩ := head
    obtain ⟨value, found, agrees⟩ := agree _ List.mem_cons_self
    have here : (fillValue key default value).result = value := by
      cases default <;> simp [fillValue, agrees]
    have unchanged : changed.insert key value = changed :=
      Fields.insert_of_find? changedOrdered (ordered_of_find? changedOrdered found) found
    simp only [fillFields, found, here, unchanged]
    exact inductionHypothesis defaultsOrdered.2.2
      fun field member => agree field (List.mem_cons_of_mem _ member)

/-- In members that agree with ordered defaults every default finds the value it agrees with. -/
theorem find?_of_membersAgree {defaults changed : Fields}
    (ordered : Value.MembersOrdered defaults)
    (agree : Value.membersAgree changed defaults = true) :
    ∀ field ∈ defaults, ∃ value, changed.find? field.1 = some value ∧
      value.agrees field.2 = true := by
  induction defaults generalizing changed with
  | nil => simp
  | cons head defaults inductionHypothesis =>
    obtain ⟨key, default⟩ := head
    obtain ⟨above, -, restOrdered⟩ := ordered
    cases changed with
    | nil => simp [Value.membersAgree] at agree
    | cons changedHead changed =>
      obtain ⟨changedKey, value⟩ := changedHead
      simp only [Value.membersAgree, Bool.and_eq_true, beq_iff_eq] at agree
      obtain ⟨⟨sameKey, valueAgrees⟩, restAgree⟩ := agree
      subst sameKey
      intro field member
      rcases List.mem_cons.1 member with same | later
      · subst same
        exact ⟨value, by simp [Fields.find?], valueAgrees⟩
      · obtain ⟨other, found, otherAgrees⟩ := inductionHypothesis restOrdered restAgree field later
        have different : changedKey ≠ field.1 := fun equal =>
          String.lt_irrefl _ (equal ▸ above field later)
        exact ⟨other, by simpa [Fields.find?, different] using found, otherAgrees⟩

/-- A leaf is not filled. -/
theorem fillValue_of_isLeaf {key : String} {default changed : Value} (isLeaf : changed.IsLeaf) :
    (fillValue key default changed).result = changed := by
  obtain ⟨notNull, notObject⟩ := isLeaf
  cases changed with
  | null => exact absurd rfl notNull
  | object fields => exact absurd rfl notObject
  | boolean truth => cases default <;> simp only [fillValue] <;> split <;> rfl
  | number number => cases default <;> simp only [fillValue] <;> split <;> rfl
  | string text => cases default <;> simp only [fillValue] <;> split <;> rfl
  | array items => cases default <;> simp only [fillValue] <;> split <;> rfl

/-- A `null` is filled with any default. -/
theorem fillValue_null (key : String) (default : Value) :
    (fillValue key default .null).result = default := by
  cases default <;> simp [fillValue, Value.agrees]

/-- Objects are filled key by key, also where they agree. -/
theorem fillValue_object {key : String} {defaults fields : Fields}
    (defaultsOrdered : Value.MembersOrdered defaults)
    (fieldsOrdered : Value.MembersOrdered fields) :
    (fillValue key (.object defaults) (.object fields)).result =
      .object (fillFields defaults fields).result := by
  simp only [fillValue]
  split
  · rename_i agree
    have unchanged := fillFields_of_agree defaultsOrdered fieldsOrdered
      (find?_of_membersAgree defaultsOrdered (by simpa [Value.agrees] using agree))
    rw [unchanged]
  · rfl

/-- An object is not filled from what is no object. -/
theorem fillValue_of_not_isObject {key : String} {default : Value} {fields : Fields}
    (notObject : ¬ default.IsObject) :
    (fillValue key default (.object fields)).result = .object fields := by
  cases default with
  | object defaults => exact absurd rfl notObject
  | null => simp [fillValue, Value.agrees]
  | boolean truth => simp [fillValue, Value.agrees]
  | number number => simp [fillValue, Value.agrees]
  | string text => simp [fillValue, Value.agrees]
  | array items => simp [fillValue, Value.agrees]

/-- What filling leaves at a key, from what is found there on both sides. -/
def fillFound (key : String) : (default changed : Option Value) → Option Value
  | none, changed => changed
  | some default, none => some default
  | some default, some changed => some (fillValue key default changed).result

/-- Filling fields fills what is found at every key, whichever default comes first. -/
theorem find?_fillFields {defaults : Fields} (ordered : Value.MembersOrdered defaults)
    (changed : Fields) (key : String) :
    (fillFields defaults changed).result.find? key =
      fillFound key (defaults.find? key) (changed.find? key) := by
  induction defaults generalizing changed with
  | nil => rfl
  | cons head defaults inductionHypothesis =>
    obtain ⟨first, default⟩ := head
    obtain ⟨above, -, restOrdered⟩ := ordered
    simp only [fillFields]
    rw [inductionHypothesis restOrdered, Fields.find?_insert, Fields.find?_tail above default]
    by_cases same : first = key
    · subst same
      cases found : changed.find? first with
      | none => simp [Fields.find?, fillFound]
      | some value => simp [Fields.find?, fillFound]
    · simp [Fields.find?, same]

namespace Entry

/-- What filling a changed entry from a default entry leaves. -/
def fill : (default changed : Entry) → Entry
  | default, missing => default
  | missing, null => null
  | default, null => default
  | _, leaf value isLeaf => leaf value isLeaf
  | default, object inner => object (default.inner.merge inner)

/-- What is missing is filled with anything. -/
@[simp] theorem fill_missing (default : Entry) : default.fill missing = default := by
  cases default <;> rfl

/-- A `null` is filled with anything that is not missing. -/
theorem fill_null {default : Entry} (present : default ≠ missing) :
    default.fill null = default := by
  cases default with
  | missing => exact absurd rfl present
  | null | leaf _ _ | object _ => rfl

/-- A leaf is not filled. -/
@[simp] theorem fill_leaf (default : Entry) (value : Value) (isLeaf : value.IsLeaf) :
    default.fill (leaf value isLeaf) = leaf value isLeaf := by
  cases default <;> rfl

/-- An object is filled with what is inside the default. -/
@[simp] theorem fill_object (default : Entry) (inner : Document) :
    default.fill (object inner) = object (default.inner.merge inner) := by
  cases default <;> rfl

/-- A missing default fills nothing. -/
@[simp] theorem missing_fill (changed : Entry) : missing.fill changed = changed := by
  cases changed <;> rfl

end Entry

namespace Document

/-- An empty default fills nothing. -/
@[simp] theorem empty_merge (changed : Document) : empty.merge changed = changed :=
  rfl

/-- Merging two documents is filling every entry. -/
theorem entry_merge (default changed : Document) (key : String) :
    (default.merge changed).entry key = (default.entry key).fill (changed.entry key) := by
  apply Entry.ext_value?
  rw [value?_entry]
  change (fillFields default.fields changed.fields).result.find? key = _
  rw [find?_fillFields default.ordered, ← value?_entry default, ← value?_entry changed]
  cases changed.entry key with
  | missing => cases default.entry key <;> rfl
  | null => cases default.entry key <;> simp [Entry.value?, Entry.fill, fillFound, fillValue_null]
  | leaf value isLeaf =>
    cases default.entry key <;>
      simp [Entry.value?, Entry.fill, fillFound, fillValue_of_isLeaf isLeaf]
  | object inner =>
    cases default.entry key with
    | missing => rfl
    | null =>
      simp [Entry.value?, Entry.fill, Entry.inner, fillFound, toValue,
        fillValue_of_not_isObject Value.not_isObject_null]
    | leaf value isLeaf =>
      simp [Entry.value?, Entry.fill, Entry.inner, fillFound, toValue,
        fillValue_of_not_isObject isLeaf.2]
    | object other =>
      simp only [Entry.value?, Entry.fill, Entry.inner, fillFound, toValue,
        fillValue_object other.ordered inner.ordered]
      rfl

end Document

end OperatorKit.Spec
