import OperatorKit.Json.Ordered
import OperatorKit.Json.Path

/-!
# Looking keys up in fields

An insertion changes what is found at its own key and at no other. Ordered fields are determined by
what is found in them, so two tables are shown to be equal by looking up one key. A path is a row of
look-ups, one inside the other.
-/

namespace OperatorKit.Json.Fields

/-- `insert` decides what is found at its key and leaves every other key alone. -/
theorem find?_insert (key other : String) (value : Value) (fields : Fields) :
    (fields.insert key value).find? other =
      if key = other then some value else fields.find? other := by
  induction fields with
  | nil => simp [insert, find?]
  | cons head fields inductionHypothesis =>
    obtain ⟨first, old⟩ := head
    simp only [insert]
    split
    · rfl
    · split
      · rename_i same
        subst same
        by_cases equal : key = other
        · simp [find?, equal]
        · simp [find?, equal]
      · rename_i different
        by_cases equal : first = other
        · subst equal
          simp [find?, different]
        · simp [find?, equal, inductionHypothesis]

/-- What is found was a field. -/
theorem mem_of_find? {key : String} {value : Value} {fields : Fields}
    (found : fields.find? key = some value) : (key, value) ∈ fields := by
  induction fields with
  | nil => cases found
  | cons head fields inductionHypothesis =>
    obtain ⟨first, old⟩ := head
    simp only [find?] at found
    split at found
    · rename_i same
      subst same
      cases found
      exact List.mem_cons_self
    · exact List.mem_cons_of_mem _ (inductionHypothesis found)

/-- A value found in fields is smaller than the fields, as recursion on nested objects needs. -/
theorem sizeOf_lt_of_find? {key : String} {value : Value} {fields : Fields}
    (found : fields.find? key = some value) : sizeOf value < sizeOf fields := by
  have smaller := List.sizeOf_lt_of_mem (mem_of_find? found)
  simp only [Prod.mk.sizeOf_spec] at smaller
  omega

/-- A key below all others is not found. -/
theorem AllAbove.find?_eq_none {key : String} {fields : Fields} (above : AllAbove key fields) :
    fields.find? key = none := by
  cases found : fields.find? key with
  | none => rfl
  | some value => exact absurd (above _ (mem_of_find? found)) (String.lt_irrefl key)

/-- A key below the first one is below all keys of ordered fields. -/
theorem AllAbove.cons {key first : String} {value : Value} {fields : Fields}
    (above : AllAbove first fields) (smaller : key < first) :
    AllAbove key ((first, value) :: fields) := by
  intro field member
  rcases List.mem_cons.1 member with same | later
  · rw [same]
    exact smaller
  · exact String.lt_trans smaller (above field later)

/-- Behind the first field the same keys are found as in all fields, except for the first key. -/
theorem find?_tail {key : String} {fields : Fields} (above : AllAbove key fields) (value : Value)
    (other : String) :
    fields.find? other =
      if key = other then none else find? other ((key, value) :: fields) := by
  by_cases equal : key = other
  · subst equal
    simp [above.find?_eq_none]
  · simp [find?, equal]

/-- A field of ordered fields is what is found at its key. -/
theorem find?_of_mem {key : String} {value : Value} {fields : Fields}
    (ordered : Value.MembersOrdered fields) (member : (key, value) ∈ fields) :
    fields.find? key = some value := by
  induction fields with
  | nil => cases member
  | cons head fields inductionHypothesis =>
    obtain ⟨first, firstValue⟩ := head
    obtain ⟨above, -, restOrdered⟩ := ordered
    rcases List.mem_cons.1 member with same | later
    · cases same
      simp [find?]
    · have different : first ≠ key := fun equal =>
        String.lt_irrefl key (equal ▸ above _ later)
      simpa [find?, different] using inductionHypothesis restOrdered later

/-- What holds of everything that is found in ordered fields holds of the first field and of
everything that is found behind it. -/
theorem forall_find?_cons {key : String} {fields : Fields} {holds : String → Value → Prop}
    (above : AllAbove key fields) (value : Value) :
    (∀ other found, find? other ((key, value) :: fields) = some found → holds other found) ↔
      holds key value ∧ ∀ other found, fields.find? other = some found → holds other found := by
  constructor
  · intro all
    refine ⟨all key value (by simp [find?]), fun other found foundBehind => all other found ?_⟩
    rw [find?_tail above value] at foundBehind
    split at foundBehind
    · cases foundBehind
    · exact foundBehind
  · rintro ⟨first, behind⟩ other found foundThere
    by_cases same : key = other
    · subst same
      obtain rfl : value = found := by simpa [find?] using foundThere
      exact first
    · apply behind
      rw [find?_tail above value, if_neg same, foundThere]

/-- Ordered fields in which every key is found alike are the same fields. -/
theorem ext_find? {left right : Fields} (leftOrdered : Value.MembersOrdered left)
    (rightOrdered : Value.MembersOrdered right)
    (alike : ∀ key, left.find? key = right.find? key) : left = right := by
  induction left generalizing right with
  | nil =>
    cases right with
    | nil => rfl
    | cons head right =>
      have atHead := alike head.1
      simp [find?] at atHead
  | cons leftHead left inductionHypothesis =>
    obtain ⟨leftKey, leftValue⟩ := leftHead
    obtain ⟨leftAbove, -, leftRest⟩ := leftOrdered
    cases right with
    | nil =>
      have atHead := alike leftKey
      simp [find?] at atHead
    | cons rightHead right =>
      obtain ⟨rightKey, rightValue⟩ := rightHead
      obtain ⟨rightAbove, -, rightRest⟩ := rightOrdered
      -- A first key below the other first key would be found on one side only.
      have notBelow : ¬ leftKey < rightKey := fun smaller => by
        have atHead := alike leftKey
        rw [(rightAbove.cons smaller).find?_eq_none] at atHead
        simp [find?] at atHead
      have notAbove : ¬ rightKey < leftKey := fun smaller => by
        have atHead := alike rightKey
        rw [(leftAbove.cons smaller).find?_eq_none] at atHead
        simp [find?] at atHead
      have sameKey : leftKey = rightKey :=
        String.le_antisymm (String.not_lt.1 notAbove) (String.not_lt.1 notBelow)
      subst sameKey
      have sameValue : leftValue = rightValue := by simpa [find?] using alike leftKey
      subst sameValue
      have sameRest : left = right := by
        apply inductionHypothesis leftRest rightRest
        intro key
        rw [find?_tail leftAbove leftValue, find?_tail rightAbove leftValue, alike key]
      rw [sameRest]

/-- Putting back what is there changes nothing. -/
theorem insert_of_find? {key : String} {value : Value} {fields : Fields}
    (ordered : Value.MembersOrdered fields) (valueOrdered : value.Ordered)
    (found : fields.find? key = some value) : fields.insert key value = fields := by
  apply ext_find? (insert_ordered ordered valueOrdered) ordered
  intro other
  rw [find?_insert]
  split
  · rename_i same
    rw [← same, found]
  · rfl

end OperatorKit.Json.Fields

namespace OperatorKit.Json.Value

/-- A path that goes on below another path is resolved inside the value there. -/
theorem at?_append (front back : Path) (value : Value) :
    value.at? (front ++ back) = (value.at? front).bind (at? back) := by
  induction front generalizing value with
  | nil => rfl
  | cons key front inductionHypothesis =>
    cases value with
    | object fields =>
      simp only [List.cons_append, at?]
      cases Fields.find? key fields with
      | none => rfl
      | some found => exact inductionHypothesis found
    | null | boolean _ | number _ | string _ | array _ => rfl

/-- A `null` is no object. -/
theorem not_isObject_null : ¬ null.IsObject :=
  nofun

/-- Nothing lies below a value that is no object. -/
theorem at?_of_not_isObject {value : Value} {path : Path} (notObject : ¬ value.IsObject)
    (below : path ≠ []) : value.at? path = none := by
  cases path with
  | nil => exact absurd rfl below
  | cons key path =>
    cases value with
    | object fields => exact absurd rfl notObject
    | null | boolean _ | number _ | string _ | array _ => rfl

end OperatorKit.Json.Value
