import OperatorKit.Json.Ordered
import OperatorKit.Proofs.Json.Levels

/-!
# Putting members in order

What is in order already stays as it is, and no order makes a value deeper.
-/

namespace OperatorKit.Json

/-- A key larger than all others goes to the end. -/
theorem Fields.insert_of_above {key : String} {value : Value} {fields : Fields}
    (above : ∀ field ∈ fields, field.1 < key) :
    fields.insert key value = fields ++ [(key, value)] := by
  induction fields with
  | nil => rfl
  | cons head fields inductionHypothesis =>
    obtain ⟨other, old⟩ := head
    rw [List.forall_mem_cons] at above
    have different : key ≠ other := fun same => String.lt_irrefl other (same ▸ above.1)
    rw [insert, if_neg (String.lt_asymm above.1), if_neg different,
      inductionHypothesis above.2]
    rfl

namespace Value

mutual

/-- An ordered value is in order. -/
theorem sorted_of_ordered : (value : Value) → value.Ordered → value.sorted = value
  | null, _ | boolean _, _ | number _, _ | string _, _ => by simp [sorted]
  | array items, ordered => by
    rw [sorted, itemsSorted_of_ordered items ordered]
  | object members, ordered => by
    have inOrder := membersSorted_of_ordered members [] ordered (List.forall_mem_nil _)
    rw [sorted, inOrder, List.nil_append]

/-- Ordered items are in order. -/
theorem itemsSorted_of_ordered : (items : List Value) → ItemsOrdered items →
    itemsSorted items = items
  | [], _ => rfl
  | item :: items, ordered => by
    rw [itemsSorted, sorted_of_ordered item ordered.1, itemsSorted_of_ordered items ordered.2]

/-- Ordered members go to the end one after the other. -/
theorem membersSorted_of_ordered : (members : List (String × Value)) → (fields : Fields) →
    MembersOrdered members →
      (∀ field ∈ fields, ∀ member ∈ members, field.1 < member.1) →
        membersSorted fields members = fields ++ members
  | [], fields, _, _ => (List.append_nil fields).symm
  | (key, value) :: members, fields, ordered, below => by
    obtain ⟨above, valueOrdered, othersOrdered⟩ := ordered
    have keyAbove : ∀ field ∈ fields, field.1 < key :=
      fun field inFields => below field inFields _ List.mem_cons_self
    rw [membersSorted, sorted_of_ordered value valueOrdered, Fields.insert_of_above keyAbove,
      membersSorted_of_ordered members _ othersOrdered ?_, List.append_assoc]
    · rfl
    · intro field inFields member inMembers
      rcases List.mem_append.1 inFields with earlier | last
      · exact below field earlier member (List.mem_cons_of_mem _ inMembers)
      · rw [List.mem_singleton.1 last]
        exact above member inMembers

end

/-- An insertion makes members no deeper than what is inserted. -/
theorem membersLevels_insert {key : String} {value : Value} {fields : Fields} {limit : Nat}
    (fieldsFit : membersLevels fields ≤ limit) (valueFits : value.levels ≤ limit) :
    membersLevels (fields.insert key value) ≤ limit := by
  rw [membersLevels_le_iff] at fieldsFit ⊢
  intro field inFields
  rcases Fields.mem_insert inFields with rfl | earlier
  · exact valueFits
  · exact fieldsFit field earlier

mutual

/-- Order makes a value no deeper. -/
theorem levels_sorted : (value : Value) → (limit : Nat) → value.levels ≤ limit →
    value.sorted.levels ≤ limit
  | null, _, fits | boolean _, _, fits | number _, _, fits | string _, _, fits => by
    simpa only [sorted] using fits
  | array items, 0, fits => absurd fits (Nat.not_succ_le_zero _)
  | array items, limit + 1, fits => by
    rw [sorted]
    exact Nat.succ_le_succ (itemsLevels_sorted items limit (Nat.le_of_succ_le_succ fits))
  | object members, 0, fits => absurd fits (Nat.not_succ_le_zero _)
  | object members, limit + 1, fits => by
    rw [sorted]
    exact Nat.succ_le_succ
      (membersLevels_sorted members [] limit (Nat.zero_le _) (Nat.le_of_succ_le_succ fits))

/-- Order makes items no deeper. -/
theorem itemsLevels_sorted : (items : List Value) → (limit : Nat) → itemsLevels items ≤ limit →
    itemsLevels (itemsSorted items) ≤ limit
  | [], _, fits => fits
  | item :: items, limit, fits => by
    have both := Nat.max_le.1 fits
    exact Nat.max_le.2
      ⟨levels_sorted item limit both.1, itemsLevels_sorted items limit both.2⟩

/-- Members that are put into fields make them no deeper than the members were. -/
theorem membersLevels_sorted : (members : List (String × Value)) → (fields : Fields) →
    (limit : Nat) → membersLevels fields ≤ limit → membersLevels members ≤ limit →
      membersLevels (membersSorted fields members) ≤ limit
  | [], _, _, fieldsFit, _ => fieldsFit
  | (key, value) :: members, fields, limit, fieldsFit, fits => by
    have both := Nat.max_le.1 fits
    rw [membersSorted]
    exact membersLevels_sorted members _ limit
      (membersLevels_insert fieldsFit (levels_sorted value limit both.1)) both.2

end

end Value

end OperatorKit.Json
