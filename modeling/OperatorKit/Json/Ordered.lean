import OperatorKit.Json.Fields

/-!
# Values in key order

A value is ordered if every object in it has each key once and its keys ascending. Every value can
be put in order; of a repeated key the last value stays. Two texts that differ only in the order of
members thus give one ordered value.
-/

namespace OperatorKit.Json

namespace Value

mutual

/-- A value in which every object has each key once and its keys ascending. -/
def Ordered : Value → Prop
  | null | boolean _ | number _ | string _ => True
  | array items => ItemsOrdered items
  | object members => MembersOrdered members

/-- A list of ordered values. -/
def ItemsOrdered : List Value → Prop
  | [] => True
  | item :: items => Ordered item ∧ ItemsOrdered items

/-- Members with ascending keys and ordered values. -/
def MembersOrdered : List (String × Value) → Prop
  | [] => True
  | (key, value) :: members => Fields.AllAbove key members ∧ Ordered value ∧ MembersOrdered members

end

mutual

/-- The value with the members of every object put in key order. -/
def sorted : Value → Value
  | null => null
  | boolean truth => boolean truth
  | number amount => number amount
  | string text => string text
  | array items => array (itemsSorted items)
  | object members => object (membersSorted [] members)

/-- A list of values, each put in order. -/
def itemsSorted : List Value → List Value
  | [] => []
  | item :: items => sorted item :: itemsSorted items

/-- Fields with more members put in, one after the other. -/
def membersSorted (fields : Fields) : List (String × Value) → Fields
  | [] => fields
  | (key, value) :: members => membersSorted (fields.insert key (sorted value)) members

end

end Value

/-- Inserting an ordered value keeps the fields in order. -/
theorem Fields.insert_ordered {key : String} {value : Value} {fields : Fields}
    (ordered : Value.MembersOrdered fields) (valueOrdered : value.Ordered) :
    Value.MembersOrdered (fields.insert key value) := by
  induction fields with
  | nil => simp [insert, Value.MembersOrdered, valueOrdered, AllAbove]
  | cons head fields inductionHypothesis =>
    obtain ⟨other, old⟩ := head
    have shape := ordered
    simp only [Value.MembersOrdered] at shape
    obtain ⟨above, oldOrdered, restOrdered⟩ := shape
    simp only [insert]
    split
    · rename_i smaller
      refine ⟨?_, valueOrdered, ordered⟩
      intro field member
      rcases List.mem_cons.1 member with same | later
      · simpa [same] using smaller
      · exact String.lt_trans smaller (above field later)
    · split
      · rename_i same
        subst same
        exact ⟨above, valueOrdered, restOrdered⟩
      · rename_i notSmaller different
        refine ⟨above.insert ?_, oldOrdered, inductionHypothesis restOrdered⟩
        exact Decidable.byContradiction fun notLarger =>
          different (String.le_antisymm (String.not_lt.1 notLarger) (String.not_lt.1 notSmaller))

namespace Value

mutual

/-- Sorting puts a value in order. -/
theorem sorted_ordered : (value : Value) → value.sorted.Ordered
  | null | boolean _ | number _ | string _ => by simp [sorted, Ordered]
  | array items => by
    simpa [sorted, Ordered] using itemsSorted_ordered items
  | object members => by
    simpa [sorted, Ordered] using
      membersSorted_ordered members [] (by simp [MembersOrdered])

/-- Sorting puts each of a list of values in order. -/
theorem itemsSorted_ordered : (items : List Value) → ItemsOrdered (itemsSorted items)
  | [] => by simp [itemsSorted, ItemsOrdered]
  | item :: items => by
    simpa [itemsSorted, ItemsOrdered] using
      ⟨sorted_ordered item, itemsSorted_ordered items⟩

/-- Putting members into ordered fields leaves them in order. -/
theorem membersSorted_ordered :
    (members : List (String × Value)) → (fields : Fields) → MembersOrdered fields →
      MembersOrdered (membersSorted fields members)
  | [], _, ordered => by simpa [membersSorted] using ordered
  | (key, value) :: members, fields, ordered => by
    simpa [membersSorted] using
      membersSorted_ordered members (fields.insert key value.sorted)
        (Fields.insert_ordered ordered (sorted_ordered value))

end

end Value

end OperatorKit.Json
