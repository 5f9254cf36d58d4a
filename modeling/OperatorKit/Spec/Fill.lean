import OperatorKit.Event
import OperatorKit.Spec.Document

/-!
# Filling gaps from a default

A changed document says what it wants; a default fills what it leaves out. Keys that are missing or
`null` take the default, objects are filled key by key, and every other value stays as it is. Each
key that is filled, or whose default object is passed over, leaves a note.
-/

namespace OperatorKit.Spec

open OperatorKit.Json

/-- What filling did at one key. -/
inductive Note where
  | filledMissing (key : String)
  | filledNull (key : String)
  /-- The changed value of this kind stayed although the default is an object. -/
  | keptOverObject (key : String) (kept : Kind)
deriving DecidableEq

/-- Something that was filled, and the notes on it. -/
structure Filled (α : Type) where
  result : α
  notes : List Note

mutual

/-- Fills the value at a key. A value that agrees with its default stays as it is. -/
def fillValue (key : String) : (default changed : Value) → Filled Value
  | .object defaults, changed =>
    if changed.agrees (.object defaults) then ⟨changed, []⟩
    else
      match changed with
      | .null => ⟨.object defaults, [.filledNull key]⟩
      | .object fields =>
        let filled := fillFields defaults fields
        ⟨.object filled.result, filled.notes⟩
      | kept => ⟨kept, [.keptOverObject key kept.kind]⟩
  | default, changed =>
    if changed.agrees default then ⟨changed, []⟩
    else
      match changed with
      | .null => ⟨default, [.filledNull key]⟩
      | kept => ⟨kept, []⟩

/-- Fills fields, one default key after the other. -/
def fillFields : (defaults changed : Fields) → Filled Fields
  | [], changed => ⟨changed, []⟩
  | (key, default) :: defaults, changed =>
    let here : Filled Value := match changed.find? key with
      | none => ⟨default, [.filledMissing key]⟩
      | some value => fillValue key default value
    let more := fillFields defaults (changed.insert key here.result)
    ⟨more.result, here.notes ++ more.notes⟩

end

/-- The value found in ordered fields is ordered. -/
theorem ordered_of_find? {key : String} {value : Value} {fields : Fields}
    (ordered : Value.MembersOrdered fields) (found : fields.find? key = some value) :
    value.Ordered := by
  induction fields with
  | nil => simp [Fields.find?] at found
  | cons head fields inductionHypothesis =>
    obtain ⟨other, old⟩ := head
    simp only [Value.MembersOrdered] at ordered
    simp only [Fields.find?] at found
    split at found
    · cases found
      exact ordered.2.1
    · exact inductionHypothesis ordered.2.2 found

mutual

/-- Filling an ordered value from an ordered default leaves it ordered. -/
theorem fillValue_ordered (key : String) : (default changed : Value) →
    default.Ordered → changed.Ordered → (fillValue key default changed).result.Ordered
  | .object defaults, changed, defaultOrdered, changedOrdered => by
    simp only [fillValue]
    split
    · exact changedOrdered
    · split
      · exact defaultOrdered
      · simp only [Value.Ordered] at defaultOrdered changedOrdered ⊢
        exact fillFields_ordered defaults _ defaultOrdered changedOrdered
      · exact changedOrdered
  | .null, changed, defaultOrdered, changedOrdered
  | .boolean _, changed, defaultOrdered, changedOrdered
  | .number _, changed, defaultOrdered, changedOrdered
  | .string _, changed, defaultOrdered, changedOrdered
  | .array _, changed, defaultOrdered, changedOrdered => by
    simp only [fillValue]
    split
    · exact changedOrdered
    · split
      · exact defaultOrdered
      · exact changedOrdered

/-- Filling ordered fields from ordered defaults leaves them ordered. -/
theorem fillFields_ordered : (defaults changed : Fields) →
    Value.MembersOrdered defaults → Value.MembersOrdered changed →
      Value.MembersOrdered (fillFields defaults changed).result
  | [], _, _, changedOrdered => by simpa [fillFields] using changedOrdered
  | (key, default) :: defaults, changed, defaultsOrdered, changedOrdered => by
    simp only [Value.MembersOrdered] at defaultsOrdered
    simp only [fillFields]
    refine fillFields_ordered defaults _ defaultsOrdered.2.2 ?_
    refine Fields.insert_ordered changedOrdered ?_
    split
    · exact defaultsOrdered.2.1
    · rename_i value found
      exact fillValue_ordered key default value defaultsOrdered.2.1
        (ordered_of_find? changedOrdered found)

end

/-- A note as an event. -/
def Note.event : Note → Event
  | filledMissing key => ⟨.trace, "Filling missing key from default", [("key", key)]⟩
  | filledNull key => ⟨.trace, "Filling null key from default", [("key", key)]⟩
  | keptOverObject key kept =>
    ⟨.trace, "Keeping changed value over default object", [("key", key), ("changed", kept.name)]⟩

namespace Document

/-- The changed document with its gaps filled from the default. -/
def fill (default changed : Document) : Filled Document :=
  let filled := fillFields default.fields changed.fields
  ⟨⟨filled.result, fillFields_ordered _ _ default.ordered changed.ordered⟩, filled.notes⟩

/-- The changed document with its gaps filled, without the notes. -/
def merge (default changed : Document) : Document :=
  (fill default changed).result

/-- The events of a merge: the notes in order, then the numbers of top-level keys. -/
def mergeEvents (default changed : Document) : List Event :=
  let filled := fill default changed
  filled.notes.map Note.event ++
    [⟨.debug, "Merged spec",
      [("default_keys", toString default.size), ("changed_keys", toString changed.size),
        ("merged_keys", toString filled.result.size)]⟩]

end Document

end OperatorKit.Spec
