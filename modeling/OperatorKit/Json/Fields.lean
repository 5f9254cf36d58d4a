import OperatorKit.Json.Value

/-!
# Fields

The members of an object as a table. Insertion puts a new key before the first larger one, so it
keeps ascending keys ascending and each key once. Keys are ordered by their code points, which is
the order of their UTF-8 bytes.
-/

namespace OperatorKit.Json

/-- Keys with their values. -/
abbrev Fields := List (String × Value)

namespace Fields

/-- The value at a key. -/
def find? (key : String) : Fields → Option Value
  | [] => none
  | (other, value) :: fields => if other = key then some value else find? key fields

/-- Puts a value at a key, in the place of the value that is there. -/
def insert (key : String) (value : Value) : Fields → Fields
  | [] => [(key, value)]
  | (other, old) :: fields =>
    if key < other then (key, value) :: (other, old) :: fields
    else if key = other then (key, value) :: fields
    else (other, old) :: insert key value fields

/-- Every key of the fields is larger than `least`. -/
def AllAbove (least : String) (fields : Fields) : Prop :=
  ∀ field ∈ fields, least < field.1

/-- A field after an insertion is the inserted one or was there before. -/
theorem mem_insert {key : String} {value : Value} {fields : Fields} {field : String × Value}
    (member : field ∈ insert key value fields) : field = (key, value) ∨ field ∈ fields := by
  induction fields with
  | nil => simpa [insert] using member
  | cons head fields inductionHypothesis =>
    obtain ⟨other, old⟩ := head
    simp only [insert] at member
    split at member
    · simpa using member
    · split at member
      · rcases List.mem_cons.1 member with same | later
        · exact Or.inl same
        · exact Or.inr (List.mem_cons_of_mem _ later)
      · rcases List.mem_cons.1 member with same | later
        · exact Or.inr (by simp [same])
        · rcases inductionHypothesis later with same | earlier
          · exact Or.inl same
          · exact Or.inr (List.mem_cons_of_mem _ earlier)

/-- Inserting a larger key leaves a key below all others. -/
theorem AllAbove.insert {least key : String} {value : Value} {fields : Fields}
    (above : AllAbove least fields) (larger : least < key) :
    AllAbove least (fields.insert key value) := by
  intro field member
  rcases mem_insert member with same | earlier
  · subst same
    exact larger
  · exact above field earlier

end Fields

end OperatorKit.Json
