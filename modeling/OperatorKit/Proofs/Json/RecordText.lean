import Mathlib.Data.List.Nodup
import OperatorKit.Json.Typed
import OperatorKit.Proofs.Json.Written

/-!
# Reading written records

Texts, truth values, sequences and records are taken as they were written. The members of a record
stand in any order among unknown ones, so each field is followed on its own through all members:
the reader waits for the field until its member comes and leaves it alone from then on.
-/

namespace OperatorKit.Json

open OperatorKit.Text

variable {α : Type} {layout : Layout} {rest : Bytes}

section Readers

/-- A written text is taken. -/
theorem expectText_written (content : String) :
    TakesWritten expectText layout (.string content) content := by
  intro text rest _ written
  rw [Value.chars, encode_stringChars] at written
  apply (readFound_quote written (readString_written content)).bind
  intro fewer
  exact ⟨fewer, rfl⟩

/-- A written truth value is taken. -/
theorem expectBoolean_written (truth : Bool) :
    TakesWritten expectBoolean layout (.boolean truth) truth := by
  intro text rest _ written
  have finds : Reads (readFound text) (.boolean truth) rest := by
    cases truth with
    | false => exact readFound_false written
    | true => exact readFound_true written
  apply finds.bind
  intro fewer
  exact ⟨fewer, rfl⟩

/-- A written array is taken as a sequence if each of its items is. -/
theorem expectSequence_written {item : Reader α} {items : List Value} {results : List α}
    (takes : List.Forall₂ (TakesWritten item layout.deeper) items results) :
    TakesWritten (expectSequence item) layout (.array items) results := by
  intro text rest _ written
  rw [encode_array] at written
  apply (readFound_openBracket written).bind
  intro fewer
  have closes : skipBlanks (Utf8.encode (beforeClosing layout items) ++
      Ascii.closeBracket :: rest) = Ascii.closeBracket :: rest :=
    skipBlanks_beforeClosing layout items (by decide)
  exact (readItems_written takes true closes).change fun fewer' => ⟨_, rfl⟩

/-- A written object is taken as a record if what follows its brace is. -/
theorem expectRecord_written {expected : String} {asArray asObject : Reader α}
    {members : List (String × Value)} {result : α}
    (reads : ∀ closing rest, skipBlanks closing = Ascii.closeBrace :: rest → Reads
      (asObject (Utf8.encode (Value.membersChars layout.deeper true members) ++ closing))
      result rest) :
    TakesWritten (expectRecord expected asArray asObject) layout (.object members) result := by
  intro text rest _ written
  rw [encode_object] at written
  apply (readFound_openBrace written).bind
  intro fewer
  have closes : skipBlanks (Utf8.encode (beforeClosing layout members) ++
      Ascii.closeBrace :: rest) = Ascii.closeBrace :: rest :=
    skipBlanks_beforeClosing layout members (by decide)
  exact (reads _ rest closes).change fun fewer' => ⟨_, rfl⟩

end Readers

/-- The members are these fields in some order, among members with names that are not known. -/
def HoldsFields (known : List String) (fields members : List (String × Value)) : Prop :=
  ∃ unknown, members.Perm (fields ++ unknown) ∧ ∀ member ∈ unknown, member.1 ∉ known

/-- Fields hold themselves, without unknown members. -/
theorem holdsFields_self (known : List String) (fields : List (String × Value)) :
    HoldsFields known fields fields :=
  ⟨[], by rw [List.append_nil], List.forall_mem_nil _⟩

/-- What happens to one field of a record while the members are taken: its value is taken with the
member of its name, which comes before the field has a value or not at all. -/
inductive TakesField (read : Reader α) (layout : Layout) (name : String) :
    List (String × Value) → Option α → Option α → Prop where
  | nil (state : Option α) : TakesField read layout name [] state state
  | here {value : Value} {result : α} {members : List (String × Value)} {final : Option α}
      (takes : TakesWritten read layout value result)
      (others : TakesField read layout name members (some result) final) :
      TakesField read layout name ((name, value) :: members) none final
  | later {key : String} {value : Value} {members : List (String × Value)}
      {state final : Option α} (isOther : key ≠ name)
      (others : TakesField read layout name members state final) :
      TakesField read layout name ((key, value) :: members) state final

namespace TakesField

variable {read : Reader α} {name key : String} {value : Value} {known : List String}
  {fields members : List (String × Value)} {state final : Option α}

/-- The member of another name leaves a field as it is. -/
theorem ofOther (takes : TakesField read layout name ((key, value) :: members) state final)
    (isOther : key ≠ name) : TakesField read layout name members state final := by
  cases takes with
  | here => exact absurd rfl isOther
  | later _ others => exact others

/-- The member of its name is taken for a field, which has no value before. -/
theorem ofName (takes : TakesField read layout name ((name, value) :: members) state final) :
    ∃ result, TakesField read layout name members (some result) final ∧
      ∀ rest, EndsNumber rest → Reads (readField name state.isSome read
        (Utf8.encode layout.colon ++ (Utf8.encode (value.chars layout) ++ rest))) result rest := by
  cases takes with
  | here takes others => exact ⟨_, others, fun rest ends => takes.afterColon ends⟩
  | later isOther => exact absurd rfl isOther

/-- Members of other names leave a field as it is. -/
theorem ofAbsent (absent : ∀ member ∈ members, member.1 ≠ name) :
    TakesField read layout name members state state := by
  induction members with
  | nil => exact .nil state
  | cons member members inductionHypothesis =>
    rw [List.forall_mem_cons] at absent
    exact .later absent.1 (inductionHypothesis absent.2)

/-- A field whose name comes once is taken there. -/
theorem ofOnce {front back : List (String × Value)} {result : α}
    (absent : ∀ member ∈ front ++ back, member.1 ≠ name)
    (takes : TakesWritten read layout value result) :
    TakesField read layout name (front ++ (name, value) :: back) none (some result) := by
  induction front with
  | nil => exact .here takes (ofAbsent absent)
  | cons member front inductionHypothesis =>
    rw [List.cons_append, List.forall_mem_cons] at absent
    exact .later absent.1 (inductionHypothesis absent.2)

/-- Neither the other fields nor the unknown members have the name of a field. -/
theorem ne_name {unknown : List (String × Value)} (isKnown : name ∈ known)
    (absent : ∀ field ∈ fields, field.1 ≠ name) (areUnknown : ∀ member ∈ unknown, member.1 ∉ known) :
    ∀ member ∈ fields ++ unknown, member.1 ≠ name := by
  refine List.forall_mem_append.2 ⟨absent, fun member inUnknown => ?_⟩
  rintro rfl
  exact areUnknown member inUnknown isKnown

/-- A field that the members do not hold is left as it is. -/
theorem ofHoldsNot (holds : HoldsFields known fields members) (isKnown : name ∈ known)
    (absent : ∀ field ∈ fields, field.1 ≠ name) :
    TakesField read layout name members state state := by
  obtain ⟨unknown, same, areUnknown⟩ := holds
  have others := ne_name isKnown absent areUnknown
  exact ofAbsent fun member inMembers => others member (same.mem_iff.1 inMembers)

/-- A field that the members hold is taken. -/
theorem ofHolds {result : α} (holds : HoldsFields known fields members) (isKnown : name ∈ known)
    (distinct : (fields.map Prod.fst).Nodup) (isField : (name, value) ∈ fields)
    (takes : TakesWritten read layout value result) :
    TakesField read layout name members none (some result) := by
  obtain ⟨unknown, same, areUnknown⟩ := holds
  have isThere : (name, value) ∈ members :=
    same.mem_iff.2 (List.mem_append_left unknown isField)
  obtain ⟨front, back, rfl⟩ := List.append_of_mem isField
  obtain ⟨before, after, rfl⟩ := List.append_of_mem isThere
  rw [List.map_append, List.map_cons, List.nodup_middle, ← List.map_append,
    List.nodup_cons] at distinct
  have absent : ∀ field ∈ front ++ back, field.1 ≠ name := fun field inFields hasName =>
    distinct.1 (List.mem_map.2 ⟨field, inFields, hasName⟩)
  have others := ne_name isKnown absent areUnknown
  rw [List.append_assoc, List.cons_append] at same
  have sameOthers := List.perm_inv_core same
  rw [← List.append_assoc] at sameOthers
  exact ofOnce (fun member inOthers => others member (sameOthers.mem_iff.1 inOthers)) takes

end TakesField

end OperatorKit.Json
