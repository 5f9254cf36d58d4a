import OperatorKit.Proofs.Json.Lookup
import OperatorKit.Proofs.Json.RoundTrip
import OperatorKit.Proofs.Json.Sorting
import OperatorKit.Spec.Fill

/-!
# Documents that survive being written

A document whose numbers are integers and that is not nested too deeply is written and read back as
it is. Merging keeps both limits, so every document built from such documents survives.
-/

namespace OperatorKit.Spec

open OperatorKit.Text OperatorKit.Json

/-- A value with integers only, nested at most this deep. -/
def Restorable (limit : Nat) (value : Value) : Prop :=
  value.IntegersOnly ∧ value.levels ≤ limit

/-- Members have integers only where all their values have. -/
theorem membersIntegersOnly_iff {members : List (String × Value)} :
    Value.MembersIntegersOnly members ↔ ∀ member ∈ members, member.2.IntegersOnly := by
  induction members with
  | nil => simp [Value.MembersIntegersOnly]
  | cons member members inductionHypothesis =>
    rw [Value.MembersIntegersOnly, inductionHypothesis, List.forall_mem_cons]

/-- No object is allowed where nothing may be nested. -/
theorem not_restorable_object {members : List (String × Value)} :
    ¬Restorable 0 (.object members) :=
  fun restorable => Nat.not_succ_le_zero _ restorable.2

/-- An object is one level deeper than its members. -/
theorem restorable_object {members : List (String × Value)} {limit : Nat} :
    Restorable (limit + 1) (.object members) ↔ ∀ member ∈ members, Restorable limit member.2 := by
  rw [Restorable, Value.IntegersOnly, Value.levels, Nat.add_le_add_iff_right,
    membersIntegersOnly_iff, Value.membersLevels_le_iff]
  constructor
  · rintro ⟨integersOnly, fits⟩ member inMembers
    exact ⟨integersOnly member inMembers, fits member inMembers⟩
  · intro restorable
    exact ⟨fun member inMembers => (restorable member inMembers).1,
      fun member inMembers => (restorable member inMembers).2⟩

/-- The value found at a key is one of the values of the members. -/
theorem restorable_of_find? {key : String} {value : Value} {fields : Fields} {limit : Nat}
    (restorable : ∀ member ∈ fields, Restorable limit member.2)
    (found : fields.find? key = some value) : Restorable limit value :=
  restorable _ (Fields.mem_of_find? found)

mutual

/-- Filling keeps the limits that a value and its default have in common. -/
theorem restorable_fillValue (key : String) : (default changed : Value) → (limit : Nat) →
    Restorable limit default → Restorable limit changed →
      Restorable limit (fillValue key default changed).result
  | .object defaults, changed, limit, defaultRestorable, changedRestorable => by
    simp only [fillValue]
    split
    · exact changedRestorable
    · split
      · exact defaultRestorable
      · cases limit with
        | zero => exact absurd defaultRestorable not_restorable_object
        | succ limit =>
          rw [restorable_object] at defaultRestorable changedRestorable ⊢
          exact restorable_fillFields defaults _ limit defaultRestorable changedRestorable
      · exact changedRestorable
  | .null, changed, limit, defaultRestorable, changedRestorable
  | .boolean _, changed, limit, defaultRestorable, changedRestorable
  | .number _, changed, limit, defaultRestorable, changedRestorable
  | .string _, changed, limit, defaultRestorable, changedRestorable
  | .array _, changed, limit, defaultRestorable, changedRestorable => by
    simp only [fillValue]
    split
    · exact changedRestorable
    · split
      · exact defaultRestorable
      · exact changedRestorable

/-- Filling keeps the limits that fields and their defaults have in common. -/
theorem restorable_fillFields : (defaults changed : Fields) → (limit : Nat) →
    (∀ member ∈ defaults, Restorable limit member.2) →
      (∀ member ∈ changed, Restorable limit member.2) →
        ∀ member ∈ (fillFields defaults changed).result, Restorable limit member.2
  | [], _, _, _, changedRestorable => by simpa only [fillFields] using changedRestorable
  | (key, default) :: defaults, changed, limit, defaultsRestorable, changedRestorable => by
    rw [List.forall_mem_cons] at defaultsRestorable
    simp only [fillFields]
    refine restorable_fillFields defaults _ limit defaultsRestorable.2 ?_
    intro member inInserted
    rcases Fields.mem_insert inInserted with rfl | earlier
    · split
      · exact defaultsRestorable.1
      · rename_i value found
        exact restorable_fillValue key default value limit defaultsRestorable.1
          (restorable_of_find? changedRestorable found)
    · exact changedRestorable member earlier

end

namespace Document

/-- A document that is within the limits of the reader. -/
def Survives (document : Document) : Prop :=
  Restorable levelLimit document.toValue

/-- Merged documents stay within the limits. -/
theorem Survives.merge {default changed : Document} (defaultSurvives : default.Survives)
    (changedSurvives : changed.Survives) : (default.merge changed).Survives :=
  restorable_object.2 (restorable_fillFields default.fields changed.fields _
    (restorable_object.1 defaultSurvives) (restorable_object.1 changedSurvives))

/-- The empty document is within the limits. -/
theorem survives_empty : empty.Survives :=
  restorable_object.2 (List.forall_mem_nil _)

/-- A document that was read is nested no more deeply than the reader allows. -/
theorem levels_of_decode {text : Bytes} {document : Document}
    (decoded : decode text = .ok document) : document.toValue.levels ≤ levelLimit := by
  unfold decode at decoded
  split at decoded
  · rename_i value read
    have fits := Value.levels_of_read read
    cases value with
    | null =>
      cases decoded
      decide
    | object members =>
      have sorted := Value.levels_sorted (.object members) levelLimit fits
      cases decoded
      rwa [Value.sorted] at sorted
    | boolean truth | number amount | string content | array items => cases decoded
  · cases decoded

/-- A document that survives is read back from its bytes, in every layout and with blanks after
it. -/
theorem decode_written {document : Document} (survives : document.Survives) (layout : Layout)
    {blanks : Bytes} (areBlank : ∀ byte ∈ blanks, Ascii.isBlank byte = true) :
    decode (Utf8.encode (document.toValue.chars layout) ++ blanks) = .ok document := by
  have read := Value.read_written layout survives.1 survives.2 areBlank
  have inOrder := Value.membersSorted_of_ordered document.fields [] document.ordered
    (List.forall_mem_nil _)
  have same : ofMembers document.fields = document := ext inOrder
  rw [decode, read]
  exact congrArg Except.ok same

/-- A document that survives is read back from its bytes on one line. -/
theorem decode_compactBytes {document : Document} (survives : document.Survives) :
    decode document.compactBytes = .ok document := by
  have read := decode_written survives .compact (List.forall_mem_nil _)
  rwa [List.append_nil] at read

end Document

end OperatorKit.Spec
