import OperatorKit.Proofs.Spec.Overlay
import OperatorKit.Proofs.Spec.Restorable
import OperatorKit.Spec.Merge

/-!
# Merging texts as merging documents

A side that was not supplied, or that is no document, merges like an empty document. The strict
merge either gives what the lenient one gives or stops at a side that was supplied and is no
document.
-/

namespace OperatorKit.Spec

open OperatorKit.Text OperatorKit.Json

namespace Document

/-- Nothing is changed by a changed document that is empty. -/
@[simp] theorem merge_empty (default : Document) : default.merge empty = default := by
  apply ext_entry
  intro key
  rw [entry_merge, entry_empty, Entry.fill_missing]

/-- The document that a text holds, or an empty one where it holds none. -/
def decodeOrEmpty (text : Bytes) : Document :=
  match decode text with
  | .ok document => document
  | .error _ => empty

/-- A text that holds a document stands for that document. -/
theorem decodeOrEmpty_of_ok {text : Bytes} {document : Document}
    (decoded : decode text = .ok document) : decodeOrEmpty text = document := by
  rw [decodeOrEmpty, decoded]

/-- A text that holds no document stands for an empty one. -/
theorem decodeOrEmpty_of_error {text : Bytes} {fault : DecodeFault}
    (failed : decode text = .error fault) : decodeOrEmpty text = empty := by
  rw [decodeOrEmpty, failed]

/-- The document that a text stands for survives being written, if it has integers only. -/
theorem survives_decodeOrEmpty {text : Bytes}
    (integersOnly : ∀ document, decode text = .ok document → document.toValue.IntegersOnly) :
    (decodeOrEmpty text).Survives := by
  cases decoded : decode text with
  | ok document =>
    rw [decodeOrEmpty_of_ok decoded]
    exact ⟨integersOnly document decoded, levels_of_decode decoded⟩
  | error fault =>
    rw [decodeOrEmpty_of_error decoded]
    exact survives_empty

/-- An empty text holds no document. -/
theorem decode_nil : ∃ fault, decode [] = .error fault :=
  ⟨_, rfl⟩

end Document

/-- A side that was not supplied merges like an empty document. -/
theorem combine_eq_merge (default changed : Option Document) :
    combine default changed = (default.getD .empty).merge (changed.getD .empty) := by
  cases default with
  | none =>
    cases changed with
    | none => exact (Document.empty_merge .empty).symm
    | some changed => exact (Document.empty_merge changed).symm
  | some default =>
    cases changed with
    | none => exact (Document.merge_empty default).symm
    | some changed => rfl

/-- A side that holds a document is read as that document. -/
theorem readSide_of_ok {text : Bytes} {document : Document}
    (decoded : Document.decode text = .ok document) (role : Role) :
    readSide role text = .ok (some document) := by
  cases text with
  | nil =>
    obtain ⟨fault, failed⟩ := Document.decode_nil
    rw [failed] at decoded
    cases decoded
  | cons first more => rw [readSide, if_neg (by simp), decoded]

/-- A side is refused where it was supplied and is no document, for the reason of the decoder. -/
theorem readSide_eq_error_iff {role : Role} {text : Bytes} {fault : InputFault} :
    readSide role text = .error fault ↔
      text ≠ [] ∧ ∃ cause, Document.decode text = .error cause ∧ fault = ⟨role, cause⟩ := by
  cases text with
  | nil => simp [readSide]
  | cons first more =>
    rw [readSide, if_neg (by simp)]
    cases Document.decode (first :: more) with
    | ok document => simp
    | error cause => simp [eq_comm]

/-- A side is refused where it was supplied and is no document. -/
theorem readSide_fails_iff {role : Role} {text : Bytes} :
    (∃ fault, readSide role text = .error fault) ↔
      text ≠ [] ∧ ∃ cause, Document.decode text = .error cause := by
  constructor
  · rintro ⟨fault, refused⟩
    obtain ⟨supplied, cause, failed, -⟩ := readSide_eq_error_iff.1 refused
    exact ⟨supplied, cause, failed⟩
  · rintro ⟨supplied, cause, failed⟩
    exact ⟨⟨role, cause⟩, readSide_eq_error_iff.2 ⟨supplied, cause, failed, rfl⟩⟩

/-- A side that is read leniently is the document that its text stands for. -/
theorem orEmpty_readSide (role : Role) (text : Bytes) :
    (orEmpty (readSide role text)).1.getD .empty = Document.decodeOrEmpty text := by
  cases text with
  | nil =>
    obtain ⟨fault, failed⟩ := Document.decode_nil
    rw [Document.decodeOrEmpty_of_error failed]
    rfl
  | cons first more =>
    rw [readSide, if_neg (by simp), Document.decodeOrEmpty]
    cases Document.decode (first :: more) with
    | ok document => rfl
    | error cause => rfl

/-- A lenient merge merges the documents that its texts stand for. -/
theorem document_mergeLenient (default changed : Bytes) :
    (mergeLenient default changed).document =
      (Document.decodeOrEmpty default).merge (Document.decodeOrEmpty changed) := by
  have merged : (mergeLenient default changed).document =
      combine (orEmpty (readSide .default default)).1 (orEmpty (readSide .changed changed)).1 := rfl
  rw [merged, combine_eq_merge, orEmpty_readSide, orEmpty_readSide]

/-- What the strict merge gives is what the lenient merge gives. -/
theorem eq_mergeLenient_of_mergeStrict {default changed : Bytes} {merged : Document}
    (strict : mergeStrict default changed = .ok merged) :
    merged = (mergeLenient default changed).document := by
  simp only [mergeStrict, bind_eq_ok] at strict
  obtain ⟨defaultSide, readDefault, changedSide, readChanged, combined⟩ := strict
  rw [mergeLenient, readDefault, readChanged]
  exact (Except.ok.inj combined).symm

/-- The strict merge stops at the first side that is refused. -/
theorem mergeStrict_eq_error_iff {default changed : Bytes} {fault : InputFault} :
    mergeStrict default changed = .error fault ↔
      readSide .default default = .error fault ∨
        (∃ side, readSide .default default = .ok side) ∧
          readSide .changed changed = .error fault := by
  simp [mergeStrict, bind_eq_error]

/-- The strict merge fails where a side is refused. -/
theorem mergeStrict_fails_iff {default changed : Bytes} :
    (∃ fault, mergeStrict default changed = .error fault) ↔
      (∃ fault, readSide .default default = .error fault) ∨
        ∃ fault, readSide .changed changed = .error fault := by
  simp only [mergeStrict_eq_error_iff]
  constructor
  · rintro ⟨fault, refused | ⟨-, refused⟩⟩
    · exact Or.inl ⟨fault, refused⟩
    · exact Or.inr ⟨fault, refused⟩
  · rintro (⟨fault, refused⟩ | ⟨fault, refused⟩)
    · exact ⟨fault, Or.inl refused⟩
    · cases readDefault : readSide .default default with
      | ok side => exact ⟨fault, Or.inr ⟨⟨side, rfl⟩, refused⟩⟩
      | error defaultFault => exact ⟨defaultFault, Or.inl rfl⟩

/-- The document that reading a text gave: an empty one unless it gave an object. -/
def Document.ofRead : Except SyntaxFault Value → Document
  | .ok (.object members) => .ofMembers members
  | .ok _ | .error _ => .empty

/-- A text stands for what reading it gave; only an object has anything to say. -/
theorem decodeOrEmpty_eq_ofRead (text : Bytes) :
    Document.decodeOrEmpty text = .ofRead (Value.read text) := by
  rw [Document.decodeOrEmpty, Document.decode]
  cases Value.read text with
  | error fault => rfl
  | ok value => cases value <;> rfl

/-- A side that is absent, or is no document, merges like an empty one: the documents that the two
texts stand for are merged, although a side without another one is returned as it is. -/
theorem absent_sides_merge_as_empty (default changed : Bytes) :
    (mergeLenient default changed).document =
        (Document.decodeOrEmpty default).merge (Document.decodeOrEmpty changed) ∧
      (∀ document : Document, combine (some document) none = document.merge .empty ∧
        combine none (some document) = Document.empty.merge document) ∧
      ∀ text, Document.decodeOrEmpty text = .ofRead (Value.read text) := by
  refine ⟨document_mergeLenient default changed, fun document => ⟨?_, ?_⟩, decodeOrEmpty_eq_ofRead⟩
  · exact combine_eq_merge (some document) none
  · exact combine_eq_merge none (some document)

end OperatorKit.Spec
