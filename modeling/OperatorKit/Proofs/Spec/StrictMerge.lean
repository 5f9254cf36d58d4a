import OperatorKit.Proofs.Spec.TextMerge

/-!
# Strict and lenient merges

The strict merge gives a document exactly where the lenient one has nothing to report, and then both
give the same. Otherwise the strict merge stops at the first fault of the lenient one, which goes on
as if an object without members had been supplied for every side at fault.
-/

namespace OperatorKit.Spec

open OperatorKit.Text OperatorKit.Json

/-- The side was not supplied, or it is a document. -/
def IsUsable (text : Bytes) : Prop :=
  text = [] ∨ ∃ document, Document.decode text = .ok document

/-- The side was supplied and is no document, for this reason. -/
def IsRefused (text : Bytes) (cause : DecodeFault) : Prop :=
  text ≠ [] ∧ Document.decode text = .error cause

/-- The fault of a side that was supplied and is no document. -/
def sideFaults (role : Role) (text : Bytes) : List InputFault :=
  if text = [] then []
  else
    match Document.decode text with
    | .ok _ => []
    | .error cause => [⟨role, cause⟩]

/-- The event of a side that is taken as empty, with what is wrong with the side. -/
def refusal (error : String) : Event :=
  ⟨.error, "Treating undecodable spec as empty", [("error", error)]⟩

/-- The events of a side, called by its name: one if it was supplied and is no document. -/
def refusals (side : String) (text : Bytes) : List Event :=
  if text = [] then []
  else
    match Document.decode text with
    | .ok _ => []
    | .error (.malformed fault) =>
      [refusal ("failed to decode " ++ side ++ " spec: " ++ ("invalid JSON: " ++ fault.message))]
    | .error (.notAnObject found) =>
      [refusal ("failed to decode " ++ side ++ " spec: " ++
        ("expected a JSON object at the top level, found " ++ found.name))]

/-- The text of an object without members. -/
def braces : Bytes :=
  [Ascii.openBrace, Ascii.closeBrace]

/-- The side, or an object without members in place of a side that is no document. -/
def orBraces (text : Bytes) : Bytes :=
  if text = [] then text
  else
    match Document.decode text with
    | .ok _ => text
    | .error _ => braces

/-- The errors among the events of a lenient merge. -/
def lenientErrors (default changed : Bytes) : List Event :=
  (lenientEvents default changed).filter (·.level = .error)

/-- How the two merges of two texts are related. -/
structure MergesAgree (default changed : Bytes) : Prop where
  /-- The strict merge gives a document exactly if both sides can be used. -/
  succeeds_iff : (∃ merged, mergeStrict default changed = .ok merged) ↔
    IsUsable default ∧ IsUsable changed
  /-- The lenient merge then gives the same and reports no error. -/
  succeeds : ∀ merged, mergeStrict default changed = .ok merged →
    (mergeLenient default changed).document = merged ∧ lenientErrors default changed = []
  /-- A default that is refused is the fault, whatever the other side is. -/
  defaultRefused : ∀ cause, IsRefused default cause →
    mergeStrict default changed = .error ⟨.default, cause⟩
  /-- A changed side that is refused is the fault if the default can be used. -/
  changedRefused : ∀ cause, IsUsable default → IsRefused changed cause →
    mergeStrict default changed = .error ⟨.changed, cause⟩
  /-- The lenient merge reports each side that is refused, the default first. -/
  errors : lenientErrors default changed = refusals "default" default ++ refusals "changed" changed
  /-- The first error reported has the wording of the fault of the strict merge. -/
  firstError : ∀ fault, mergeStrict default changed = .error fault →
    (lenientErrors default changed).head? = some (refusal fault.message)
  /-- Each side that is refused is merged as an object without members. -/
  document : (mergeLenient default changed).document =
    (mergeLenient (orBraces default) (orBraces changed)).document

variable {role : Role} {text default changed : Bytes}

/-- A side that can be used is read. -/
theorem isUsable_iff : IsUsable text ↔ ∃ side, readSide role text = .ok side := by
  rw [IsUsable]
  cases text with
  | nil => exact iff_of_true (Or.inl rfl) ⟨none, rfl⟩
  | cons first more =>
    rw [readSide, if_neg (by simp)]
    cases Document.decode (first :: more) with
    | ok document => simp
    | error cause => simp

/-- A side that cannot be used is refused. -/
theorem isUsable_or_isRefused (text : Bytes) : IsUsable text ∨ ∃ cause, IsRefused text cause := by
  by_cases supplied : text = []
  · exact Or.inl (Or.inl supplied)
  · cases decoded : Document.decode text with
    | ok document => exact Or.inl (Or.inr ⟨document, decoded⟩)
    | error cause => exact Or.inr ⟨cause, supplied, decoded⟩

/-- A side that is refused is not read. -/
theorem readSide_of_isRefused {cause : DecodeFault} (refused : IsRefused text cause) :
    readSide role text = .error ⟨role, cause⟩ :=
  readSide_eq_error_iff.2 ⟨refused.1, cause, refused.2, rfl⟩

/-- The faults of a side are those of reading it. -/
theorem orEmpty_readSide_faults (role : Role) (text : Bytes) :
    (orEmpty (readSide role text)).2 = sideFaults role text := by
  cases text with
  | nil => rfl
  | cons first more =>
    rw [readSide, if_neg (by simp), sideFaults, if_neg (by simp)]
    cases Document.decode (first :: more) with
    | ok document => rfl
    | error cause => rfl

/-- The first fault of a side is the one for which it is not read. -/
theorem sideFaults_of_error {fault : InputFault} (refused : readSide role text = .error fault) :
    sideFaults role text = [fault] := by
  rw [← orEmpty_readSide_faults, refused]
  rfl

/-- A side that is read has no fault. -/
theorem sideFaults_of_ok {side : Option Document} (read : readSide role text = .ok side) :
    sideFaults role text = [] := by
  rw [← orEmpty_readSide_faults, read]
  rfl

/-- Merging documents reports no errors. -/
theorem mergeEvents_level (default changed : Document) :
    ∀ event ∈ default.mergeEvents changed, event.level ≠ .error := by
  intro event inEvents
  rcases List.mem_append.1 inEvents with isNote | isSummary
  · obtain ⟨note, -, rfl⟩ := List.mem_map.1 isNote
    cases note <;> nofun
  · rw [List.mem_singleton.1 isSummary]
    nofun

/-- Merging the sides that were supplied reports no errors. -/
theorem combineEvents_level (default changed : Option Document) :
    ∀ event ∈ combineEvents default changed, event.level ≠ .error := by
  unfold combineEvents
  split
  · exact mergeEvents_level _ _
  · exact List.forall_mem_nil _

/-- The errors of a lenient merge are the faults of its sides. -/
theorem lenientErrors_eq (default changed : Bytes) : lenientErrors default changed =
    (sideFaults .default default ++ sideFaults .changed changed).map InputFault.event := by
  have faults : (mergeLenient default changed).faults =
      sideFaults .default default ++ sideFaults .changed changed := by
    rw [← orEmpty_readSide_faults, ← orEmpty_readSide_faults]
    rfl
  rw [lenientErrors, lenientEvents, List.filter_append, faults]
  rw [List.filter_eq_self.2, List.filter_eq_nil_iff.2, List.append_nil]
  · intro event inEvents
    simpa using combineEvents_level _ _ event inEvents
  · intro event inFaults
    obtain ⟨fault, -, rfl⟩ := List.mem_map.1 inFaults
    rfl

/-- The faults of a side are reported under its name. -/
theorem events_of_sideFaults (role : Role) (text : Bytes) :
    (sideFaults role text).map InputFault.event = refusals role.name text := by
  unfold sideFaults refusals
  split
  · rfl
  · cases Document.decode text with
    | ok document => rfl
    | error cause => cases cause <;> rfl

/-- The strict merge gives a document where both sides are read. -/
theorem mergeStrict_succeeds_iff : (∃ merged, mergeStrict default changed = .ok merged) ↔
    (∃ side, readSide .default default = .ok side) ∧
      ∃ side, readSide .changed changed = .ok side := by
  simp only [mergeStrict, bind_eq_ok]
  constructor
  · rintro ⟨merged, defaultSide, readDefault, changedSide, readChanged, -⟩
    exact ⟨⟨defaultSide, readDefault⟩, changedSide, readChanged⟩
  · rintro ⟨⟨defaultSide, readDefault⟩, changedSide, readChanged⟩
    exact ⟨_, defaultSide, readDefault, changedSide, readChanged, rfl⟩

/-- Where both sides can be used, the strict merge gives what the lenient one gives. -/
theorem mergeStrict_eq_ok_iff {merged : Document} : mergeStrict default changed = .ok merged ↔
    (IsUsable default ∧ IsUsable changed) ∧ (mergeLenient default changed).document = merged := by
  rw [isUsable_iff, isUsable_iff, ← mergeStrict_succeeds_iff]
  constructor
  · intro strict
    exact ⟨⟨merged, strict⟩, (eq_mergeLenient_of_mergeStrict strict).symm⟩
  · rintro ⟨⟨merged, strict⟩, rfl⟩
    rw [strict, eq_mergeLenient_of_mergeStrict strict]

/-- An object without members stands for the empty document. -/
theorem decodeOrEmpty_braces : Document.decodeOrEmpty braces = .empty := by
  have bytes : Document.empty.compactBytes = braces := rfl
  rw [← bytes]
  exact Document.decodeOrEmpty_of_ok (Document.decode_compactBytes Document.survives_empty)

/-- A side stands for the same document if an object without members takes its place where it is no
document. -/
theorem decodeOrEmpty_orBraces (text : Bytes) :
    Document.decodeOrEmpty (orBraces text) = Document.decodeOrEmpty text := by
  unfold orBraces
  split
  · rfl
  · split
    · rfl
    · rename_i cause failed
      rw [decodeOrEmpty_braces, Document.decodeOrEmpty_of_error failed]

/-- The strict and the lenient merge of any two texts agree. -/
theorem mergesAgree (default changed : Bytes) : MergesAgree default changed where
  succeeds_iff := by simp only [mergeStrict_eq_ok_iff, exists_and_left, exists_eq', and_true]
  succeeds merged strict := by
    obtain ⟨⟨defaultUsable, changedUsable⟩, same⟩ := mergeStrict_eq_ok_iff.1 strict
    obtain ⟨defaultSide, readDefault⟩ := isUsable_iff.1 defaultUsable
    obtain ⟨changedSide, readChanged⟩ := isUsable_iff.1 changedUsable
    refine ⟨same, ?_⟩
    rw [lenientErrors_eq, sideFaults_of_ok readDefault, sideFaults_of_ok readChanged]
    rfl
  defaultRefused cause refused :=
    mergeStrict_eq_error_iff.2 (Or.inl (readSide_of_isRefused refused))
  changedRefused cause usable refused :=
    mergeStrict_eq_error_iff.2
      (Or.inr ⟨isUsable_iff.1 usable, readSide_of_isRefused refused⟩)
  errors := by
    rw [lenientErrors_eq, List.map_append, events_of_sideFaults, events_of_sideFaults]
    rfl
  firstError fault strict := by
    rw [lenientErrors_eq]
    rcases mergeStrict_eq_error_iff.1 strict with refused | ⟨⟨side, read⟩, refused⟩
    · rw [sideFaults_of_error refused]
      rfl
    · rw [sideFaults_of_ok read, sideFaults_of_error refused]
      rfl
  document := by
    rw [document_mergeLenient, document_mergeLenient, decodeOrEmpty_orBraces,
      decodeOrEmpty_orBraces]

end OperatorKit.Spec
