import OperatorKit.CommandLine.Run
import OperatorKit.Proofs.Spec.Absorption
import OperatorKit.Proofs.Spec.StrictMerge

/-!
# Merging what was merged

What a merge of two files prints can take the place of either file: the merge then prints the same
again. The printed text is read back as the merged document, and a merged document absorbs both of
its sides.
-/

namespace OperatorKit.CommandLine

open OperatorKit.Text OperatorKit.Json OperatorKit.Spec

/-- The arguments merge two files, strictly or not; the option may stand anywhere among them. -/
structure MergesFiles (arguments : List String) (isStrict : Bool)
    (defaultPath changedPath : String) : Prop where
  paths : arguments.filter (· != strictOption) = [defaultPath, changedPath]
  strict : arguments.contains strictOption = isStrict

/-- Merging two texts, strictly or not, gives this document. -/
def MergesTo (isStrict : Bool) (default changed : Bytes) (merged : Document) : Prop :=
  if isStrict then mergeStrict default changed = .ok merged
  else (mergeLenient default changed).document = merged

section Texts

variable {isStrict : Bool} {default changed : Bytes} {merged : Document}

/-- Both ways of merging merge the documents that the texts stand for; the strict one wants both
texts to be usable. -/
theorem mergesTo_iff : MergesTo isStrict default changed merged ↔
    (isStrict = true → IsUsable default ∧ IsUsable changed) ∧
      (Document.decodeOrEmpty default).merge (Document.decodeOrEmpty changed) = merged := by
  rw [← document_mergeLenient]
  cases isStrict with
  | false => simp [MergesTo]
  | true => simp [MergesTo, mergeStrict_eq_ok_iff]

/-- A merge gives the same document again if that document takes the place of the changed one. -/
theorem MergesTo.withMerged {text : Bytes} (merges : MergesTo isStrict default changed merged)
    (holds : Document.decode text = .ok merged) : MergesTo isStrict default text merged := by
  obtain ⟨usable, isMerged⟩ := mergesTo_iff.1 merges
  refine mergesTo_iff.2 ⟨fun strict => ⟨(usable strict).1, Or.inr ⟨merged, holds⟩⟩, ?_⟩
  rw [Document.decodeOrEmpty_of_ok holds, ← isMerged]
  exact Document.merge_absorbs_default _ _

/-- A merge gives the same document again if that document takes the place of the default. -/
theorem MergesTo.ofMerged {text : Bytes} (merges : MergesTo isStrict default changed merged)
    (holds : Document.decode text = .ok merged) : MergesTo isStrict text changed merged := by
  obtain ⟨usable, isMerged⟩ := mergesTo_iff.1 merges
  refine mergesTo_iff.2 ⟨fun strict => ⟨Or.inr ⟨merged, holds⟩, (usable strict).2⟩, ?_⟩
  rw [Document.decodeOrEmpty_of_ok holds, ← isMerged]
  exact Document.merge_merge_changed _ _

end Texts

section Files

variable {world : World} {arguments : List String} {isStrict : Bool}
  {defaultPath changedPath : String} {default changed : Bytes} {merged : Document}

/-- What a merge of two files prints. -/
def printed (merged : Document) : String :=
  merged.indentedText ++ "\n"

/-- A file that can be read is read. -/
theorem readInput_eq_ok_iff {path : String} {content : Bytes} :
    readInput world path = .ok content ↔ world.readFile path = .ok content :=
  mapError_eq_ok

/-- A merge of two files gives the text of the document that their contents are merged to. -/
theorem runMerge_eq_ok_iff (merges : MergesFiles arguments isStrict defaultPath changedPath)
    {text : String} : runMerge world arguments = .ok text ↔
      ∃ default, world.readFile defaultPath = .ok default ∧
        ∃ changed, world.readFile changedPath = .ok changed ∧
          ∃ merged, MergesTo isStrict default changed merged ∧ merged.indentedText = text := by
  unfold runMerge
  rw [merges.paths]
  simp only [bind_eq_ok, readInput_eq_ok_iff, merges.strict]
  refine exists_congr fun default => and_congr_right fun _ => ?_
  refine exists_congr fun changed => and_congr_right fun _ => ?_
  cases isStrict with
  | false => simp [MergesTo]
  | true => cases strict : mergeStrict default changed <;> simp [MergesTo, strict]

/-- A merge of two files prints the document that their contents are merged to. -/
theorem outcome_of_mergesTo (merges : MergesFiles arguments isStrict defaultPath changedPath)
    (readDefault : world.readFile defaultPath = .ok default)
    (readChanged : world.readFile changedPath = .ok changed)
    (mergesTo : MergesTo isStrict default changed merged) :
    outcome world ("merge" :: arguments) = ⟨0, printed merged, ""⟩ := by
  have ran : run world ("merge" :: arguments) = .ok merged.indentedText :=
    (runMerge_eq_ok_iff merges).2
      ⟨default, readDefault, changed, readChanged, merged, mergesTo, rfl⟩
  rw [outcome, ran]
  rfl

/-- A command that succeeds had a text to print. -/
theorem exists_run_of_exitCode (succeeds : (outcome world arguments).exitCode = 0) :
    ∃ text, run world arguments = .ok text := by
  unfold outcome at succeeds
  cases ran : run world arguments with
  | ok text => exact ⟨text, rfl⟩
  | error report =>
    rw [ran] at succeeds
    cases succeeds

/-- The documents in a file have integers only, if there are any. -/
def FileIntegersOnly (world : World) (path : String) : Prop :=
  ∀ content, world.readFile path = .ok content →
    ∀ document, Document.decode content = .ok document → document.toValue.IntegersOnly

/-- A printed document that survives being written is read back, as an object. -/
theorem read_printed (survives : merged.Survives) :
    Value.read (Utf8.encode (printed merged).toList) = .ok merged.toValue ∧
      Document.decode (Utf8.encode (printed merged).toList) = .ok merged := by
  have bytes : Utf8.encode (printed merged).toList =
      Utf8.encode (merged.toValue.chars (.indented 0)) ++ [Ascii.lineFeed] := by
    rw [printed, String.toList_append, Document.indentedText, Value.indentedText,
      String.toList_ofList, Utf8.encode_append]
    rfl
  have areBlank : ∀ byte ∈ [Ascii.lineFeed], Ascii.isBlank byte = true :=
    List.forall_mem_singleton.2 rfl
  rw [bytes]
  exact ⟨Value.read_written (.indented 0) survives.1 survives.2 areBlank,
    Document.decode_written survives (.indented 0) areBlank⟩

/-- What a merge of two files prints is an object, and with that text in a file the merge prints the
same again, the file taking the place of either side. -/
theorem outcome_merge_again {later : World} {mergedPath : String}
    {argumentsOnDefault argumentsBelowChanged : List String}
    (merges : MergesFiles arguments isStrict defaultPath changedPath)
    (succeeds : (outcome world ("merge" :: arguments)).exitCode = 0)
    (defaultIntegersOnly : FileIntegersOnly world defaultPath)
    (changedIntegersOnly : FileIntegersOnly world changedPath)
    (stored : later.readFile mergedPath =
      .ok (Utf8.encode (outcome world ("merge" :: arguments)).output.toList))
    (defaultStays : later.readFile defaultPath = world.readFile defaultPath)
    (changedStays : later.readFile changedPath = world.readFile changedPath)
    (mergesOnDefault : MergesFiles argumentsOnDefault isStrict defaultPath mergedPath)
    (mergesBelowChanged : MergesFiles argumentsBelowChanged isStrict mergedPath changedPath) :
    let first := outcome world ("merge" :: arguments)
    outcome later ("merge" :: argumentsOnDefault) = first ∧
      outcome later ("merge" :: argumentsBelowChanged) = first ∧
      ∃ members, Value.read (Utf8.encode first.output.toList) = .ok (.object members) := by
  obtain ⟨text, ran⟩ := exists_run_of_exitCode succeeds
  obtain ⟨default, readDefault, changed, readChanged, merged, mergesTo, -⟩ :=
    (runMerge_eq_ok_iff merges).1 ran
  have first := outcome_of_mergesTo merges readDefault readChanged mergesTo
  have survives : merged.Survives := by
    rw [← (mergesTo_iff.1 mergesTo).2]
    exact (Document.survives_decodeOrEmpty (defaultIntegersOnly default readDefault)).merge
      (Document.survives_decodeOrEmpty (changedIntegersOnly changed readChanged))
  obtain ⟨read, holds⟩ := read_printed survives
  rw [first] at stored ⊢
  rw [← defaultStays] at readDefault
  rw [← changedStays] at readChanged
  exact ⟨outcome_of_mergesTo mergesOnDefault readDefault stored (mergesTo.withMerged holds),
    outcome_of_mergesTo mergesBelowChanged stored readChanged (mergesTo.ofMerged holds),
    merged.fields, read⟩

/-- A strict merge of a default with escapes, an extreme integer and an empty array into a document
with a `null` and an empty object, the option in a different place each time. -/
theorem outcome_merge_again_of_nested :
    let default := Document.ofMembers
      [("limits", .object [("cpu", .number (.integer (-0x8000000000000000) (by decide))),
        ("tags", .array [])]), ("note", .string "\"\\\n\x01é")]
    let changed := Document.ofMembers [("limits", .object [("cpu", .null)]), ("none", .object [])]
    let files (path : String) : Except FileFault Bytes :=
      if path = "default.json" then .ok default.compactBytes
      else if path = "changed.json" then .ok changed.compactBytes
      else .error .notFound
    let world : World := ⟨files, fun _ => none⟩
    let first := outcome world ["merge", "default.json", "--strict", "changed.json"]
    let later : World := { world with readFile := fun path =>
      if path = "merged.json" then .ok (Utf8.encode first.output.toList) else files path }
    first.exitCode = 0 ∧
      outcome later ["merge", "default.json", "merged.json", "--strict"] = first ∧
      outcome later ["merge", "--strict", "merged.json", "changed.json"] = first ∧
      ∃ members, Value.read (Utf8.encode first.output.toList) = .ok (.object members) := by
  intro default changed files world first later
  have defaultSurvives : default.Survives :=
    ⟨⟨⟨trivial, trivial, trivial⟩, trivial, trivial⟩, by decide⟩
  have changedSurvives : changed.Survives := ⟨⟨⟨trivial, trivial⟩, trivial, trivial⟩, by decide⟩
  have readDefault := Document.decode_compactBytes defaultSurvives
  have readChanged := Document.decode_compactBytes changedSurvives
  have merges : MergesFiles ["default.json", "--strict", "changed.json"] true
    "default.json" "changed.json" := ⟨by decide, by decide⟩
  have mergesTo := mergesTo_iff.2
    ⟨fun (_ : true = true) => ⟨Or.inr ⟨_, readDefault⟩, Or.inr ⟨_, readChanged⟩⟩, rfl⟩
  have succeeds : first.exitCode = 0 :=
    congrArg Outcome.exitCode (outcome_of_mergesTo merges rfl rfl mergesTo)
  have integersOnly {document : Document} (survives : document.Survives) :
      ∀ content, Except.ok document.compactBytes = (Except.ok content : Except FileFault Bytes) →
        ∀ other, Document.decode content = .ok other → other.toValue.IntegersOnly := by
    rintro content ⟨⟩ other decoded
    rw [Document.decode_compactBytes survives] at decoded
    cases decoded
    exact survives.1
  have stored : later.readFile "merged.json" = .ok (Utf8.encode first.output.toList) := rfl
  have defaultStays : later.readFile "default.json" = world.readFile "default.json" := rfl
  have changedStays : later.readFile "changed.json" = world.readFile "changed.json" := rfl
  have mergesOnDefault : MergesFiles ["default.json", "merged.json", "--strict"] true
    "default.json" "merged.json" := ⟨by decide, by decide⟩
  have mergesBelowChanged : MergesFiles ["--strict", "merged.json", "changed.json"] true
    "merged.json" "changed.json" := ⟨by decide, by decide⟩
  exact ⟨succeeds, outcome_merge_again merges succeeds (integersOnly defaultSurvives)
    (integersOnly changedSurvives) stored defaultStays changedStays mergesOnDefault
    mergesBelowChanged⟩

end Files

end OperatorKit.CommandLine
