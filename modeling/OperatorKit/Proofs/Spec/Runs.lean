import OperatorKit.Proofs.Spec.TextMerge
import OperatorKit.Spec.Layers

/-!
# Runs over documents and over texts

A document is built up by putting texts on top of it or beneath it. One run keeps the document; the
other writes it out at every step and merges two texts. Both go through the same documents, because
every document on the way survives being written.
-/

namespace OperatorKit.Spec

open OperatorKit.Text OperatorKit.Json

/-- The document after a layer; a layer that fails leaves it as it was. -/
def Layer.next (state : Document) (layer : Layer) : Document :=
  match layer.apply state with
  | .ok document => document
  | .error _ => state

/-- A step of a run: a text on top of the document so far or beneath it. -/
inductive Step where
  | onTop (text : Bytes)
  | beneath (text : Bytes)

namespace Step

/-- The text of a step. -/
def text : Step → Bytes
  | onTop text | beneath text => text

/-- The step as a merge of two documents. -/
def layer : Step → Layer
  | onTop text => .onTop text
  | beneath text => .beneath text

/-- The step as a merge of two texts, the document so far written out. -/
def rawLayer : Step → Layer
  | onTop text => .rawOnTop text
  | beneath text => .rawBeneath text

/-- The strict merge of the two texts of the step. -/
def mergeStrict (state : Document) : Step → Except InputFault Document
  | onTop text => Spec.mergeStrict state.compactBytes text
  | beneath text => Spec.mergeStrict text state.compactBytes

/-- The document after the steps, merged as documents. -/
def run (start : Document) (steps : List Step) : Document :=
  (steps.map layer).foldl Layer.next start

/-- The document after the steps, merged as texts. -/
def runRaw (start : Document) (steps : List Step) : Document :=
  (steps.map rawLayer).foldl Layer.next start

/-- The document of the step has integers only, if its text holds a document. -/
def IntegersOnly (step : Step) : Prop :=
  ∀ document, Document.decode step.text = .ok document → document.toValue.IntegersOnly

end Step

section Steps

variable {state : Document} {text : Bytes}

/-- A text on top of a document is merged as the document that it stands for. -/
theorem next_onTop : (Layer.onTop text).next state = state.merge (.decodeOrEmpty text) := by
  rw [Layer.next, Layer.apply, Layer.document]
  cases decoded : Document.decode text with
  | ok document =>
    rw [Document.decodeOrEmpty_of_ok decoded]
    rfl
  | error fault =>
    rw [Document.decodeOrEmpty_of_error decoded, Document.merge_empty]
    rfl

/-- A text beneath a document is merged as the document that it stands for. -/
theorem next_beneath :
    (Layer.beneath text).next state = (Document.decodeOrEmpty text).merge state := by
  rw [Layer.next, Layer.apply, Layer.document]
  cases decoded : Document.decode text with
  | ok document =>
    rw [Document.decodeOrEmpty_of_ok decoded]
    rfl
  | error fault =>
    rw [Document.decodeOrEmpty_of_error decoded, Document.empty_merge]
    rfl

/-- A document that survives is merged with a text as it is with the document of the text. -/
theorem next_rawLayer (survives : state.Survives) (step : Step) :
    step.rawLayer.next state = step.layer.next state := by
  have restored := Document.decodeOrEmpty_of_ok (Document.decode_compactBytes survives)
  cases step with
  | onTop text =>
    have merged : (Layer.rawOnTop text).next state =
        (mergeLenient state.compactBytes text).document := rfl
    rw [Step.rawLayer, Step.layer, next_onTop, merged, document_mergeLenient, restored]
  | beneath text =>
    have merged : (Layer.rawBeneath text).next state =
        (mergeLenient text state.compactBytes).document := rfl
    rw [Step.rawLayer, Step.layer, next_beneath, merged, document_mergeLenient, restored]

/-- A step from a document that survives leads to one that survives. -/
theorem survives_next (survives : state.Survives) {step : Step} (integersOnly : step.IntegersOnly) :
    (step.layer.next state).Survives := by
  have textSurvives := Document.survives_decodeOrEmpty integersOnly
  cases step with
  | onTop text =>
    rw [Step.layer, next_onTop]
    exact survives.merge textSurvives
  | beneath text =>
    rw [Step.layer, next_beneath]
    exact textSurvives.merge survives

/-- What the strict merge of a step gives is what its lenient merge gives. -/
theorem eq_next_of_mergeStrict {step : Step} {merged : Document}
    (strict : step.mergeStrict state = .ok merged) :
    merged = step.rawLayer.next state := by
  cases step with
  | onTop text => exact eq_mergeLenient_of_mergeStrict strict
  | beneath text => exact eq_mergeLenient_of_mergeStrict strict

/-- The strict merge of a step fails where its text was supplied and holds no document. -/
theorem step_fails_iff (survives : state.Survives) (step : Step) :
    (∃ fault, step.mergeStrict state = .error fault) ↔
      step.text ≠ [] ∧ ∃ cause, Document.decode step.text = .error cause := by
  have restored := Document.decode_compactBytes survives
  have stateRead : ∀ role, ¬∃ fault, readSide role state.compactBytes = .error fault := by
    rintro role ⟨fault, refused⟩
    rw [readSide_of_ok restored] at refused
    cases refused
  cases step with
  | onTop text =>
    rw [Step.mergeStrict, mergeStrict_fails_iff, or_iff_right (stateRead .default),
      readSide_fails_iff]
    rfl
  | beneath text =>
    rw [Step.mergeStrict, mergeStrict_fails_iff, or_iff_left (stateRead .changed),
      readSide_fails_iff]
    rfl

end Steps

namespace Step

variable {start : Document} {steps : List Step}

/-- A run goes through one step after the other. -/
theorem run_cons (step : Step) : run start (step :: steps) = run (step.layer.next start) steps :=
  rfl

@[inherit_doc run_cons]
theorem runRaw_cons (step : Step) :
    runRaw start (step :: steps) = runRaw (step.rawLayer.next start) steps :=
  rfl

/-- The last step of a run goes on from where the others led. -/
theorem run_append (step : Step) :
    run start (steps ++ [step]) = step.layer.next (run start steps) := by
  simp only [run, List.map_append, List.foldl_append, List.map_cons, List.map_nil, List.foldl_cons,
    List.foldl_nil]

/-- A run stays with documents that survive. -/
theorem survives_run (survives : start.Survives)
    (integersOnly : ∀ step ∈ steps, step.IntegersOnly) : (run start steps).Survives := by
  induction steps generalizing start with
  | nil => exact survives
  | cons step steps inductionHypothesis =>
    rw [List.forall_mem_cons] at integersOnly
    rw [run_cons]
    exact inductionHypothesis (survives_next survives integersOnly.1) integersOnly.2

/-- Both runs go to the same document. -/
theorem runRaw_eq_run (survives : start.Survives)
    (integersOnly : ∀ step ∈ steps, step.IntegersOnly) : runRaw start steps = run start steps := by
  induction steps generalizing start with
  | nil => rfl
  | cons step steps inductionHypothesis =>
    rw [List.forall_mem_cons] at integersOnly
    rw [runRaw_cons, run_cons, next_rawLayer survives]
    exact inductionHypothesis (survives_next survives integersOnly.1) integersOnly.2

/-- The run over texts goes through the same documents as the run over documents. At each of its
steps the strict merge of the same two texts gives the next document or fails, and it fails exactly
where the text of the step was supplied and holds no document. -/
theorem runs_agree (integersOnly : start.toValue.IntegersOnly)
    (fits : start.toValue.levels ≤ levelLimit) (readable : ∀ step ∈ steps, step.IntegersOnly)
    {before after : List Step} {step : Step} (split : steps = before ++ step :: after) :
    runRaw start before = run start before ∧
      runRaw start (before ++ [step]) = run start (before ++ [step]) ∧
      (∀ merged, step.mergeStrict (runRaw start before) = .ok merged →
        merged = run start (before ++ [step])) ∧
      ((∃ fault, step.mergeStrict (runRaw start before) = .error fault) ↔
        step.text ≠ [] ∧ ∃ cause, Document.decode step.text = .error cause) := by
  have survives : start.Survives := ⟨integersOnly, fits⟩
  rw [split] at readable
  have beforeReadable : ∀ earlier ∈ before, earlier.IntegersOnly :=
    fun earlier inBefore => readable earlier (List.mem_append_left _ inBefore)
  have throughReadable : ∀ earlier ∈ before ++ [step], earlier.IntegersOnly := by
    intro earlier inThrough
    apply readable
    rcases List.mem_append.1 inThrough with inBefore | isStep
    · exact List.mem_append_left _ inBefore
    · rw [List.mem_singleton.1 isStep]
      exact List.mem_append_right _ List.mem_cons_self
  have same := runRaw_eq_run survives beforeReadable
  have reached := survives_run survives beforeReadable
  refine ⟨same, runRaw_eq_run survives throughReadable, ?_, ?_⟩
  · intro merged strict
    rw [same] at strict
    rw [eq_next_of_mergeStrict strict, next_rawLayer reached, run_append]
  · rw [same]
    exact step_fails_iff reached step

/-- A document with escapes, both extreme integers and a `null` to fill, a run of four steps over
it, and a text that breaks off. -/
theorem runs_agree_at_broken_text :
    let start := Document.ofMembers
      [("limits", .object [("cpu", .null),
        ("high", .number (.integer 0xFFFFFFFFFFFFFFFF (by decide))),
        ("low", .number (.integer (-0x8000000000000000) (by decide)))]),
        ("note", .string "\"\\\n\x01é")]
    let change := Document.ofMembers
      [("limits", .object [("cpu", .number (.integer 2 (by decide)))])]
    let before := [beneath change.compactBytes, onTop [], beneath Ascii.afterT,
      onTop (Ascii.letterN :: Ascii.afterN)]
    let step := onTop [Ascii.openBrace]
    start.toValue.IntegersOnly ∧ start.toValue.levels ≤ levelLimit ∧
      (∀ other ∈ before ++ step :: [], other.IntegersOnly) ∧
      runRaw start before = run start before ∧
      runRaw start (before ++ [step]) = run start (before ++ [step]) ∧
      (∀ merged, step.mergeStrict (runRaw start before) = .ok merged →
        merged = run start (before ++ [step])) ∧
      ((∃ fault, step.mergeStrict (runRaw start before) = .error fault) ↔
        step.text ≠ [] ∧ ∃ cause, Document.decode step.text = .error cause) := by
  intro start change before step
  have integersOnly : start.toValue.IntegersOnly :=
    ⟨⟨trivial, trivial, trivial, trivial⟩, trivial, trivial⟩
  have fits : start.toValue.levels ≤ levelLimit := by decide
  have changeSurvives : change.Survives := ⟨⟨⟨trivial, trivial⟩, trivial⟩, by decide⟩
  have readable : ∀ other ∈ before ++ step :: [], other.IntegersOnly := by
    have broken : (Document.decode [Ascii.openBrace]).isOk = false := by decide +kernel
    simp only [before, step, List.cons_append, List.nil_append, List.forall_mem_cons]
    refine ⟨?_, ?_, ?_, ?_, ?_, List.forall_mem_nil _⟩
    all_goals
      intro document decoded
      rw [text] at decoded
    · rw [Document.decode_compactBytes changeSurvives] at decoded
      cases decoded
      exact changeSurvives.1
    · cases decoded
    · cases decoded
    · cases decoded
      trivial
    · rw [decoded] at broken
      cases broken
  exact ⟨integersOnly, fits, readable, runs_agree integersOnly fits readable rfl⟩

end Step

end OperatorKit.Spec
