import Mathlib.Order.WellFounded
import OperatorKit.Proofs.CommandLine.MergeAgain

/-!
# Which fault a merge reports

A merge of two files can be wrong in five ways, and in several of them at once: in its arguments, in
either file, and in what either file holds. Each way is described on its own. They have one order,
and the command reports the first that applies; if none does, it prints the merged document. Of the
option only its presence counts.
-/

namespace OperatorKit.CommandLine

open OperatorKit.Text OperatorKit.Json OperatorKit.Spec

/-- A stage at which a merge of two files can fail. -/
inductive Stage where
  | usage
  | reading (role : Role)
  | decoding (role : Role)

/-- The place of a stage in the order of all. Both files are read before any of them is decoded. -/
def Stage.place : Stage → Nat
  | usage => 0
  | reading .default => 1
  | reading .changed => 2
  | decoding .default => 3
  | decoding .changed => 4

/-- The arguments besides the option, in order. -/
def operands (arguments : List String) : List String :=
  arguments.filter (· != strictOption)

/-- The operand that names the file of a side. -/
def operandOf? (arguments : List String) : Role → Option String
  | .default => (operands arguments)[0]?
  | .changed => (operands arguments)[1]?

/-- The file of a side can be read, and this is its content. -/
def Holds (world : World) (arguments : List String) (role : Role) (content : Bytes) : Prop :=
  ∃ path, operandOf? arguments role = some path ∧ world.readFile path = .ok content

/-- A stage fails with this report, whatever happens at the other stages. -/
inductive FailsAt (world : World) (arguments : List String) : Stage → Report → Prop where
  | usage (wrong : (operands arguments).length ≠ 2) :
      FailsAt world arguments .usage
        ⟨"Usage: operand merge <default.json> <changed.json> [--strict]", []⟩
  | unreadable {role : Role} {path : String} {fault : FileFault}
      (named : operandOf? arguments role = some path)
      (unreadable : world.readFile path = .error fault) :
      FailsAt world arguments (.reading role) ⟨"Failed to read " ++ path, [fault.message]⟩
  | malformed {role : Role} {content : Bytes} {fault : SyntaxFault}
      (isStrict : strictOption ∈ arguments) (holds : Holds world arguments role content)
      (refused : IsRefused content (.malformed fault)) :
      FailsAt world arguments (.decoding role) ⟨"Failed to merge specs",
        [(InputFault.mk role (.malformed fault)).message, (DecodeFault.malformed fault).message,
          fault.message]⟩
  | notAnObject {role : Role} {content : Bytes} {found : Kind}
      (isStrict : strictOption ∈ arguments) (holds : Holds world arguments role content)
      (refused : IsRefused content (.notAnObject found)) :
      FailsAt world arguments (.decoding role) ⟨"Failed to merge specs",
        [(InputFault.mk role (.notAnObject found)).message,
          (DecodeFault.notAnObject found).message]⟩

/-- A stage does not fail. -/
def IsClear (world : World) (arguments : List String) (stage : Stage) : Prop :=
  ∀ report, ¬ FailsAt world arguments stage report

/-- A stage fails with this report, and no stage before it fails. -/
structure FailsFirst (world : World) (arguments : List String) (stage : Stage) (report : Report) :
    Prop where
  fails : FailsAt world arguments stage report
  clear : ∀ earlier : Stage, earlier.place < stage.place → IsClear world arguments earlier

/-- How the causes behind a failure are shown, if there are any. A single cause stands alone, and
several are numbered from zero. -/
inductive CausesShownAs : List String → String → Prop where
  | none : CausesShownAs [] ""
  | single (cause : String) : CausesShownAs [cause] ("\nCaused by:\n    " ++ cause ++ "\n")
  | numbered {causes : List String} (several : 2 ≤ causes.length) : CausesShownAs causes
      ("\nCaused by:\n" ++ String.join (causes.zipIdx.map fun (cause, number) =>
        "    " ++ toString number ++ ": " ++ cause ++ "\n"))

/-- How a report is shown: the message under its heading, and the causes below. -/
inductive ShownAs : Report → String → Prop where
  | intro {message below : String} {causes : List String} (shown : CausesShownAs causes below) :
      ShownAs ⟨message, causes⟩ ("Error: " ++ message ++ "\n" ++ below)

/-- How a merge of two files ends: with the report of the first stage that fails, or, if no stage
does, with the merged document. -/
inductive Ends (world : World) (arguments : List String) : Outcome → Prop where
  | reports {stage : Stage} {report : Report} {text : String}
      (first : FailsFirst world arguments stage report) (shown : ShownAs report text) :
      Ends world arguments ⟨1, "", text⟩
  | prints {default changed : Bytes} (clear : ∀ stage, IsClear world arguments stage)
      (holdsDefault : Holds world arguments .default default)
      (holdsChanged : Holds world arguments .changed changed) :
      Ends world arguments ⟨0, printed
        ((Document.decodeOrEmpty default).merge (Document.decodeOrEmpty changed)), ""⟩

/-- Two merges have the same operands, and the files that these name are the same. -/
structure SameOperands (world : World) (arguments : List String) (otherWorld : World)
    (otherArguments : List String) : Prop where
  given : operands otherArguments = operands arguments
  files : ∀ path ∈ operands arguments, otherWorld.readFile path = world.readFile path

/-- How the outcome of a merge of two files is determined. -/
structure EndsByPrecedence (world : World) (arguments : List String) : Prop where
  /-- The merge ends with the first stage that fails, or with the merged document. -/
  ends_iff : ∀ result, Ends world arguments result ↔
    outcome world ("merge" :: arguments) = result
  /-- Besides the operands and their files, all that counts is whether the option is there. -/
  sameOption : ∀ otherWorld otherArguments,
    SameOperands world arguments otherWorld otherArguments →
      (strictOption ∈ otherArguments ↔ strictOption ∈ arguments) →
        outcome otherWorld ("merge" :: otherArguments) = outcome world ("merge" :: arguments)
  /-- What was printed with the option, or without it, is printed without it. -/
  withoutOption : ∀ otherWorld otherArguments,
    SameOperands world arguments otherWorld otherArguments → strictOption ∉ otherArguments →
      (outcome world ("merge" :: arguments)).exitCode = 0 →
        outcome otherWorld ("merge" :: otherArguments) = outcome world ("merge" :: arguments)

section Reports

variable {report : Report} {causes : List String} {text : String}

/-- Causes are numbered by their places. -/
theorem numbered_eq (number : Nat) (causes : List String) : Report.numbered number causes =
    String.join ((causes.zipIdx number).map fun (cause, number) =>
      "    " ++ toString number ++ ": " ++ cause ++ "\n") := by
  induction causes generalizing number with
  | nil => rfl
  | cons cause causes inductionHypothesis =>
    rw [Report.numbered, inductionHypothesis, List.zipIdx_cons, List.map_cons, String.join_cons]

/-- Several causes are all numbered. -/
theorem causesText_of_several (several : 2 ≤ causes.length) :
    Report.causesText causes = "\nCaused by:\n" ++ Report.numbered 0 causes := by
  match causes, several with
  | _ :: _ :: _, _ => rfl

/-- The causes of a report are shown as they are written. -/
theorem causesShownAs_iff : CausesShownAs causes text ↔ Report.causesText causes = text := by
  constructor
  · intro shown
    cases shown with
    | none => rfl
    | single cause => rfl
    | numbered several => rw [causesText_of_several several, numbered_eq]
  · rintro rfl
    match causes with
    | [] => exact .none
    | [cause] => exact .single cause
    | first :: second :: more =>
      have several : 2 ≤ (first :: second :: more).length := by simp
      rw [causesText_of_several several, numbered_eq]
      exact .numbered several

/-- A report is shown as it is written. -/
theorem shownAs_iff : ShownAs report text ↔ report.text = text := by
  constructor
  · rintro ⟨shown⟩
    rw [Report.text, causesShownAs_iff.1 shown]
  · rintro rfl
    exact .intro (causesShownAs_iff.2 rfl)

end Reports

section Stages

variable {world : World} {arguments : List String} {role : Role} {stage : Stage} {report : Report}
  {defaultPath changedPath path : String} {content : Bytes}

/-- Only two operands are the right usage. -/
theorem exists_operands (usage : IsClear world arguments .usage) :
    ∃ defaultPath changedPath, operands arguments = [defaultPath, changedPath] := by
  refine List.length_eq_two.1 ?_
  by_contra wrong
  exact usage _ (.usage wrong)

/-- The first of two operands names the default, and the second the changed side. -/
theorem names_of_operands (given : operands arguments = [defaultPath, changedPath]) :
    operandOf? arguments .default = some defaultPath ∧
      operandOf? arguments .changed = some changedPath := by
  simp [operandOf?, given]

/-- A side holds what is in the file that its operand names. -/
theorem holds_iff (named : operandOf? arguments role = some path) :
    Holds world arguments role content ↔ world.readFile path = .ok content := by
  simp [Holds, named]

/-- A side holds one content. -/
theorem Holds.unique {other : Bytes} (holds : Holds world arguments role content)
    (holdsOther : Holds world arguments role other) : content = other := by
  obtain ⟨path, named, read⟩ := holds
  rw [holds_iff named, read] at holdsOther
  exact Except.ok.inj holdsOther

/-- Reading fails where the file of a side cannot be read, with the report of that file. -/
theorem failsAt_reading_iff (named : operandOf? arguments role = some path) :
    FailsAt world arguments (.reading role) report ↔ readInput world path = .error report := by
  rw [readInput, mapError_eq_error]
  constructor
  · intro fails
    cases fails with
    | unreadable otherNamed unreadable =>
      obtain rfl := Option.some.inj (named.symm.trans otherNamed)
      exact ⟨_, unreadable, rfl⟩
  · rintro ⟨fault, unreadable, rfl⟩
    exact .unreadable named unreadable

/-- A side that is named holds something if reading it does not fail. -/
theorem exists_holds (usage : IsClear world arguments .usage)
    (reading : IsClear world arguments (.reading role)) :
    ∃ content, Holds world arguments role content := by
  have isNamed : ∃ path, operandOf? arguments role = some path := by
    obtain ⟨defaultPath, changedPath, given⟩ := exists_operands usage
    obtain ⟨namesDefault, namesChanged⟩ := names_of_operands given
    cases role with
    | default => exact ⟨defaultPath, namesDefault⟩
    | changed => exact ⟨changedPath, namesChanged⟩
  obtain ⟨path, named⟩ := isNamed
  cases read : world.readFile path with
  | ok content => exact ⟨content, path, named, read⟩
  | error fault => exact absurd (.unreadable named read) (reading _)

/-- Decoding fails in a strict merge where a side is refused, with the report of that side. -/
theorem failsAt_decoding_iff : FailsAt world arguments (.decoding role) report ↔
    strictOption ∈ arguments ∧ ∃ content cause, Holds world arguments role content ∧
      IsRefused content cause ∧ mergeReport ⟨role, cause⟩ = report := by
  constructor
  · intro fails
    cases fails with
    | malformed isStrict holds refused => exact ⟨isStrict, _, _, holds, refused, rfl⟩
    | notAnObject isStrict holds refused => exact ⟨isStrict, _, _, holds, refused, rfl⟩
  · rintro ⟨isStrict, content, cause, holds, refused, rfl⟩
    cases cause with
    | malformed fault => exact .malformed isStrict holds refused
    | notAnObject found => exact .notAnObject isStrict holds refused

/-- A side of a strict merge can be used if decoding it does not fail. -/
theorem Holds.isUsable (holds : Holds world arguments role content)
    (isStrict : strictOption ∈ arguments) (decoding : IsClear world arguments (.decoding role)) :
    IsUsable content := by
  refine (isUsable_or_isRefused content).resolve_right ?_
  rintro ⟨cause, refused⟩
  exact decoding _ (failsAt_decoding_iff.2 ⟨isStrict, content, cause, holds, refused, rfl⟩)

/-- Of the stages that fail one is the first. -/
theorem FailsAt.exists_first (fails : FailsAt world arguments stage report) :
    ∃ first firstReport, FailsFirst world arguments first firstReport := by
  -- Places are numbers, so one of the places at which it fails is the least.
  obtain ⟨first, ⟨firstReport, firstFails⟩, least⟩ := (measure Stage.place).wf.has_min
    {stage | ∃ report, FailsAt world arguments stage report} ⟨stage, report, fails⟩
  exact ⟨first, firstReport, firstFails, fun earlier before other otherFails =>
    least earlier ⟨other, otherFails⟩ before⟩

/-- A merge ends in one of the two ways. -/
theorem exists_ends (world : World) (arguments : List String) :
    ∃ result, Ends world arguments result := by
  by_cases fails : ∃ stage report, FailsAt world arguments stage report
  · obtain ⟨stage, report, fails⟩ := fails
    obtain ⟨first, firstReport, isFirst⟩ := fails.exists_first
    exact ⟨_, .reports isFirst (shownAs_iff.2 rfl)⟩
  · have clear : ∀ stage, IsClear world arguments stage :=
      fun stage report failsHere => fails ⟨stage, report, failsHere⟩
    obtain ⟨default, holdsDefault⟩ := exists_holds (clear .usage) (clear (.reading .default))
    obtain ⟨changed, holdsChanged⟩ := exists_holds (clear .usage) (clear (.reading .changed))
    exact ⟨_, .prints clear holdsDefault holdsChanged⟩

end Stages

section Command

variable {world : World} {arguments : List String} {stage : Stage} {report : Report}
  {result : Outcome}

/-- A merge of other than two files is reported as such. -/
theorem runMerge_of_usage (wrong : (operands arguments).length ≠ 2) : runMerge world arguments =
    .error ⟨"Usage: operand merge <default.json> <changed.json> [--strict]", []⟩ := by
  unfold runMerge
  split
  · rename_i defaultPath changedPath given
    exact absurd (congrArg List.length given) wrong
  · rfl

/-- What a merge of two files reports: that a file cannot be read, or the fault of the strict merge
of what they hold. -/
theorem runMerge_eq_error_iff (usage : IsClear world arguments .usage) :
    runMerge world arguments = .error report ↔
      FailsAt world arguments (.reading .default) report ∨
        ∃ default, Holds world arguments .default default ∧
          (FailsAt world arguments (.reading .changed) report ∨
            ∃ changed, Holds world arguments .changed changed ∧ strictOption ∈ arguments ∧
              ∃ fault, mergeStrict default changed = .error fault ∧
                mergeReport fault = report) := by
  obtain ⟨defaultPath, changedPath, given⟩ := exists_operands usage
  obtain ⟨namesDefault, namesChanged⟩ := names_of_operands given
  simp only [failsAt_reading_iff namesDefault, failsAt_reading_iff namesChanged,
    holds_iff namesDefault, holds_iff namesChanged, ← readInput_eq_ok_iff]
  rw [operands] at given
  rw [runMerge, given]
  simp only [bind_eq_error]
  refine or_congr_right (exists_congr fun default => and_congr_right fun _ => ?_)
  refine or_congr_right (exists_congr fun changed => and_congr_right fun _ => ?_)
  by_cases isStrict : strictOption ∈ arguments
  · cases strict : mergeStrict default changed <;> simp [isStrict]
  · simp [isStrict]

/-- The strict merge of what both sides hold stops at the first side whose decoding fails. -/
theorem FailsFirst.mergeStrict_eq {role : Role} {content default changed : Bytes}
    {cause : DecodeFault} (first : FailsFirst world arguments (.decoding role) report)
    (isStrict : strictOption ∈ arguments) (holds : Holds world arguments role content)
    (refused : IsRefused content cause) (holdsDefault : Holds world arguments .default default)
    (holdsChanged : Holds world arguments .changed changed) :
    mergeStrict default changed = .error ⟨role, cause⟩ := by
  rw [mergeStrict_eq_error_iff]
  cases role with
  | default =>
    obtain rfl := holds.unique holdsDefault
    exact Or.inl (readSide_of_isRefused refused)
  | changed =>
    obtain rfl := holds.unique holdsChanged
    have usable := holdsDefault.isUsable isStrict (first.clear (.decoding .default) (by decide))
    exact Or.inr ⟨isUsable_iff.1 usable, readSide_of_isRefused refused⟩

/-- A merge reports the first stage that fails. -/
theorem FailsFirst.runMerge_eq (first : FailsFirst world arguments stage report) :
    runMerge world arguments = .error report := by
  -- What is read and decoded before the stage is there, since no stage before it fails.
  cases stage with
  | usage =>
    cases first.fails with
    | usage wrong => exact runMerge_of_usage wrong
  | reading role =>
    have usage := first.clear .usage (by cases role <;> decide)
    rw [runMerge_eq_error_iff usage]
    cases role with
    | default => exact Or.inl first.fails
    | changed =>
      obtain ⟨default, holdsDefault⟩ :=
        exists_holds usage (first.clear (.reading .default) (by decide))
      exact Or.inr ⟨default, holdsDefault, Or.inl first.fails⟩
  | decoding role =>
    have usage := first.clear .usage (by cases role <;> decide)
    have readings (other : Role) : IsClear world arguments (.reading other) :=
      first.clear (.reading other) (by cases role <;> cases other <;> decide)
    obtain ⟨default, holdsDefault⟩ := exists_holds usage (readings .default)
    obtain ⟨changed, holdsChanged⟩ := exists_holds usage (readings .changed)
    obtain ⟨isStrict, content, cause, holds, refused, rfl⟩ := failsAt_decoding_iff.1 first.fails
    have stops := first.mergeStrict_eq isStrict holds refused holdsDefault holdsChanged
    exact (runMerge_eq_error_iff usage).2 (Or.inr
      ⟨default, holdsDefault, Or.inr ⟨changed, holdsChanged, isStrict, _, stops, rfl⟩⟩)

/-- A merge has the outcome with which it ends. -/
theorem Ends.outcome_eq (ends : Ends world arguments result) :
    outcome world ("merge" :: arguments) = result := by
  cases ends with
  | reports first shown =>
    have ran : run world ("merge" :: arguments) = .error _ := first.runMerge_eq
    rw [outcome, ran, ← shownAs_iff.1 shown]
  | @prints default changed clear holdsDefault holdsChanged =>
    obtain ⟨defaultPath, changedPath, given⟩ := exists_operands (clear .usage)
    obtain ⟨namesDefault, namesChanged⟩ := names_of_operands given
    have merges : MergesFiles arguments (arguments.contains strictOption) defaultPath changedPath :=
      ⟨given, rfl⟩
    have usable (strict : arguments.contains strictOption = true) :
        IsUsable default ∧ IsUsable changed :=
      have isStrict := List.contains_iff_mem.1 strict
      ⟨holdsDefault.isUsable isStrict (clear _), holdsChanged.isUsable isStrict (clear _)⟩
    exact outcome_of_mergesTo merges ((holds_iff namesDefault).1 holdsDefault)
      ((holds_iff namesChanged).1 holdsChanged) (mergesTo_iff.2 ⟨usable, rfl⟩)

end Command

section SameOperands

variable {world otherWorld : World} {arguments otherArguments : List String} {role : Role}
  {stage : Stage} {report : Report} {path : String} {content : Bytes} {result : Outcome}

/-- Having the same operands and files is symmetric. -/
theorem SameOperands.symm (same : SameOperands world arguments otherWorld otherArguments) :
    SameOperands otherWorld otherArguments world arguments :=
  ⟨same.given.symm, fun path isGiven => (same.files path (same.given ▸ isGiven)).symm⟩

/-- The same operand names a side. -/
theorem SameOperands.operandOf?_eq (same : SameOperands world arguments otherWorld otherArguments)
    (role : Role) : operandOf? otherArguments role = operandOf? arguments role := by
  cases role <;> rw [operandOf?, operandOf?, same.given]

/-- The same is in the file that names a side. -/
theorem SameOperands.readFile_eq (same : SameOperands world arguments otherWorld otherArguments)
    (named : operandOf? arguments role = some path) :
    otherWorld.readFile path = world.readFile path := by
  refine same.files path ?_
  cases role with
  | default => exact List.mem_of_getElem? named
  | changed => exact List.mem_of_getElem? named

/-- A side of the other merge holds the same. -/
theorem Holds.carry (holds : Holds world arguments role content)
    (same : SameOperands world arguments otherWorld otherArguments) :
    Holds otherWorld otherArguments role content := by
  obtain ⟨path, named, read⟩ := holds
  exact ⟨path, (same.operandOf?_eq role).trans named, (same.readFile_eq named).trans read⟩

/-- Where a merge fails, one that is as strict fails in the same way. -/
theorem FailsAt.carry (fails : FailsAt world arguments stage report)
    (same : SameOperands world arguments otherWorld otherArguments)
    (option : strictOption ∈ arguments → strictOption ∈ otherArguments) :
    FailsAt otherWorld otherArguments stage report := by
  cases fails with
  | usage wrong => exact .usage (same.given ▸ wrong)
  | unreadable named unreadable =>
    exact .unreadable ((same.operandOf?_eq _).trans named)
      ((same.readFile_eq named).trans unreadable)
  | malformed isStrict holds refused =>
    exact .malformed (option isStrict) (holds.carry same) refused
  | notAnObject isStrict holds refused =>
    exact .notAnObject (option isStrict) (holds.carry same) refused

/-- Where a merge does not fail, one that is no stricter does not fail. -/
theorem IsClear.carry (clear : IsClear world arguments stage)
    (same : SameOperands world arguments otherWorld otherArguments)
    (option : strictOption ∈ otherArguments → strictOption ∈ arguments) :
    IsClear otherWorld otherArguments stage :=
  fun report fails => clear report (fails.carry same.symm option)

/-- A merge that is just as strict ends in the same way. -/
theorem Ends.carry (ends : Ends world arguments result)
    (same : SameOperands world arguments otherWorld otherArguments)
    (option : strictOption ∈ otherArguments ↔ strictOption ∈ arguments) :
    Ends otherWorld otherArguments result := by
  cases ends with
  | reports first shown =>
    exact .reports ⟨first.fails.carry same option.2,
      fun earlier before => (first.clear earlier before).carry same option.1⟩ shown
  | prints clear holdsDefault holdsChanged =>
    exact .prints (fun stage => (clear stage).carry same option.1) (holdsDefault.carry same)
      (holdsChanged.carry same)

end SameOperands

/-- A merge of two files ends with the first stage that fails, or with the merged document; of the
option only its presence counts, and only for whether decoding can fail. -/
theorem endsByPrecedence (world : World) (arguments : List String) :
    EndsByPrecedence world arguments := by
  obtain ⟨result, ends⟩ := exists_ends world arguments
  have isOutcome := ends.outcome_eq
  refine ⟨fun other => ⟨Ends.outcome_eq, ?_⟩, ?_, ?_⟩
  · rintro rfl
    rwa [isOutcome]
  · intro otherWorld otherArguments same option
    rw [isOutcome]
    exact (ends.carry same option).outcome_eq
  · intro otherWorld otherArguments same lenient succeeds
    rw [isOutcome] at succeeds ⊢
    cases ends with
    | reports first shown => cases succeeds
    | prints clear holdsDefault holdsChanged =>
      have isClear (stage : Stage) : IsClear otherWorld otherArguments stage :=
        (clear stage).carry same fun isStrict => absurd isStrict lenient
      exact (Ends.prints isClear (holdsDefault.carry same) (holdsChanged.carry same)).outcome_eq

-- The second file is missing. That the first is no JSON text comes later and is not reported.
example : outcome ⟨fun path =>
      if path = "broken.json" then .ok [Ascii.openBrace] else .error .notFound, fun _ => none⟩
    ["merge", "--strict", "broken.json", "--strict", "none.json"] =
    ⟨1, "", "Error: Failed to read none.json\n\nCaused by:\n" ++
      "    No such file or directory (os error 2)\n"⟩ :=
  rfl

end OperatorKit.CommandLine
