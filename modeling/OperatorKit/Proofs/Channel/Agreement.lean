import OperatorKit.Proofs.Channel.Outcomes

/-!
# Comparing names and comparing versions

Two names can be compared piece by piece, reading no more than is needed, or by reading both of them
first. Wherever both ways are open they agree. A comparison of names that fails gives the fault of
one of the names; one that succeeds although a name is refused never came to what is wrong with it.
-/

namespace OperatorKit.Channel

/-- The first position of the first name at which the other one does not say the same. -/
structure FirstDifference (mine theirs : List (List Char)) (position : Nat) : Prop where
  below : position < mine.length
  differs : reading mine position ≠ reading theirs position
  same : ∀ earlier < position, reading mine earlier = reading theirs earlier

/-- At every position of the first name the other one says the same. -/
def NoDifference (mine theirs : List (List Char)) : Prop :=
  ∀ position < mine.length, reading mine position = reading theirs position

/-- What comparing two names reports; nothing if it fails. -/
def comparisonEvents (channel other : String) : List Event :=
  match compare channel other with
  | .ok verdict => verdict.events channel other
  | .error _ => []

section Reads

variable {mine theirs : List (List Char)} {position : Nat}

/-- Where the same integer was read on both sides there is no difference. -/
theorem SameBelow.reading_eq {limit : Nat} (same : SameBelow mine theirs limit)
    (before : position < limit) : reading mine position = reading theirs position := by
  obtain ⟨value, mineRead, theirsRead⟩ := same position before
  rw [mineRead, theirsRead]

/-- Where the same integer was read on both sides neither is bad. -/
theorem SameBelow.le_of_isBad {limit : Nat} (same : SameBelow mine theirs limit)
    (bad : IsBad mine position ∨ IsBad theirs position) : limit ≤ position := by
  apply Nat.le_of_not_lt
  intro before
  obtain ⟨value, mineRead, theirsRead⟩ := same position before
  exact bad.elim (not_isBad_iff.2 ⟨value, mineRead⟩) (not_isBad_iff.2 ⟨value, theirsRead⟩)

/-- Two integers that differ behind the same ones are the first difference, and what is bad comes
after them. -/
theorem firstDifference_of_reads {component otherComponent : Int} (below : position < mine.length)
    (same : SameBelow mine theirs position) (mineRead : reading mine position = .ok component)
    (theirsRead : reading theirs position = .ok otherComponent)
    (different : component ≠ otherComponent) :
    FirstDifference mine theirs position ∧
      ∀ bad, IsBad mine bad ∨ IsBad theirs bad → position < bad := by
  refine ⟨⟨below, ?_, fun _ before => same.reading_eq before⟩, fun bad isBad => ?_⟩
  · rw [mineRead, theirsRead]
    exact fun equal => different (Except.ok.inj equal)
  · apply Nat.lt_of_le_of_ne (same.le_of_isBad isBad)
    rintro rfl
    exact isBad.elim (not_isBad_iff.2 ⟨_, mineRead⟩) (not_isBad_iff.2 ⟨_, theirsRead⟩)

/-- There is one first difference. -/
theorem FirstDifference.unique {other : Nat} (first : FirstDifference mine theirs position)
    (second : FirstDifference mine theirs other) : position = other := by
  rcases Nat.lt_trichotomy position other with earlier | same | later
  · exact absurd (second.same position earlier) first.differs
  · exact same
  · exact absurd (first.same other later) second.differs

/-- Names without a difference have no first one. -/
theorem FirstDifference.not_noDifference (first : FirstDifference mine theirs position) :
    ¬ NoDifference mine theirs :=
  fun none => first.differs (none position first.below)

/-- A verdict on two integers, or on what follows them, favours the side that it should. -/
theorem isNewer_decided {component otherComponent : Int} {rest : Except VersionFault Verdict}
    {restNewer : Bool} (goesOn : rest.map Verdict.isNewer = .ok restNewer) :
    Except.map Verdict.isNewer
      (if otherComponent < component then .ok (.newer position)
        else if component < otherComponent then .ok (.older position) else rest) =
      .ok (if otherComponent < component then true
        else if component < otherComponent then false else restNewer) := by
  split
  · rfl
  · split
    · rfl
    · exact goesOn

/-- Pieces that are all integers are compared as the integers are. -/
theorem comparePieces_eq_isNewerList {channel other : String} {components others : List Int}
    (mineRead : ReadAs mine components) (theirsRead : ReadAs theirs others) :
    (comparePieces channel other position mine theirs).map Verdict.isNewer =
      .ok (isNewerList components others) := by
  induction mineRead generalizing theirs others position with
  | nil => rfl
  | @cons piece component mine components read _ inductionHypothesis =>
    rw [comparePieces, isNewerList, readPiece, read]
    cases theirsRead with
    | nil => exact isNewer_decided (inductionHypothesis .nil)
    | cons otherRead theirsRead =>
      simp only [readPiece, otherRead]
      exact isNewer_decided (inductionHypothesis theirsRead)

end Reads

/-- How comparing two names agrees with reading them. -/
structure AgreesWithReading (channel other : String) : Prop where
  /-- Accepted names compare as their versions do. -/
  accepted : ∀ version otherVersion, Version.parse channel = .ok version →
    Version.parse other = .ok otherVersion →
      isNewer channel other = .ok (version.isNewerThan otherVersion)
  /-- A comparison fails with the fault of one of the names, the first one if it is bad there. -/
  refused : ∀ fault, isNewer channel other = .error fault →
    (Version.parse channel = .error fault ∨ Version.parse other = .error fault) ∧
      (IsBad (pieces channel) fault.position → Version.parse channel = .error fault)
  /-- A comparison succeeds if what is bad comes after the first difference, or, without one, behind
  the first name. -/
  decided : (∃ newer, isNewer channel other = .ok newer) ↔
    (∃ position, FirstDifference (pieces channel) (pieces other) position ∧
      ∀ bad, IsBad (pieces channel) bad ∨ IsBad (pieces other) bad → position < bad) ∨
    (NoDifference (pieces channel) (pieces other) ∧
      (∃ version, Version.parse channel = .ok version) ∧
      ∀ bad, IsBad (pieces other) bad → (pieces channel).length ≤ bad)
  /-- That the first name is newer is reported with the first difference. -/
  reportsNewer : isNewer channel other = .ok true ↔
    ∃ position, FirstDifference (pieces channel) (pieces other) position ∧
      comparisonEvents channel other = [⟨.trace, "Channel v1 is newer",
        [("v1", channel), ("v2", other), ("position", toString position)]⟩]
  /-- That the first name is not newer is reported if there is no difference. -/
  reportsLevel : isNewer channel other = .ok false ∧ NoDifference (pieces channel) (pieces other) ↔
    comparisonEvents channel other =
      [⟨.trace, "Channel v1 is not newer", [("v1", channel), ("v2", other)]⟩]
  /-- Nothing else is reported. -/
  reportsNothing : comparisonEvents channel other = [] ↔
    isNewer channel other ≠ .ok true ∧
      ¬ (isNewer channel other = .ok false ∧ NoDifference (pieces channel) (pieces other))

section Agreement

variable {channel other : String}

/-- Accepted names compare as their versions do. -/
theorem isNewer_eq_isNewerThan {version otherVersion : Version}
    (parsed : Version.parse channel = .ok version)
    (otherParsed : Version.parse other = .ok otherVersion) :
    isNewer channel other = .ok (version.isNewerThan otherVersion) :=
  comparePieces_eq_isNewerList (Version.parse_eq_ok_iff.1 parsed)
    (Version.parse_eq_ok_iff.1 otherParsed)

/-- Asking for the newer name succeeds with what the verdict of the comparison tells. -/
theorem isNewer_eq_ok_iff {newer : Bool} : isNewer channel other = .ok newer ↔
    ∃ verdict, compare channel other = .ok verdict ∧ verdict.isNewer = newer := by
  unfold isNewer
  cases compare channel other <;> simp [Except.map]

/-- Asking for the newer name fails as the comparison does. -/
theorem isNewer_eq_error_iff {fault : VersionFault} :
    isNewer channel other = .error fault ↔ compare channel other = .error fault := by
  unfold isNewer
  cases compare channel other <;> simp [Except.map]

/-- A fault behind integers that are the same is the first one of the name. -/
theorem firstFault_of_sameBelow {mine theirs : List (List Char)} {position : Nat}
    {source : NumeralFault} (same : SameBelow mine theirs position)
    (bad : reading mine position = .error source) :
    FirstFault channel mine (faultAt channel mine position source) where
  clear := fun _ before isBad => absurd (same.le_of_isBad (Or.inl isBad)) (Nat.not_le.2 before)
  bad := bad
  named := rfl

/-- A comparison fails with the fault of one of the names, the first one if it is bad there. -/
theorem parse_of_isNewer_fails {fault : VersionFault} (failed : isNewer channel other = .error fault) :
    (Version.parse channel = .error fault ∨ Version.parse other = .error fault) ∧
      (IsBad (pieces channel) fault.position → Version.parse channel = .error fault) := by
  cases compare_eq_iff.1 (isNewer_eq_error_iff.1 failed) with
  | ownFault same bad =>
    have own := Version.parse_eq_error_iff.2 (firstFault_of_sameBelow same bad)
    exact ⟨Or.inl own, fun _ => own⟩
  | otherFault below same mineRead bad =>
    refine ⟨Or.inr (Version.parse_eq_error_iff.2 (firstFault_of_sameBelow same.symm bad)), ?_⟩
    exact fun isBad => absurd isBad (not_isBad_iff.2 ⟨_, mineRead⟩)

/-- A verdict of newer names the first difference, and what is bad comes after it. -/
theorem firstDifference_of_newer {position : Nat}
    (compared : compare channel other = .ok (.newer position)) :
    FirstDifference (pieces channel) (pieces other) position ∧
      ∀ bad, IsBad (pieces channel) bad ∨ IsBad (pieces other) bad → position < bad := by
  cases compare_eq_iff.1 compared with
  | newer below same mineRead theirsRead larger =>
    exact firstDifference_of_reads below same mineRead theirsRead (Int.ne_of_gt larger)

/-- A verdict of older names the first difference, and what is bad comes after it. -/
theorem firstDifference_of_older {position : Nat}
    (compared : compare channel other = .ok (.older position)) :
    FirstDifference (pieces channel) (pieces other) position ∧
      ∀ bad, IsBad (pieces channel) bad ∨ IsBad (pieces other) bad → position < bad := by
  cases compare_eq_iff.1 compared with
  | older below same mineRead theirsRead smaller =>
    exact firstDifference_of_reads below same mineRead theirsRead (Int.ne_of_lt smaller)

/-- A level verdict means that there is no difference, and that what is bad comes behind the first
name. -/
theorem noDifference_of_level (compared : compare channel other = .ok .level) :
    NoDifference (pieces channel) (pieces other) ∧
      ∀ bad, IsBad (pieces channel) bad ∨ IsBad (pieces other) bad →
        (pieces channel).length ≤ bad := by
  cases compare_eq_iff.1 compared with
  | level same => exact ⟨fun _ => same.reading_eq, fun _ => same.le_of_isBad⟩

/-- A comparison fails at a position of the first name that is bad on one of the sides, behind
integers that are the same. -/
theorem isBad_of_fails {fault : VersionFault} (compared : compare channel other = .error fault) :
    fault.position < (pieces channel).length ∧
      SameBelow (pieces channel) (pieces other) fault.position ∧
      (IsBad (pieces channel) fault.position ∨ IsBad (pieces other) fault.position) := by
  cases compare_eq_iff.1 compared with
  | ownFault same bad => exact ⟨IsBad.lt_length ⟨_, bad⟩, same, Or.inl ⟨_, bad⟩⟩
  | otherFault below same _ bad => exact ⟨below, same, Or.inr ⟨_, bad⟩⟩

/-- A comparison succeeds exactly if nothing is bad before it is decided. -/
theorem exists_isNewer_iff : (∃ newer, isNewer channel other = .ok newer) ↔
    (∃ position, FirstDifference (pieces channel) (pieces other) position ∧
      ∀ bad, IsBad (pieces channel) bad ∨ IsBad (pieces other) bad → position < bad) ∨
    (NoDifference (pieces channel) (pieces other) ∧
      (∃ version, Version.parse channel = .ok version) ∧
      ∀ bad, IsBad (pieces other) bad → (pieces channel).length ≤ bad) := by
  unfold isNewer
  cases compared : compare channel other with
  | ok verdict =>
    refine ⟨fun _ => ?_, fun _ => ⟨verdict.isNewer, rfl⟩⟩
    cases verdict with
    | newer position => exact Or.inl ⟨position, firstDifference_of_newer compared⟩
    | older position => exact Or.inl ⟨position, firstDifference_of_older compared⟩
    | level =>
      obtain ⟨none, badBehind⟩ := noDifference_of_level compared
      refine Or.inr ⟨none, Version.exists_parse_iff.2 ?_, fun bad => badBehind bad ∘ Or.inr⟩
      intro position isBad
      exact absurd isBad.lt_length (Nat.not_lt.2 (badBehind position (Or.inl isBad)))
  | error fault =>
    obtain ⟨below, same, isBad⟩ := isBad_of_fails compared
    constructor
    · rintro ⟨newer, succeeds⟩
      cases succeeds
    · rintro (⟨position, first, badAfter⟩ | ⟨-, accepted, badBehind⟩)
      · exact absurd (same.reading_eq (badAfter _ isBad)) first.differs
      · rcases isBad with isBad | isBad
        · exact absurd isBad (Version.exists_parse_iff.1 accepted _)
        · exact absurd below (Nat.not_lt.2 (badBehind _ isBad))

/-- That the first name is newer is reported with the first difference. -/
theorem isNewer_iff_reported : isNewer channel other = .ok true ↔
    ∃ position, FirstDifference (pieces channel) (pieces other) position ∧
      comparisonEvents channel other = (Verdict.newer position).events channel other := by
  unfold isNewer comparisonEvents
  cases compared : compare channel other with
  | error fault => simp [Except.map, Verdict.events]
  | ok verdict =>
    cases verdict with
    | newer position =>
      exact ⟨fun _ => ⟨position, (firstDifference_of_newer compared).1, rfl⟩, fun _ => rfl⟩
    | older position => simp [Except.map, Verdict.events, Verdict.isNewer]
    | level => simp [Except.map, Verdict.events, Verdict.isNewer]

/-- That the first name is not newer is reported if there is no difference. -/
theorem level_iff_reported :
    isNewer channel other = .ok false ∧ NoDifference (pieces channel) (pieces other) ↔
      comparisonEvents channel other = Verdict.level.events channel other := by
  unfold isNewer comparisonEvents
  cases compared : compare channel other with
  | error fault => simp [Except.map, Verdict.events]
  | ok verdict =>
    cases verdict with
    | newer position => simp [Except.map, Verdict.events, Verdict.isNewer]
    | older position =>
      have different := (firstDifference_of_older compared).1.not_noDifference
      simp [Except.map, Verdict.events, different]
    | level => simp [Except.map, Verdict.isNewer, (noDifference_of_level compared).1]

/-- Nothing is reported where neither of the two reports is due. -/
theorem comparisonEvents_eq_nil_iff : comparisonEvents channel other = [] ↔
    isNewer channel other ≠ .ok true ∧
      ¬ (isNewer channel other = .ok false ∧ NoDifference (pieces channel) (pieces other)) := by
  unfold isNewer comparisonEvents
  cases compared : compare channel other with
  | error fault => simp [Except.map]
  | ok verdict =>
    cases verdict with
    | newer position => simp [Except.map, Verdict.events, Verdict.isNewer]
    | older position =>
      have different := (firstDifference_of_older compared).1.not_noDifference
      simp [Except.map, Verdict.events, Verdict.isNewer, different]
    | level => simp [Except.map, Verdict.events, Verdict.isNewer, (noDifference_of_level compared).1]

/-- A comparison of two names agrees with reading them. -/
theorem agreesWithReading (channel other : String) : AgreesWithReading channel other where
  accepted := fun _ _ => isNewer_eq_isNewerThan
  refused := fun _ => parse_of_isNewer_fails
  decided := exists_isNewer_iff
  reportsNewer := isNewer_iff_reported
  reportsLevel := level_iff_reported
  reportsNothing := comparisonEvents_eq_nil_iff

end Agreement

/-- Two names that are bad at the same place, two that differ before a bad place, and two accepted
ones of which the second is longer. -/
theorem agreesWithReading_at_broken_pieces :
    let own : VersionFault := ⟨"v1.x", "x", 1, .invalidDigit⟩
    (isNewer "v1.x" "v1.y" = .error own ∧ IsBad (pieces "v1.x") 1 ∧
      Version.parse "v1.x" = .error own) ∧
    (isNewer "v2.0" "v1.x" = .ok true ∧ comparisonEvents "v2.0" "v1.x" =
      [⟨.trace, "Channel v1 is newer", [("v1", "v2.0"), ("v2", "v1.x"), ("position", "0")]⟩]) ∧
    (Version.parse "v3" = .ok ⟨[3, 0]⟩ ∧ Version.parse "v3.0.-1" = .ok ⟨[3, 0, -1]⟩ ∧
      isNewer "v3" "v3.0.-1" = .ok (Version.isNewerThan ⟨[3, 0]⟩ ⟨[3, 0, -1]⟩)) := by
  intro own
  have fails : isNewer "v1.x" "v1.y" = .error own := rfl
  have isBad : IsBad (pieces "v1.x") 1 := ⟨.invalidDigit, rfl⟩
  have newer : isNewer "v2.0" "v1.x" = .ok true := rfl
  have parsed : Version.parse "v3" = .ok ⟨[3, 0]⟩ := rfl
  have otherParsed : Version.parse "v3.0.-1" = .ok ⟨[3, 0, -1]⟩ := rfl
  refine ⟨⟨fails, isBad, ((agreesWithReading _ _).refused own fails).2 isBad⟩, ⟨newer, ?_⟩,
    parsed, otherParsed, (agreesWithReading _ _).accepted _ _ parsed otherParsed⟩
  obtain ⟨position, first, reported⟩ := (agreesWithReading _ _).reportsNewer.1 newer
  have atZero : FirstDifference (pieces "v2.0") (pieces "v1.x") 0 := by
    refine ⟨by decide, ?_, fun _ before => absurd before (Nat.not_lt_zero _)⟩
    intro same
    cases same
  rw [reported, first.unique atZero]
  rfl

end OperatorKit.Channel
