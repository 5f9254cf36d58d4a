import OperatorKit.Proofs.Channel.Agreement

/-!
# How far a comparison reaches

A comparison never looks behind the piece that decides it, nor behind the last piece of the first
name. Names that agree up to there compare alike, whatever follows; a piece that the second name
lacks may be filled in with one that reads as zero.
-/

namespace OperatorKit.Channel

/-- Below a limit the second list has the pieces of the first one, and none where that has none. -/
def SamePieces (pieces others : List (List Char)) (limit : Nat) : Prop :=
  ∀ position < limit, others[position]? = pieces[position]?

/-- Below a limit the second list has the pieces of the first one; where that has none it has none
either, or a piece that reads as zero. -/
def StandsIn (pieces others : List (List Char)) (limit : Nat) : Prop :=
  ∀ position < limit, others[position]? = pieces[position]? ∨
    pieces[position]? = none ∧ ∃ piece, others[position]? = some piece ∧ readInteger piece = .ok 0

/-- What the comparison of two names leaves out of account. -/
structure IgnoresTails (channel other : String) : Prop where
  /-- A difference decides for all names that agree up to and including its position. -/
  decided : ∀ newer position variant otherVariant, isNewer channel other = .ok newer →
    FirstDifference (pieces channel) (pieces other) position →
    SamePieces (pieces channel) (pieces variant) (position + 1) →
    StandsIn (pieces other) (pieces otherVariant) (position + 1) →
      isNewer variant otherVariant = .ok newer
  /-- Without a difference the second name counts only as far as the first one goes. -/
  level : ∀ otherVariant, isNewer channel other = .ok false →
    NoDifference (pieces channel) (pieces other) →
    StandsIn (pieces other) (pieces otherVariant) (pieces channel).length →
      isNewer channel otherVariant = .ok false
  /-- So it does where the comparison fails, and then it fails for the same piece. -/
  failed : ∀ fault otherVariant, isNewer channel other = .error fault →
    StandsIn (pieces other) (pieces otherVariant) (pieces channel).length →
      ∃ otherFault, isNewer channel otherVariant = .error otherFault ∧
        otherFault.component = fault.component ∧ otherFault.position = fault.position ∧
        otherFault.source = fault.source

section Pieces

variable {pieces others mine theirs : List (List Char)} {limit position : Nat}

/-- The same pieces can stand in for each other. -/
theorem SamePieces.standsIn (same : SamePieces pieces others limit) :
    StandsIn pieces others limit :=
  fun position before => Or.inl (same position before)

/-- All pieces stand in for themselves. -/
theorem standsIn_self : StandsIn pieces pieces limit :=
  fun _ _ => Or.inl rfl

/-- Where there is a piece there is one in the same pieces. -/
theorem SamePieces.lt_length (same : SamePieces pieces others limit) (before : position < limit)
    (below : position < pieces.length) : position < others.length := by
  apply Nat.lt_of_not_le
  intro behind
  have missing := same position before
  rw [List.getElem?_eq_none behind] at missing
  exact absurd below (Nat.not_lt.2 (List.getElem?_eq_none_iff.1 missing.symm))

/-- Pieces that stand in for others read alike. -/
theorem StandsIn.reading_eq (standsIn : StandsIn pieces others limit) (before : position < limit) :
    reading others position = reading pieces position := by
  unfold reading
  rcases standsIn position before with same | ⟨missing, piece, found, isZero⟩
  · rw [same]
  · rw [missing, found]
    exact isZero

/-- A bad piece is the same piece in what stands in for it. -/
theorem StandsIn.getElem?_eq_of_isBad (standsIn : StandsIn pieces others limit)
    (before : position < limit) (bad : IsBad pieces position) :
    others[position]? = pieces[position]? := by
  rcases standsIn position before with same | ⟨missing, -⟩
  · exact same
  · exact absurd bad.lt_length (Nat.not_lt.2 (List.getElem?_eq_none_iff.1 missing))

/-- Pieces standing in for others on either side leave the integers below a position the same. -/
theorem SameBelow.standIn {variant otherVariant : List (List Char)} (same : SameBelow mine theirs position)
    (within : position ≤ limit) (standsIn : StandsIn mine variant limit)
    (otherStandsIn : StandsIn theirs otherVariant limit) : SameBelow variant otherVariant position := by
  intro earlier before
  have below := Nat.lt_of_lt_of_le before within
  rw [standsIn.reading_eq below, otherStandsIn.reading_eq below]
  exact same earlier before

end Pieces

section Variants

variable {channel other variant otherVariant : String} {position : Nat}

/-- Names that agree up to the first difference of two others come to the same verdict. -/
theorem compare_of_firstDifference {verdict : Verdict}
    (compared : compare channel other = .ok verdict)
    (first : FirstDifference (pieces channel) (pieces other) position)
    (same : SamePieces (pieces channel) (pieces variant) (position + 1))
    (standsIn : StandsIn (pieces other) (pieces otherVariant) (position + 1)) :
    compare variant otherVariant = .ok verdict := by
  have here := Nat.lt_succ_self position
  have within := Nat.le_succ position
  cases verdict with
  | newer decided =>
    obtain rfl := first.unique (firstDifference_of_newer compared).1
    cases compare_eq_iff.1 compared with
    | newer below sameBelow mineRead theirsRead larger =>
      rw [← same.standsIn.reading_eq here] at mineRead
      rw [← standsIn.reading_eq here] at theirsRead
      exact compare_eq_iff.2 (.newer (same.lt_length here below)
        (sameBelow.standIn within same.standsIn standsIn) mineRead theirsRead larger)
  | older decided =>
    obtain rfl := first.unique (firstDifference_of_older compared).1
    cases compare_eq_iff.1 compared with
    | older below sameBelow mineRead theirsRead smaller =>
      rw [← same.standsIn.reading_eq here] at mineRead
      rw [← standsIn.reading_eq here] at theirsRead
      exact compare_eq_iff.2 (.older (same.lt_length here below)
        (sameBelow.standIn within same.standsIn standsIn) mineRead theirsRead smaller)
  | level => exact absurd (noDifference_of_level compared).1 first.not_noDifference

/-- Names without a difference come to no other verdict than a level one. -/
theorem eq_level_of_noDifference {verdict : Verdict} (compared : compare channel other = .ok verdict)
    (none : NoDifference (pieces channel) (pieces other)) : verdict = .level := by
  cases verdict with
  | newer position => exact absurd none (firstDifference_of_newer compared).1.not_noDifference
  | older position => exact absurd none (firstDifference_of_older compared).1.not_noDifference
  | level => rfl

/-- A name that stands in for the second one as far as the first one goes leaves a level verdict. -/
theorem compare_of_level (compared : compare channel other = .ok .level)
    (standsIn : StandsIn (pieces other) (pieces otherVariant) (pieces channel).length) :
    compare channel otherVariant = .ok .level := by
  cases compare_eq_iff.1 compared with
  | level same =>
    exact compare_eq_iff.2 (.level (same.standIn (Nat.le_refl _) standsIn_self standsIn))

/-- A name that stands in for the second one as far as the first one goes fails for the same piece. -/
theorem compare_of_fails {fault : VersionFault} (compared : compare channel other = .error fault)
    (standsIn : StandsIn (pieces other) (pieces otherVariant) (pieces channel).length) :
    ∃ otherFault, compare channel otherVariant = .error otherFault ∧
      otherFault.component = fault.component ∧ otherFault.position = fault.position ∧
      otherFault.source = fault.source := by
  have alike : ∀ {position}, SameBelow (pieces channel) (pieces other) position →
      position < (pieces channel).length →
        SameBelow (pieces channel) (pieces otherVariant) position :=
    fun same below => same.standIn (Nat.le_of_lt below) standsIn_self standsIn
  cases compare_eq_iff.1 compared with
  | ownFault same bad =>
    have below := IsBad.lt_length ⟨_, bad⟩
    exact ⟨_, compare_eq_iff.2 (.ownFault (alike same below) bad), rfl, rfl, rfl⟩
  | otherFault below same mineRead bad =>
    have samePiece := standsIn.getElem?_eq_of_isBad below ⟨_, bad⟩
    rw [← standsIn.reading_eq below] at bad
    refine ⟨_, compare_eq_iff.2 (.otherFault below (alike same below) mineRead bad), ?_, rfl, rfl⟩
    simp only [faultAt, List.getD_eq_getElem?_getD, samePiece]

/-- A comparison is not changed by what follows the piece that decides it, or the last piece of the
first name. -/
theorem ignoresTails (channel other : String) : IgnoresTails channel other where
  decided newer position variant otherVariant succeeds first same standsIn := by
    obtain ⟨verdict, compared, told⟩ := isNewer_eq_ok_iff.1 succeeds
    exact isNewer_eq_ok_iff.2
      ⟨verdict, compare_of_firstDifference compared first same standsIn, told⟩
  level otherVariant succeeds none standsIn := by
    obtain ⟨verdict, compared, -⟩ := isNewer_eq_ok_iff.1 succeeds
    rw [eq_level_of_noDifference compared none] at compared
    exact isNewer_eq_ok_iff.2 ⟨.level, compare_of_level compared standsIn, rfl⟩
  failed fault otherVariant fails standsIn := by
    obtain ⟨otherFault, failsToo, samePiece⟩ :=
      compare_of_fails (isNewer_eq_error_iff.1 fails) standsIn
    exact ⟨otherFault, isNewer_eq_error_iff.2 failsToo, samePiece⟩

end Variants

/-- A difference behind the end of the second name, which a variant fills with a zero before it goes
on with what is no integer; a level verdict and a fault that a longer second name leaves alone. -/
theorem ignoresTails_at_broken_tails :
    (isNewer "v1.0.5" "v1" = .ok true ∧ FirstDifference (pieces "v1.0.5") (pieces "v1") 2 ∧
      SamePieces (pieces "v1.0.5") (pieces "beta-v1.0.5.x.") 3 ∧
      StandsIn (pieces "v1") (pieces "v1.0.-00.y") 3 ∧
      isNewer "beta-v1.0.5.x." "v1.0.-00.y" = .ok true) ∧
    (isNewer "v2" "v2" = .ok false ∧ NoDifference (pieces "v2") (pieces "v2") ∧
      StandsIn (pieces "v2") (pieces "v2.0.x") (pieces "v2").length ∧
      isNewer "v2" "v2.0.x" = .ok false) ∧
    (isNewer "v1.0" "v1.x" = .error ⟨"v1.x", "x", 1, .invalidDigit⟩ ∧
      StandsIn (pieces "v1.x") (pieces "v1.x.9") (pieces "v1.0").length ∧
      ∃ otherFault, isNewer "v1.0" "v1.x.9" = .error otherFault ∧ otherFault.component = "x" ∧
        otherFault.position = 1 ∧ otherFault.source = .invalidDigit) := by
  have newer : isNewer "v1.0.5" "v1" = .ok true := rfl
  have first : FirstDifference (pieces "v1.0.5") (pieces "v1") 2 := by
    refine ⟨by decide, ?_, ?_⟩
    · intro same
      cases same
    · intro earlier before
      match earlier, before with
      | 0, _ | 1, _ => rfl
  have same : SamePieces (pieces "v1.0.5") (pieces "beta-v1.0.5.x.") 3 := by
    intro position before
    match position, before with
    | 0, _ | 1, _ | 2, _ => rfl
  have standsIn : StandsIn (pieces "v1") (pieces "v1.0.-00.y") 3 := by
    intro position before
    match position, before with
    | 0, _ | 1, _ => exact Or.inl rfl
    | 2, _ => exact Or.inr ⟨rfl, _, rfl, rfl⟩
  have level : isNewer "v2" "v2" = .ok false := rfl
  have noDifference : NoDifference (pieces "v2") (pieces "v2") := fun _ _ => rfl
  have behindLevel : StandsIn (pieces "v2") (pieces "v2.0.x") (pieces "v2").length := by
    intro position before
    match position, before with
    | 0, _ | 1, _ => exact Or.inl rfl
  have fails : isNewer "v1.0" "v1.x" = .error ⟨"v1.x", "x", 1, .invalidDigit⟩ := rfl
  have behindFault : StandsIn (pieces "v1.x") (pieces "v1.x.9") (pieces "v1.0").length := by
    intro position before
    match position, before with
    | 0, _ | 1, _ => exact Or.inl rfl
  exact ⟨⟨newer, first, same, standsIn, (ignoresTails _ _).decided _ _ _ _ newer first same standsIn⟩,
    ⟨level, noDifference, behindLevel, (ignoresTails _ _).level _ level noDifference behindLevel⟩,
    fails, behindFault, (ignoresTails _ _).failed _ _ fails behindFault⟩

end OperatorKit.Channel
