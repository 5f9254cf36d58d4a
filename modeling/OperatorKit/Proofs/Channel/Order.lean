import Mathlib.Data.Nat.Find
import OperatorKit.Proofs.Channel.Outcomes

/-!
# The order of channels

Being newer is a strict order on all names, although a comparison stops at the first difference and
is driven by one side only: a name that is newer is so at a position where everything before it was
read alike on both sides. Among names whose pieces are all integers, none of them negative, the
order leaves apart only names that say the same up to zeros at the end.
-/

namespace OperatorKit.Channel

/-- The first name compares as strictly newer than the other one. -/
def Newer (channel other : String) : Prop :=
  isNewer channel other = .ok true

/-- Neither of two names is newer. -/
def NeitherNewer (channel other : String) : Prop :=
  ¬ Newer channel other ∧ ¬ Newer other channel

/-- No component is negative. -/
def Version.IsCounting (version : Version) : Prop :=
  ∀ component ∈ version.components, 0 ≤ component

/-- The components are the same once the shorter list is padded with zeros. -/
def Version.SamePadded (version other : Version) : Prop :=
  version.components.rightpad other.components.length 0 =
    other.components.rightpad version.components.length 0

/-- Every piece of the name is an integer, and none is negative. -/
def IsCounted (channel : String) : Prop :=
  ∃ version, Version.parse channel = .ok version ∧ version.IsCounting

/-- One of three statements holds and the other two do not. -/
def ExactlyOne (first second third : Prop) : Prop :=
  (first ∧ ¬ second ∧ ¬ third) ∨ (¬ first ∧ second ∧ ¬ third) ∨ (¬ first ∧ ¬ second ∧ third)

/-- If neither of the first two holds the third does. -/
theorem ExactlyOne.neither_iff {first second third : Prop} (one : ExactlyOne first second third) :
    ¬ first ∧ ¬ second ↔ third := by
  unfold ExactlyOne at one
  tauto

section Padding

/-- Padding with zeros changes no component. -/
theorem getD_rightpad (components : List Int) (length position : Nat) :
    (components.rightpad length 0).getD position 0 = components.getD position 0 := by
  rw [List.rightpad, List.getD_eq_getElem?_getD, List.getD_eq_getElem?_getD, List.getElem?_append]
  split
  · rfl
  · rename_i behind
    rw [List.getElem?_eq_none (Nat.not_lt.1 behind), List.getElem?_replicate]
    split <;> rfl

variable {version other : Version}

/-- Versions are the same when padded if they have the same components at all positions. -/
theorem samePadded_iff : version.SamePadded other ↔
    ∀ position, version.components.getD position 0 = other.components.getD position 0 := by
  constructor
  · intro same position
    rw [← getD_rightpad _ other.components.length, same, getD_rightpad]
  · intro same
    apply List.ext_getElem
    · rw [List.length_rightpad, List.length_rightpad, Nat.max_comm]
    · intro position before otherBefore
      rw [List.getElem_eq_getD 0, List.getElem_eq_getD 0, getD_rightpad, getD_rightpad,
        same position]

/-- Being the same when padded has no direction. -/
theorem Version.SamePadded.symm (same : version.SamePadded other) : other.SamePadded version :=
  Eq.symm same

/-- No component of a counting version is negative, also where one is missing. -/
theorem Version.IsCounting.getD_nonneg (counting : version.IsCounting) (position : Nat) :
    0 ≤ version.components.getD position 0 := by
  rw [List.getD_eq_getElem?_getD]
  cases found : version.components[position]? with
  | none => exact Int.le_refl 0
  | some component => exact counting component (List.mem_of_getElem? found)

end Padding

section Order

variable {channel other third : String}

/-- No name is newer than itself. -/
theorem not_newer_self (channel : String) : ¬ Newer channel channel := by
  intro newer
  obtain ⟨position, compared⟩ := isNewer_eq_true_iff.1 newer
  cases compare_eq_iff.1 compared with
  | newer below same mineRead theirsRead larger =>
    rw [mineRead, Except.ok.injEq] at theirsRead
    omega

/-- A name that is newer than a newer one is newer. -/
theorem Newer.trans (first : Newer channel other) (second : Newer other third) :
    Newer channel third := by
  obtain ⟨position, compared⟩ := isNewer_eq_true_iff.1 first
  obtain ⟨position', compared'⟩ := isNewer_eq_true_iff.1 second
  rw [Newer, isNewer_eq_true_iff]
  cases compare_eq_iff.1 compared with
  | @newer _ component middle below same mineRead theirsRead larger =>
    cases compare_eq_iff.1 compared' with
    | @newer _ middle' last below' same' mineRead' theirsRead' larger' =>
      -- The earlier one of the two differences decides.
      rcases Nat.lt_trichotomy position position' with earlier | rfl | later
      · obtain ⟨value, read, thirdRead⟩ := same' position earlier
        rw [theirsRead, Except.ok.injEq] at read
        subst read
        exact ⟨position, compare_eq_iff.2
          (.newer below (same.trans (same'.mono (Nat.le_of_lt earlier))) mineRead thirdRead larger)⟩
      · rw [theirsRead, Except.ok.injEq] at mineRead'
        subst mineRead'
        exact ⟨position, compare_eq_iff.2
          (.newer below (same.trans same') mineRead theirsRead' (Int.lt_trans larger' larger))⟩
      · obtain ⟨value, firstRead, read⟩ := same position' later
        rw [mineRead', Except.ok.injEq] at read
        subst read
        exact ⟨position', compare_eq_iff.2 (.newer (Nat.lt_trans later below)
          ((same.mono (Nat.le_of_lt later)).trans same') firstRead theirsRead' larger')⟩

/-- A name is found not to be newer than one that is newer than it. -/
theorem Newer.isNewer_eq_false (newer : Newer channel other) : isNewer other channel = .ok false := by
  obtain ⟨position, compared⟩ := isNewer_eq_true_iff.1 newer
  cases compare_eq_iff.1 compared with
  | newer below same mineRead theirsRead larger =>
    by_cases present : position < (pieces other).length
    · have older : compare other channel = .ok (.older position) :=
        compare_eq_iff.2 (.older present same.symm theirsRead mineRead larger)
      rw [isNewer, older]
      rfl
    · -- The other name ends before the difference.
      have level : compare other channel = .ok .level :=
        compare_eq_iff.2 (.level (same.symm.mono (Nat.not_lt.1 present)))
      rw [isNewer, level]
      rfl

/-- Of two names only one can be newer. -/
theorem Newer.asymm (newer : Newer channel other) : ¬ Newer other channel := by
  intro opposite
  have isFalse := newer.isNewer_eq_false
  rw [opposite] at isFalse
  cases isFalse

end Order

section Counting

variable {channel other : String} {version otherVersion : Version}

/-- An accepted name is newer than another one if the first difference is in its favour and the
other one is not negative there. -/
theorem newer_of_difference (parsed : Version.parse channel = .ok version)
    (otherParsed : Version.parse other = .ok otherVersion) {position : Nat}
    (same : ∀ earlier < position,
      version.components.getD earlier 0 = otherVersion.components.getD earlier 0)
    (larger : otherVersion.components.getD position 0 < version.components.getD position 0)
    (nonneg : 0 ≤ otherVersion.components.getD position 0) : Newer channel other := by
  have below : position < (pieces channel).length := by
    apply Nat.lt_of_not_le
    intro behind
    rw [Version.length_of_parse parsed] at behind
    have missing : version.components.getD position 0 = 0 := by
      rw [List.getD_eq_getElem?_getD, List.getElem?_eq_none behind, Option.getD_none]
    omega
  have sameRead : SameBelow (pieces channel) (pieces other) position := by
    intro earlier before
    have otherRead := Version.reading_of_parse otherParsed earlier
    rw [← same earlier before] at otherRead
    exact ⟨_, Version.reading_of_parse parsed earlier, otherRead⟩
  exact isNewer_eq_true_iff.2 ⟨position, compare_eq_iff.2
    (.newer below sameRead (Version.reading_of_parse parsed position)
      (Version.reading_of_parse otherParsed position) larger)⟩

/-- Of two accepted names without negative components one is newer, or they are the same when
padded. -/
theorem newer_or_samePadded (parsed : Version.parse channel = .ok version)
    (otherParsed : Version.parse other = .ok otherVersion) (counting : version.IsCounting)
    (otherCounting : otherVersion.IsCounting) :
    Newer channel other ∨ Newer other channel ∨ version.SamePadded otherVersion := by
  by_cases alike : ∀ position,
      version.components.getD position 0 = otherVersion.components.getD position 0
  · exact Or.inr (Or.inr (samePadded_iff.2 alike))
  · have differs := not_forall.1 alike
    have same : ∀ earlier < Nat.find differs,
        version.components.getD earlier 0 = otherVersion.components.getD earlier 0 :=
      fun earlier before => not_not.1 (Nat.find_min differs before)
    rcases Int.lt_or_gt_of_ne (Nat.find_spec differs) with smaller | larger
    · exact Or.inr (Or.inl (newer_of_difference otherParsed parsed
        (fun earlier before => (same earlier before).symm) smaller (counting.getD_nonneg _)))
    · exact Or.inl (newer_of_difference parsed otherParsed same larger
        (otherCounting.getD_nonneg _))

/-- Names whose versions are the same when padded are not newer than one another. -/
theorem not_newer_of_samePadded (parsed : Version.parse channel = .ok version)
    (otherParsed : Version.parse other = .ok otherVersion)
    (same : version.SamePadded otherVersion) : ¬ Newer channel other := by
  intro newer
  obtain ⟨position, compared⟩ := isNewer_eq_true_iff.1 newer
  cases compare_eq_iff.1 compared with
  | newer below _ mineRead theirsRead larger =>
    rw [Version.reading_of_parse parsed, Except.ok.injEq] at mineRead
    rw [Version.reading_of_parse otherParsed, Except.ok.injEq] at theirsRead
    have here := samePadded_iff.1 same position
    omega

/-- Of two accepted names without negative components exactly one is newer, or they are the same
when padded. -/
theorem exactlyOne_newer (parsed : Version.parse channel = .ok version)
    (otherParsed : Version.parse other = .ok otherVersion) (counting : version.IsCounting)
    (otherCounting : otherVersion.IsCounting) :
    ExactlyOne (Newer channel other) (Newer other channel) (version.SamePadded otherVersion) := by
  rcases newer_or_samePadded parsed otherParsed counting otherCounting with newer | newer | same
  · have notSame : ¬ version.SamePadded otherVersion :=
      fun same => not_newer_of_samePadded parsed otherParsed same newer
    exact Or.inl ⟨newer, newer.asymm, notSame⟩
  · have notSame : ¬ version.SamePadded otherVersion :=
      fun same => not_newer_of_samePadded otherParsed parsed same.symm newer
    exact Or.inr (Or.inl ⟨newer.asymm, newer, notSame⟩)
  · exact Or.inr (Or.inr ⟨not_newer_of_samePadded parsed otherParsed same,
      not_newer_of_samePadded otherParsed parsed same.symm, same⟩)

/-- Of two accepted names without negative components neither is newer exactly if they are the same
when padded. -/
theorem neitherNewer_iff (parsed : Version.parse channel = .ok version)
    (otherParsed : Version.parse other = .ok otherVersion) (counting : version.IsCounting)
    (otherCounting : otherVersion.IsCounting) :
    NeitherNewer channel other ↔ version.SamePadded otherVersion :=
  (exactlyOne_newer parsed otherParsed counting otherCounting).neither_iff

/-- Among accepted names without negative components it is an equivalence that neither is newer. -/
theorem neitherNewer_equivalence :
    Equivalence fun channel other : { name : String // IsCounted name } =>
      NeitherNewer channel.1 other.1 where
  refl := fun channel => ⟨not_newer_self channel.1, not_newer_self channel.1⟩
  symm := fun neither => ⟨neither.2, neither.1⟩
  trans := by
    rintro ⟨first, firstVersion, firstParsed, firstCounting⟩
      ⟨second, secondVersion, secondParsed, secondCounting⟩
      ⟨third, thirdVersion, thirdParsed, thirdCounting⟩ firstSecond secondThird
    rw [neitherNewer_iff firstParsed secondParsed firstCounting secondCounting,
      samePadded_iff] at firstSecond
    rw [neitherNewer_iff secondParsed thirdParsed secondCounting thirdCounting,
      samePadded_iff] at secondThird
    rw [neitherNewer_iff firstParsed thirdParsed firstCounting thirdCounting, samePadded_iff]
    intro position
    rw [firstSecond position, secondThird position]

end Counting

/-- Being newer is a strict order on all names, and the opposite comparison never fails. Of two
accepted names without negative components exactly one is newer or both are the same when padded,
and neither being newer is an equivalence. -/
theorem newer_strictOrder :
    (∀ channel, ¬ Newer channel channel) ∧
    (∀ first second third, Newer first second → Newer second third → Newer first third) ∧
    (∀ channel other, Newer channel other → isNewer other channel = .ok false) ∧
    (∀ channel other version otherVersion, Version.parse channel = .ok version →
      Version.parse other = .ok otherVersion → version.IsCounting → otherVersion.IsCounting →
        ExactlyOne (Newer channel other) (Newer other channel)
          (version.SamePadded otherVersion)) ∧
    Equivalence fun channel other : { name : String // IsCounted name } =>
      NeitherNewer channel.1 other.1 :=
  ⟨not_newer_self, fun _ _ _ => Newer.trans, fun _ _ => Newer.isNewer_eq_false,
    fun _ _ _ _ => exactlyOne_newer, neitherNewer_equivalence⟩

-- With a negative component neither may be newer although the versions differ.
example : isNewer "v1" "v1.0.-5" = .ok false ∧ isNewer "v1.0.-5" "v1" = .ok false :=
  ⟨rfl, rfl⟩

/-- Three names of which later pieces are no integers or are missing, and two that are the same when
padded. -/
theorem newer_strictOrder_at_broken_tails :
    Newer "v3.2.x" "v3.1.-5" ∧ Newer "v3.1.-5" "stable-v2" ∧ Newer "v3.2.x" "stable-v2" ∧
      isNewer "stable-v2" "v3.2.x" = .ok false ∧
      Version.parse "v1" = .ok ⟨[1, 0]⟩ ∧ Version.parse "v1.0.0" = .ok ⟨[1, 0, 0]⟩ ∧
      ExactlyOne (Newer "v1" "v1.0.0") (Newer "v1.0.0" "v1")
        (Version.SamePadded ⟨[1, 0]⟩ ⟨[1, 0, 0]⟩) := by
  obtain ⟨-, transitive, opposite, exactlyOne, -⟩ := newer_strictOrder
  have first : Newer "v3.2.x" "v3.1.-5" := rfl
  have second : Newer "v3.1.-5" "stable-v2" := rfl
  have parsed : Version.parse "v1" = .ok ⟨[1, 0]⟩ := rfl
  have otherParsed : Version.parse "v1.0.0" = .ok ⟨[1, 0, 0]⟩ := rfl
  have both := transitive _ _ _ first second
  exact ⟨first, second, both, opposite _ _ both, parsed, otherParsed,
    exactlyOne _ _ _ _ parsed otherParsed (by simp [Version.IsCounting])
      (by simp [Version.IsCounting])⟩

end OperatorKit.Channel
