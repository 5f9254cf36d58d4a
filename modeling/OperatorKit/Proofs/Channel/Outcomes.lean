import OperatorKit.Channel.Comparison
import OperatorKit.Proofs.Channel.Readings

/-!
# What a comparison comes to

A comparison goes through the positions at which both names have the same integer. `Outcome` says
how it ends from the first other position alone, or that there is none. The loop and the rules agree
in both directions, so a comparison is decided by them and they never leave it open.
-/

namespace OperatorKit.Channel

/-- Below a position both sides have the same integers. -/
def SameBelow (mine theirs : List (List Char)) (limit : Nat) : Prop :=
  ∀ position < limit, ∃ value,
    reading mine position = .ok value ∧ reading theirs position = .ok value

/-- How comparing the pieces of two names ends. -/
inductive Outcome (channel other : String) (mine theirs : List (List Char)) :
    Except VersionFault Verdict → Prop where
  | newer {position : Nat} {component otherComponent : Int} (below : position < mine.length)
      (same : SameBelow mine theirs position) (mineRead : reading mine position = .ok component)
      (theirsRead : reading theirs position = .ok otherComponent)
      (larger : otherComponent < component) : Outcome channel other mine theirs (.ok (.newer position))
  | older {position : Nat} {component otherComponent : Int} (below : position < mine.length)
      (same : SameBelow mine theirs position) (mineRead : reading mine position = .ok component)
      (theirsRead : reading theirs position = .ok otherComponent)
      (smaller : component < otherComponent) :
      Outcome channel other mine theirs (.ok (.older position))
  | level (same : SameBelow mine theirs mine.length) : Outcome channel other mine theirs (.ok .level)
  | ownFault {position : Nat} {source : NumeralFault} (same : SameBelow mine theirs position)
      (bad : reading mine position = .error source) :
      Outcome channel other mine theirs (.error (faultAt channel mine position source))
  | otherFault {position : Nat} {component : Int} {source : NumeralFault}
      (below : position < mine.length) (same : SameBelow mine theirs position)
      (mineRead : reading mine position = .ok component)
      (bad : reading theirs position = .error source) :
      Outcome channel other mine theirs (.error (faultAt other theirs position source))

section SameBelow

variable {mine theirs others : List (List Char)} {limit : Nat}

/-- Nothing lies below the first position. -/
theorem sameBelow_zero : SameBelow mine theirs 0 :=
  fun _ before => absurd before (Nat.not_lt_zero _)

/-- The same integers below a position are the same below an earlier one. -/
theorem SameBelow.mono {smaller : Nat} (same : SameBelow mine theirs limit)
    (earlier : smaller ≤ limit) : SameBelow mine theirs smaller :=
  fun position before => same position (Nat.lt_of_lt_of_le before earlier)

/-- Sameness has no direction. -/
theorem SameBelow.symm (same : SameBelow mine theirs limit) : SameBelow theirs mine limit := by
  intro position before
  obtain ⟨value, mineRead, theirsRead⟩ := same position before
  exact ⟨value, theirsRead, mineRead⟩

/-- Two lists with the integers of a third one have the same integers. -/
theorem SameBelow.trans (first : SameBelow mine theirs limit)
    (second : SameBelow theirs others limit) : SameBelow mine others limit := by
  intro position before
  obtain ⟨value, mineRead, theirsRead⟩ := first position before
  obtain ⟨other, theirsReadAgain, othersRead⟩ := second position before
  rw [theirsRead, Except.ok.injEq] at theirsReadAgain
  subst theirsReadAgain
  exact ⟨value, mineRead, othersRead⟩

/-- One more position with the same integer extends the sameness below it. -/
theorem sameBelow_succ : SameBelow mine theirs (limit + 1) ↔ SameBelow mine theirs limit ∧
    ∃ value, reading mine limit = .ok value ∧ reading theirs limit = .ok value := by
  constructor
  · intro same
    exact ⟨same.mono (Nat.le_succ limit), same limit (Nat.lt_succ_self limit)⟩
  · rintro ⟨same, here⟩ position before
    rcases Nat.lt_succ_iff_lt_or_eq.1 before with before | rfl
    · exact same position before
    · exact here

end SameBelow

section Comparing

variable {channel other : String} {mine theirs : List (List Char)} {position : Nat}

/-- One step of a comparison, over the pieces that remain at a position. -/
theorem comparePieces_step (below : position < mine.length) :
    comparePieces channel other position (mine.drop position) (theirs.drop position) =
      (readAt channel mine position >>= fun component =>
        readAt other theirs position >>= fun otherComponent =>
          if otherComponent < component then .ok (.newer position)
          else if component < otherComponent then .ok (.older position)
          else comparePieces channel other (position + 1) (mine.drop (position + 1))
            (theirs.drop (position + 1))) := by
  cases remaining : mine.drop position with
  | nil => exact absurd (List.drop_eq_nil_iff.1 remaining) (Nat.not_le.2 below)
  | cons piece more =>
    rw [comparePieces, readPiece_of_drop remaining, drop_succ_of_drop remaining, List.tail_drop]
    cases theirRemaining : theirs.drop position with
    | nil =>
      rw [readAt_of_ok (reading_of_length_le (List.drop_eq_nil_iff.1 theirRemaining))]
    | cons otherPiece others => simp only [readPiece_of_drop theirRemaining]

/-- Where both sides have an integer a comparison is decided by them, or goes on. -/
theorem comparePieces_of_reads {component otherComponent : Int} (below : position < mine.length)
    (mineRead : reading mine position = .ok component)
    (theirsRead : reading theirs position = .ok otherComponent) :
    comparePieces channel other position (mine.drop position) (theirs.drop position) =
      if otherComponent < component then .ok (.newer position)
      else if component < otherComponent then .ok (.older position)
      else comparePieces channel other (position + 1) (mine.drop (position + 1))
        (theirs.drop (position + 1)) := by
  rw [comparePieces_step below, readAt_of_ok mineRead, readAt_of_ok theirsRead]
  rfl

/-- A comparison goes on from any position below which both sides are the same. -/
theorem comparePieces_skip (below : position ≤ mine.length) (same : SameBelow mine theirs position) :
    comparePieces channel other 0 mine theirs =
      comparePieces channel other position (mine.drop position) (theirs.drop position) := by
  induction position with
  | zero => rfl
  | succ position inductionHypothesis =>
    obtain ⟨sameBefore, value, mineRead, theirsRead⟩ := sameBelow_succ.1 same
    rw [inductionHypothesis (Nat.le_of_succ_le below) sameBefore,
      comparePieces_of_reads below mineRead theirsRead, if_neg (Int.lt_irrefl value),
      if_neg (Int.lt_irrefl value)]

/-- A comparison ends as its outcome says. -/
theorem Outcome.eq_comparePieces {result : Except VersionFault Verdict}
    (outcome : Outcome channel other mine theirs result) :
    comparePieces channel other 0 mine theirs = result := by
  cases outcome with
  | newer below same mineRead theirsRead larger =>
    rw [comparePieces_skip (Nat.le_of_lt below) same,
      comparePieces_of_reads below mineRead theirsRead, if_pos larger]
  | older below same mineRead theirsRead smaller =>
    rw [comparePieces_skip (Nat.le_of_lt below) same,
      comparePieces_of_reads below mineRead theirsRead, if_neg (Int.not_lt.2 (Int.le_of_lt smaller)),
      if_pos smaller]
  | level same =>
    rw [comparePieces_skip (Nat.le_refl _) same, List.drop_length, comparePieces]
  | ownFault same bad =>
    have below := IsBad.lt_length ⟨_, bad⟩
    rw [comparePieces_skip (Nat.le_of_lt below) same, comparePieces_step below, readAt_of_error bad]
    rfl
  | otherFault below same mineRead bad =>
    rw [comparePieces_skip (Nat.le_of_lt below) same, comparePieces_step below,
      readAt_of_ok mineRead, readAt_of_error bad]
    rfl

/-- From any position below which both sides are the same there is an outcome. -/
theorem exists_outcome (below : position ≤ mine.length) (same : SameBelow mine theirs position) :
    ∃ result, Outcome channel other mine theirs result := by
  induction left : mine.length - position generalizing position with
  | zero =>
    obtain rfl : position = mine.length := by omega
    exact ⟨_, .level same⟩
  | succ left inductionHypothesis =>
    have further : position < mine.length := by omega
    cases mineRead : reading mine position with
    | error source => exact ⟨_, .ownFault same mineRead⟩
    | ok component =>
      cases theirsRead : reading theirs position with
      | error source => exact ⟨_, .otherFault further same mineRead theirsRead⟩
      | ok otherComponent =>
        rcases Int.lt_trichotomy component otherComponent with smaller | rfl | larger
        · exact ⟨_, .older further same mineRead theirsRead smaller⟩
        · exact inductionHypothesis further (sameBelow_succ.2 ⟨same, _, mineRead, theirsRead⟩)
            (by omega)
        · exact ⟨_, .newer further same mineRead theirsRead larger⟩

/-- Comparing two names comes to the outcome for their pieces, and to nothing else. -/
theorem compare_eq_iff {result : Except VersionFault Verdict} : compare channel other = result ↔
    Outcome channel other (pieces channel) (pieces other) result := by
  constructor
  · rintro rfl
    obtain ⟨result, outcome⟩ : ∃ result, Outcome channel other (pieces channel) (pieces other) result :=
      exists_outcome (Nat.zero_le _) sameBelow_zero
    rwa [compare, outcome.eq_comparePieces]
  · exact Outcome.eq_comparePieces

/-- A name is newer exactly if the verdict names a position at which it is. -/
theorem isNewer_eq_true_iff :
    isNewer channel other = .ok true ↔ ∃ position, compare channel other = .ok (.newer position) := by
  unfold isNewer
  cases compare channel other with
  | error fault => simp [Except.map]
  | ok verdict => cases verdict <;> simp [Except.map, Verdict.isNewer]

end Comparing

end OperatorKit.Channel
