import OperatorKit.Roster

/-!
# Comparing rosters

Names have only one ascending order, so it does not matter how they are sorted, and two lists with
the same ascending order hold the same names equally often.
-/

namespace OperatorKit.Roster

variable {names left right other : List String}

/-- Sorted names ascend. -/
theorem ascending_sorted (names : List String) : (sorted names).Pairwise (· ≤ ·) := by
  have transitive : ∀ first second third : String,
      decide (first ≤ second) = true → decide (second ≤ third) = true →
        decide (first ≤ third) = true := by
    simp only [decide_eq_true_eq]
    exact fun _ _ _ => String.le_trans
  have total : ∀ first second : String,
      (decide (first ≤ second) || decide (second ≤ first)) = true := by
    simpa using String.le_total
  exact (List.pairwise_mergeSort transitive total names).imp of_decide_eq_true

/-- Names have one ascending order, whatever way of sorting finds it. -/
theorem eq_sorted_iff : other = sorted names ↔ other.Perm names ∧ other.Pairwise (· ≤ ·) := by
  have sortedPerm : (sorted names).Perm names := List.mergeSort_perm names _
  constructor
  · rintro rfl
    exact ⟨sortedPerm, ascending_sorted names⟩
  · rintro ⟨perm, ascending⟩
    have samePerm : other.Perm (sorted names) := perm.trans sortedPerm.symm
    exact samePerm.eq_of_pairwise (fun _ _ _ _ => String.le_antisymm) ascending
      (ascending_sorted names)

/-- Two lists hold the same names equally often if one is the other in some order. -/
theorem sameMembers_iff_perm : sameMembers left right = true ↔ left.Perm right := by
  have sortedPerm : (sorted left).Perm left := List.mergeSort_perm left _
  rw [sameMembers, Bool.and_eq_true, beq_iff_eq, beq_iff_eq, eq_sorted_iff]
  constructor
  · rintro ⟨-, perm, -⟩
    exact sortedPerm.symm.trans perm
  · intro perm
    exact ⟨perm.length_eq, sortedPerm.trans perm, ascending_sorted left⟩

/-- Comparing rosters counts their names: it holds exactly if every name stands equally often in
both, or one is the other in some order. So it is an equivalence, and the order of neither side
matters. -/
theorem sameMembers_counts :
    (∀ left right, sameMembers left right = true ↔ ∀ name, left.count name = right.count name) ∧
    (∀ left right, sameMembers left right = true ↔ right.Perm left) ∧
    Equivalence (fun left right => sameMembers left right = true) ∧
    ∀ left right otherLeft otherRight, left.Perm otherLeft → right.Perm otherRight →
      sameMembers left right = sameMembers otherLeft otherRight := by
  have samePerm : (fun left right => sameMembers left right = true) = List.Perm := by
    funext left right
    exact propext sameMembers_iff_perm
  refine ⟨fun left right => ?_, fun left right => ?_, ?_, ?_⟩
  · rw [sameMembers_iff_perm, List.perm_iff_count]
  · rw [sameMembers_iff_perm, List.perm_comm]
  · rw [samePerm]
    exact List.Perm.eqv String
  · intro left right otherLeft otherRight leftPerm rightPerm
    rw [Bool.eq_iff_iff, sameMembers_iff_perm, sameMembers_iff_perm]
    exact (leftPerm.congr_left right).trans (rightPerm.congr_right otherLeft)

end OperatorKit.Roster
