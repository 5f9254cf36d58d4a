import OperatorKit.Json.Nesting
import OperatorKit.Proofs.Json.Reads

/-!
# How deep values are

The reader never takes a value that is nested more deeply than it allows. What every item or member
keeps is kept by the loop over all of them.
-/

namespace OperatorKit.Json

open OperatorKit.Text

/-- What holds of every item that is read holds of all the items of an array. -/
theorem readItems_forall {α : Type} (holds : α → Prop) {item : Reader α}
    (each : ∀ text taken, item text = .ok taken → holds taken.value) {isFirst : Bool} {text : Bytes}
    {taken : Taken (List α) text.length} (read : readItems item isFirst text = .ok taken) :
    ∀ value ∈ taken.value, holds value := by
  rw [readItems, bind_eq_ok] at read
  obtain ⟨next, -, goesOn⟩ := read
  cases next with
  | closed rest fewer =>
    cases goesOn
    exact List.forall_mem_nil _
  | more value start fits =>
    obtain ⟨head, readHead, goesOn⟩ := bind_eq_ok.1 goesOn
    obtain ⟨tail, readTail, goesOn⟩ := bind_eq_ok.1 goesOn
    have others := readItems_forall holds each readTail
    cases goesOn
    exact List.forall_mem_cons.2 ⟨each _ _ readHead, others⟩
termination_by text.length
decreasing_by
  have := head.fewer
  omega

/-- What every member keeps is kept by all the members of an object. -/
theorem foldMembers_keeps {σ : Type} (holds : σ → Prop) {member : σ → String → Reader σ}
    (each : ∀ state key text taken, holds state → member state key text = .ok taken →
      holds taken.value) {isFirst : Bool} {state : σ} {text : Bytes} {taken : Taken σ text.length}
    (start : holds state) (read : foldMembers member isFirst state text = .ok taken) :
    holds taken.value := by
  rw [foldMembers, bind_eq_ok] at read
  obtain ⟨next, -, goesOn⟩ := read
  cases next with
  | closed rest fewer =>
    cases goesOn
    exact start
  | more key start' fits =>
    obtain ⟨changed, readMember, goesOn⟩ := bind_eq_ok.1 goesOn
    obtain ⟨final, readOthers, goesOn⟩ := bind_eq_ok.1 goesOn
    have kept := foldMembers_keeps holds each (each _ _ _ _ start readMember) readOthers
    cases goesOn
    exact kept
termination_by text.length
decreasing_by
  have := changed.fewer
  omega

/-- What stands behind a colon was read there. -/
theorem exists_of_readAfterColon {α : Type} {read : Reader α} {text : Bytes}
    {taken : Taken α text.length} (reads : readAfterColon read text = .ok taken) :
    ∃ rest taken', read rest = .ok taken' ∧ taken.value = taken'.value := by
  unfold readAfterColon at reads
  split at reads
  · cases reads
  · split at reads
    · obtain ⟨before, readBefore, rfl⟩ := map_eq_ok.1 reads
      exact ⟨_, before, readBefore, rfl⟩
    · cases reads

namespace Value

/-- Items are as deep as the deepest of them. -/
theorem itemsLevels_le_iff {items : List Value} {limit : Nat} :
    itemsLevels items ≤ limit ↔ ∀ item ∈ items, item.levels ≤ limit := by
  induction items with
  | nil => simp [itemsLevels]
  | cons item items inductionHypothesis =>
    rw [itemsLevels, Nat.max_le, inductionHypothesis, List.forall_mem_cons]

/-- Members are as deep as the deepest of them. -/
theorem membersLevels_le_iff {members : List (String × Value)} {limit : Nat} :
    membersLevels members ≤ limit ↔ ∀ member ∈ members, member.2.levels ≤ limit := by
  induction members with
  | nil => simp [membersLevels]
  | cons member members inductionHypothesis =>
    rw [membersLevels, Nat.max_le, inductionHypothesis, List.forall_mem_cons]

end Value

/-- A member is no deeper than its value and the members before it. -/
theorem levels_of_readMember {limit : Nat} {nested : Reader Value}
    (each : ∀ text taken, nested text = .ok taken → taken.value.levels ≤ limit)
    {members : List (String × Value)} {key : String} {text : Bytes}
    {taken : Taken (List (String × Value)) text.length}
    (fits : Value.membersLevels members ≤ limit)
    (read : readMember nested members key text = .ok taken) :
    Value.membersLevels taken.value ≤ limit := by
  obtain ⟨before, readBefore, rfl⟩ := map_eq_ok.1 read
  obtain ⟨rest, value, readValue, same⟩ := exists_of_readAfterColon readBefore
  refine Nat.max_le.2 ⟨?_, fits⟩
  rw [same]
  exact each _ _ readValue

/-- A value is one level deeper than what its array or object holds. -/
theorem levels_of_readValueOver {limit : Nat} {nested : Reader Value}
    (each : ∀ text taken, nested text = .ok taken → taken.value.levels ≤ limit) {text : Bytes}
    {taken : Taken Value text.length} (read : readValueOver (some nested) text = .ok taken) :
    taken.value.levels ≤ limit + 1 := by
  obtain ⟨⟨found, rest, fewer⟩, -, goesOn⟩ := bind_eq_ok.1 read
  cases found with
  | null | boolean truth | number amount | string content =>
    cases goesOn
    exact Nat.zero_le _
  | sequence =>
    obtain ⟨items, readItems, goesOn⟩ := bind_eq_ok.1 goesOn
    have itemsFit := Value.itemsLevels_le_iff.2 (readItems_forall _ each readItems)
    cases goesOn
    exact Nat.succ_le_succ itemsFit
  | map =>
    obtain ⟨members, readMembers, goesOn⟩ := bind_eq_ok.1 goesOn
    have membersFit : Value.membersLevels members.value ≤ limit :=
      foldMembers_keeps (fun members => Value.membersLevels members ≤ limit)
        (fun _ _ _ _ fits read => levels_of_readMember each fits read) (Nat.zero_le _) readMembers
    cases goesOn
    refine Nat.succ_le_succ (Value.membersLevels_le_iff.2 fun member inMembers => ?_)
    exact Value.membersLevels_le_iff.1 membersFit member (List.mem_reverse.1 inMembers)

/-- A value that may hold nothing is a scalar. -/
theorem levels_of_readValueOver_none {text : Bytes} {taken : Taken Value text.length}
    (read : readValueOver none text = .ok taken) : taken.value.levels = 0 := by
  obtain ⟨⟨found, rest, fewer⟩, -, goesOn⟩ := bind_eq_ok.1 read
  cases found with
  | null | boolean truth | number amount | string content =>
    cases goesOn
    rfl
  | sequence | map => cases goesOn

/-- No value is read that is deeper than the reader allows. -/
theorem levels_of_readValue {levels : Nat} : ∀ text taken,
    readValue levels text = .ok taken → taken.value.levels ≤ levels := by
  induction levels with
  | zero =>
    intro text taken read
    exact Nat.le_of_eq (levels_of_readValueOver_none read)
  | succ levels inductionHypothesis =>
    intro text taken read
    exact levels_of_readValueOver inductionHypothesis read

/-- No text is read as a value that is deeper than the reader allows. -/
theorem Value.levels_of_read {text : Bytes} {value : Value} (read : Value.read text = .ok value) :
    value.levels ≤ levelLimit := by
  obtain ⟨taken, readTaken, goesOn⟩ := bind_eq_ok.1 (mapError_eq_ok.1 read)
  split at goesOn
  · cases goesOn
    exact levels_of_readValue _ _ readTaken
  · cases goesOn

end OperatorKit.Json
