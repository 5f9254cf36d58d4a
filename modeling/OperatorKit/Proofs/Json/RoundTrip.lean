import OperatorKit.Proofs.Json.Written

/-!
# Reading written values

A value whose numbers are integers is read back as it was written, in every layout, as long as it is
not nested too deeply for the reader.
-/

namespace OperatorKit.Json

open OperatorKit.Text OperatorKit.Decimal

variable {text rest : Bytes} {value : Value} {levels : Nat}

/-- The literal of an integer that fits in a word is the integer. -/
theorem integerNumber?_eq {negative : Bool} {magnitude : Nat} {number : Int}
    (isNumber : (if negative then -magnitude else magnitude : Int) = number)
    (fits : FitsWord number) (signed : negative = true → magnitude ≠ 0) :
    integerNumber? negative magnitude = some (.integer number fits) := by
  subst isNumber
  rw [integerNumber?, dif_pos ⟨fits, signed⟩]

/-- A written integer is found as a number. -/
theorem readFound_integer {number : Int} (fits : FitsWord number) (ends : EndsNumber rest)
    (written : skipBlanks text = Utf8.encode (integerChars number) ++ rest) :
    Reads (readFound text) (.number (.integer number fits)) rest := by
  have limits := fits
  simp only [FitsWord] at limits
  cases number with
  | ofNat magnitude =>
    obtain ⟨first, more, encoded, isDigit⟩ := encode_digits magnitude
    have small : magnitude < significandLimit := by
      rw [Int.ofNat_eq_natCast] at limits
      rw [significandLimit]
      omega
    have literal : integerNumber? false magnitude = some (.integer (.ofNat magnitude) fits) :=
      integerNumber?_eq (by simp) fits nofun
    have reads := readNumber_written small literal ends
    rw [integerChars, encoded] at written
    rw [encoded] at reads
    exact readFound_digit written isDigit reads
  | negSucc less =>
    have small : less + 1 < significandLimit := by
      rw [significandLimit]
      omega
    have literal : integerNumber? true (less + 1) = some (.integer (.negSucc less) fits) :=
      integerNumber?_eq (by simp [Int.negSucc_eq]) fits (by simp)
    exact readFound_minus written (readNumber_written small literal ends)

/-- A scalar is read in the same way at every depth. -/
theorem readValue_scalar {found : Found} (reads : Reads (readFound text) found rest)
    (scalar : found.scalar? = some value) : Reads (readValue levels text) value rest := by
  cases levels with
  | zero => exact readValueOver_scalar reads scalar
  | succ levels => exact readValueOver_scalar reads scalar

mutual

/-- A written value is read. -/
theorem readValue_written (layout : Layout) : (value : Value) → (levels : Nat) →
    value.IntegersOnly → value.levels ≤ levels →
      TakesWritten (readValue levels) layout value value
  | .null, levels, _, _ => fun _ _ _ written => readValue_scalar (readFound_null written) rfl
  | .boolean true, levels, _, _ => fun _ _ _ written =>
    readValue_scalar (readFound_true written) rfl
  | .boolean false, levels, _, _ => fun _ _ _ written =>
    readValue_scalar (readFound_false written) rfl
  | .number (.double _), levels, integersOnly, _ => integersOnly.elim
  | .number (.integer number fits), levels, _, _ => fun _ _ ends written =>
    readValue_scalar (readFound_integer fits ends written) rfl
  | .string content, levels, _, _ => fun text rest _ written => by
    rw [Value.chars, encode_stringChars] at written
    exact readValue_scalar (readFound_quote written (readString_written content)) rfl
  | .array items, 0, _, fits => absurd fits (by simp [Value.levels])
  | .array items, levels + 1, integersOnly, fits => fun text rest _ written => by
    have takes := takesWritten_items layout.deeper items levels integersOnly
      (Nat.le_of_succ_le_succ fits)
    rw [encode_array] at written
    exact readValueOver_sequence (readFound_openBracket written)
      (readItems_written takes true (skipBlanks_beforeClosing layout items (by decide)))
  | .object members, 0, _, fits => absurd fits (by simp [Value.levels])
  | .object members, levels + 1, integersOnly, fits => fun text rest _ written => by
    have takes := takesMembers_readMember layout.deeper members levels [] integersOnly
      (Nat.le_of_succ_le_succ fits)
    rw [encode_object] at written
    have whole := readValueOver_map (readFound_openBrace written)
      (foldMembers_written takes true (skipBlanks_beforeClosing layout members (by decide)))
    rwa [List.append_nil, List.reverse_reverse] at whole

/-- Every written item of an array is read. -/
theorem takesWritten_items (layout : Layout) : (items : List Value) → (levels : Nat) →
    Value.ItemsIntegersOnly items → Value.itemsLevels items ≤ levels →
      List.Forall₂ (TakesWritten (readValue levels) layout) items items
  | [], _, _, _ => .nil
  | item :: items, levels, integersOnly, fits =>
    have levelsFit := Nat.max_le.1 fits
    .cons (readValue_written layout item levels integersOnly.1 levelsFit.1)
      (takesWritten_items layout items levels integersOnly.2 levelsFit.2)

/-- Every written member of an object is read, the last one first. -/
theorem takesMembers_readMember (layout : Layout) : (members : List (String × Value)) →
    (levels : Nat) → (taken : List (String × Value)) → Value.MembersIntegersOnly members →
      Value.membersLevels members ≤ levels →
        TakesMembers (readMember (readValue levels)) layout taken members
          (members.reverse ++ taken)
  | [], _, taken, _, _ => .nil taken
  | (key, value) :: members, levels, taken, integersOnly, fits => by
    have levelsFit := Nat.max_le.1 fits
    have takes := readValue_written layout value levels integersOnly.1 levelsFit.1
    rw [List.reverse_cons, List.append_assoc]
    exact .cons (fun rest ends => (takes.afterColon ends).change fun _ => ⟨_, rfl⟩)
      (takesMembers_readMember layout members levels _ integersOnly.2 levelsFit.2)

end

/-- A written value is read back, with blanks after it or without. -/
theorem Value.read_written (layout : Layout) {value : Value} {blanks : Bytes}
    (integersOnly : value.IntegersOnly) (fits : value.levels ≤ levelLimit)
    (areBlank : ∀ byte ∈ blanks, Ascii.isBlank byte = true) :
    Value.read (Utf8.encode (value.chars layout) ++ blanks) = .ok value :=
  readWhole_written (readValue_written layout value levelLimit integersOnly fits) areBlank

end OperatorKit.Json
