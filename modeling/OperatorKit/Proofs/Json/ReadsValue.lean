import OperatorKit.Proofs.Json.Reads

/-!
# What the value reader takes

The first byte behind the blanks decides what kind of value follows. There is one rule for each
kind, and one for a text that is a single value.
-/

namespace OperatorKit.Json

open OperatorKit.Text

section Found

variable {next : Byte} {text rest after : Bytes}

/-- What the reader finds depends on the first byte behind the blanks. -/
theorem readFound_eq (blanks : skipBlanks text = next :: rest) :
    readFound text =
      have shorter := length_lt_of_skipBlanks blanks
      if next = Ascii.letterN then
        (readWord Ascii.afterN rest).map fun taken => (taken.map fun _ => .null).widen shorter
      else if next = Ascii.letterT then
        (readWord Ascii.afterT rest).map fun taken =>
          (taken.map fun _ => .boolean true).widen shorter
      else if next = Ascii.letterF then
        (readWord Ascii.afterF rest).map fun taken =>
          (taken.map fun _ => .boolean false).widen shorter
      else if next = Ascii.minus then
        (readNumber true rest).map fun taken => (taken.map .number).afterByte.widen shorter
      else if Ascii.isDigit next then
        (readNumber false (next :: rest)).map fun taken => (taken.map .number).widen shorter
      else if next = Ascii.quote then
        (readString rest).map fun taken => (taken.map .string).afterByte.widen shorter
      else if next = Ascii.openBracket then .ok ⟨.sequence, rest, shorter⟩
      else if next = Ascii.openBrace then .ok ⟨.map, rest, shorter⟩
      else .error (.atNext .expectedValue (next :: rest)) :=
  match_skipBlanks blanks _ _

/-- Every word is taken where it stands. -/
theorem readWord_append (word : Bytes) : Reads (readWord word (word ++ rest)) () rest := by
  induction word with
  | nil => exact ⟨_, rfl⟩
  | cons expected word inductionHypothesis =>
    rw [List.cons_append, readWord, if_pos rfl]
    exact inductionHypothesis.change fun fewer => ⟨_, rfl⟩

/-- The word for nothing is found. -/
theorem readFound_null (blanks : skipBlanks text = Ascii.letterN :: (Ascii.afterN ++ rest)) :
    Reads (readFound text) .null rest := by
  rw [readFound_eq blanks, if_pos rfl]
  exact (readWord_append Ascii.afterN).change fun fewer => ⟨_, rfl⟩

/-- The word for what is true is found. -/
theorem readFound_true (blanks : skipBlanks text = Ascii.letterT :: (Ascii.afterT ++ rest)) :
    Reads (readFound text) (.boolean true) rest := by
  rw [readFound_eq blanks, if_neg (by decide), if_pos rfl]
  exact (readWord_append Ascii.afterT).change fun fewer => ⟨_, rfl⟩

/-- The word for what is false is found. -/
theorem readFound_false (blanks : skipBlanks text = Ascii.letterF :: (Ascii.afterF ++ rest)) :
    Reads (readFound text) (.boolean false) rest := by
  rw [readFound_eq blanks, if_neg (by decide), if_neg (by decide), if_pos rfl]
  exact (readWord_append Ascii.afterF).change fun fewer => ⟨_, rfl⟩

/-- No word and no minus begins with a digit. -/
theorem ne_of_isDigit (isDigit : Ascii.isDigit next = true) : next ≠ Ascii.letterN ∧
    next ≠ Ascii.letterT ∧ next ≠ Ascii.letterF ∧ next ≠ Ascii.minus := by
  refine ⟨?_, ?_, ?_, ?_⟩
  all_goals
    rintro rfl
    cases isDigit

/-- A number without a minus is found. -/
theorem readFound_digit {number : Number} (blanks : skipBlanks text = next :: rest)
    (isDigit : Ascii.isDigit next = true)
    (reads : Reads (readNumber false (next :: rest)) number after) :
    Reads (readFound text) (.number number) after := by
  obtain ⟨notN, notT, notF, notMinus⟩ := ne_of_isDigit isDigit
  rw [readFound_eq blanks, if_neg notN, if_neg notT, if_neg notF, if_neg notMinus,
    if_pos isDigit]
  exact reads.change fun fewer => ⟨_, rfl⟩

/-- A number behind a minus is found. -/
theorem readFound_minus {number : Number} (blanks : skipBlanks text = Ascii.minus :: rest)
    (reads : Reads (readNumber true rest) number after) :
    Reads (readFound text) (.number number) after := by
  rw [readFound_eq blanks, if_neg (by decide), if_neg (by decide), if_neg (by decide), if_pos rfl]
  exact reads.change fun fewer => ⟨_, rfl⟩

/-- A string behind its quote is found. -/
theorem readFound_quote {content : String} (blanks : skipBlanks text = Ascii.quote :: rest)
    (reads : Reads (readString rest) content after) :
    Reads (readFound text) (.string content) after := by
  rw [readFound_eq blanks, if_neg (by decide), if_neg (by decide), if_neg (by decide),
    if_neg (by decide), if_neg (by decide), if_pos rfl]
  exact reads.change fun fewer => ⟨_, rfl⟩

/-- The opening of an array is found. -/
theorem readFound_openBracket (blanks : skipBlanks text = Ascii.openBracket :: rest) :
    Reads (readFound text) .sequence rest := by
  rw [readFound_eq blanks, if_neg (by decide), if_neg (by decide), if_neg (by decide),
    if_neg (by decide), if_neg (by decide), if_neg (by decide), if_pos rfl]
  exact ⟨_, rfl⟩

/-- The opening of an object is found. -/
theorem readFound_openBrace (blanks : skipBlanks text = Ascii.openBrace :: rest) :
    Reads (readFound text) .map rest := by
  rw [readFound_eq blanks, if_neg (by decide), if_neg (by decide), if_neg (by decide),
    if_neg (by decide), if_neg (by decide), if_neg (by decide), if_neg (by decide), if_pos rfl]
  exact ⟨_, rfl⟩

end Found

/-- The value of a scalar that was found. -/
def Found.scalar? : Found → Option Value
  | null => some .null
  | boolean truth => some (.boolean truth)
  | number amount => some (.number amount)
  | string text => some (.string text)
  | sequence | map => none

section Values

variable {nested : Option (Reader Value)} {nestedValue : Reader Value} {value : Value}
  {text middle rest : Bytes}

/-- A scalar is the whole value. -/
theorem readValueOver_scalar {found : Found} (reads : Reads (readFound text) found rest)
    (scalar : found.scalar? = some value) : Reads (readValueOver nested text) value rest := by
  apply reads.bind
  intro fewer
  cases found <;> cases scalar <;> exact ⟨fewer, rfl⟩

/-- The items follow the opening of an array. -/
theorem readValueOver_sequence {items : List Value}
    (opens : Reads (readFound text) .sequence middle)
    (reads : Reads (readItems nestedValue true middle) items rest) :
    Reads (readValueOver (some nestedValue) text) (.array items) rest := by
  apply opens.bind
  intro fewer
  apply reads.bind
  intro fewer'
  exact ⟨_, rfl⟩

/-- The members follow the opening of an object and are taken last first. -/
theorem readValueOver_map {members : List (String × Value)}
    (opens : Reads (readFound text) .map middle)
    (reads : Reads (foldMembers (readMember nestedValue) true [] middle) members rest) :
    Reads (readValueOver (some nestedValue) text) (.object members.reverse) rest := by
  apply opens.bind
  intro fewer
  apply reads.bind
  intro fewer'
  exact ⟨_, rfl⟩

/-- A text is read whole where nothing but blanks follows its value. -/
theorem readWhole_eq_ok {α : Type} {read : Reader α} {whole : α}
    (reads : Reads (read text) whole rest) (blanks : skipBlanks rest = []) :
    readWhole read text = .ok whole := by
  obtain ⟨fewer, taken⟩ := reads
  rw [readWhole, mapError_eq_ok, taken]
  simp only [bind, Except.bind, blanks]

end Values

end OperatorKit.Json
