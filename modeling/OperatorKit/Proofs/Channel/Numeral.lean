import OperatorKit.Channel.Component
import OperatorKit.Proofs.Decimal.Digits

/-!
# Numerals

Which pieces spell an integer, and what is wrong with the others, said by the value of their digits.
Reading adds the digits one by one and checks the value each time; since more digits never bring a
value back into range, this comes to one condition on the value of all digits, or to the first
character that breaks it.
-/

namespace OperatorKit.Channel

/-- The integers of a signed word of 64 bits. -/
def InRange (value : Int) : Prop :=
  -0x8000000000000000 ≤ value ∧ value < 0x8000000000000000

instance (value : Int) : Decidable (InRange value) :=
  inferInstanceAs (Decidable (_ ∧ _))

/-- The value of digits behind a sign. -/
def Sign.value (sign : Sign) (digits : List Char) : Int :=
  match sign with
  | plus => Nat.ofDigitChars 10 digits 0
  | minus => -Nat.ofDigitChars 10 digits 0

/-- A piece with its sign and what stands behind it. Only a plus sign may be left out. -/
inductive Signed : List Char → Sign → List Char → Prop where
  | plus (body : List Char) : Signed ('+' :: body) .plus body
  | minus (body : List Char) : Signed ('-' :: body) .minus body
  | unsigned {body : List Char} (noPlus : body.head? ≠ some '+') (noMinus : body.head? ≠ some '-') :
      Signed body .plus body

/-- The piece is a sign, which may be left out, and at least one digit, with a value in range. -/
inductive Spells : List Char → Int → Prop where
  | digits {piece : List Char} {sign : Sign} {digits : List Char} (signed : Signed piece sign digits)
      (nonempty : digits ≠ []) (areDigits : ∀ char ∈ digits, char.isDigit = true)
      (inRange : InRange (sign.value digits)) : Spells piece (sign.value digits)

namespace Sign

/-- A character that is no digit, or with which the value leaves the range. -/
def StopsAt (sign : Sign) (before : List Char) (char : Char) : Prop :=
  char.isDigit = false ∨ ¬ InRange (sign.value (before ++ [char]))

/-- The fault of a character that stops the reading: it is no digit, or it takes the value beyond the
end of the range that lies on the side of the sign. -/
def faultOf (sign : Sign) (char : Char) : NumeralFault :=
  if char.isDigit then
    match sign with
    | plus => .tooLarge
    | minus => .tooSmall
  else .invalidDigit

/-- No character of a text stops the reading that has come to it. -/
def Clear (sign : Sign) (before text : List Char) : Prop :=
  ∀ front char rest, text = front ++ char :: rest → ¬ sign.StopsAt (before ++ front) char

end Sign

/-- The piece is no integer, and this is its first fault. -/
inductive Misspells : List Char → NumeralFault → Prop where
  | empty : Misspells [] .empty
  | lonePlus : Misspells ['+'] .invalidDigit
  | loneMinus : Misspells ['-'] .invalidDigit
  | stopped {piece : List Char} {sign : Sign} {before : List Char} {char : Char} {rest : List Char}
      (signed : Signed piece sign (before ++ char :: rest)) (clear : sign.Clear [] before)
      (stops : sign.StopsAt before char) : Misspells piece (sign.faultOf char)

namespace Sign

variable {sign : Sign} {before digits : List Char} {char : Char}

/-- A digit with which the value stays in range does not stop the reading, and nothing else. -/
theorem not_stopsAt_iff : ¬ sign.StopsAt before char ↔
    char.isDigit = true ∧ InRange (sign.value (before ++ [char])) := by
  rw [StopsAt, not_or, Decidable.not_not, Bool.not_eq_false]

/-- More digits bring no value back into range. -/
theorem inRange_of_append {more : List Char} (inRange : InRange (sign.value (digits ++ more))) :
    InRange (sign.value digits) := by
  have larger := Decimal.le_ofDigitChars more (Nat.ofDigitChars 10 digits 0)
  cases sign <;>
    simp only [InRange, value, Nat.ofDigitChars_append] at inRange ⊢ <;>
    omega

/-- One more digit is appended as it counts. -/
theorem append_value (isDigit : char.isDigit = true) :
    sign.append (sign.value before) char = sign.value (before ++ [char]) := by
  have atLeast : 48 ≤ char.toNat := (Char.isDigit_iff_toNat.1 isDigit).1
  have zero : '0'.toNat = 48 := rfl
  cases sign <;>
    simp only [append, value, Nat.ofDigitChars_append, Nat.ofDigitChars_cons, Nat.ofDigitChars_nil,
      zero] <;>
    omega

/-- The check for a sign is the check for the range, since the other end is out of reach. -/
theorem fits_value_iff : sign.fits (sign.value digits) = true ↔ InRange (sign.value digits) := by
  cases sign <;> rw [fits, decide_eq_true_iff, value, InRange] <;> omega

/-- The fault of a digit that stops the reading is that of a value that does not fit. -/
theorem faultOf_of_isDigit (isDigit : char.isDigit = true) : sign.faultOf char = sign.fault := by
  cases sign <;> simp [faultOf, fault, isDigit]

/-- Reading stops at a character that stops it. -/
theorem appendDigits_cons_of_stopsAt (stops : sign.StopsAt before char) (rest : List Char) :
    appendDigits sign (sign.value before) (char :: rest) = .error (sign.faultOf char) := by
  rw [appendDigits]
  by_cases isDigit : char.isDigit = true
  · have outside : ¬ sign.fits (sign.value (before ++ [char])) = true := by
      rw [fits_value_iff]
      exact stops.resolve_left (by simp [isDigit])
    rw [if_pos isDigit, append_value isDigit, faultOf_of_isDigit isDigit]
    simp only [if_neg outside]
  · rw [if_neg isDigit]
    simp [faultOf, isDigit]

/-- Reading goes on past a character that does not stop it. -/
theorem appendDigits_cons_of_not_stopsAt (goesOn : ¬ sign.StopsAt before char) (rest : List Char) :
    appendDigits sign (sign.value before) (char :: rest) =
      appendDigits sign (sign.value (before ++ [char])) rest := by
  obtain ⟨isDigit, inRange⟩ := not_stopsAt_iff.1 goesOn
  rw [appendDigits, if_pos isDigit, append_value isDigit]
  simp only [if_pos (fits_value_iff.2 inRange)]

/-- A text is clear if its first character is and the rest is clear behind it. -/
theorem clear_cons {rest : List Char} : sign.Clear before (char :: rest) ↔
    ¬ sign.StopsAt before char ∧ sign.Clear (before ++ [char]) rest := by
  constructor
  · intro clear
    refine ⟨by simpa using clear [] char rest rfl, fun front next more split => ?_⟩
    have further := clear (char :: front) next more (by rw [split, List.cons_append])
    simpa using further
  · rintro ⟨goesOn, clear⟩ front next more split
    rcases List.cons_eq_append_iff.1 split with ⟨rfl, here⟩ | ⟨front, rfl, there⟩
    · obtain ⟨rfl, -⟩ := List.cons.inj here
      simpa using goesOn
    · simpa using clear front next more there

/-- A clear text is read to its end. -/
theorem appendDigits_of_clear {text : List Char} (clear : sign.Clear before text) :
    appendDigits sign (sign.value before) text = .ok (sign.value (before ++ text)) := by
  induction text generalizing before with
  | nil => rw [appendDigits, List.append_nil]
  | cons char rest inductionHypothesis =>
    obtain ⟨goesOn, clearRest⟩ := clear_cons.1 clear
    rw [appendDigits_cons_of_not_stopsAt goesOn, inductionHypothesis clearRest, List.append_assoc,
      List.singleton_append]

/-- Reading comes through a clear text to what stops it. -/
theorem appendDigits_of_stopsAt {text : List Char} (clear : sign.Clear before text)
    (stops : sign.StopsAt (before ++ text) char) (rest : List Char) :
    appendDigits sign (sign.value before) (text ++ char :: rest) = .error (sign.faultOf char) := by
  induction text generalizing before with
  | nil =>
    rw [List.append_nil] at stops
    exact appendDigits_cons_of_stopsAt stops rest
  | cons next text inductionHypothesis =>
    obtain ⟨goesOn, clearRest⟩ := clear_cons.1 clear
    rw [List.cons_append, appendDigits_cons_of_not_stopsAt goesOn]
    exact inductionHypothesis clearRest (by simpa using stops)

/-- A text is clear, or there is a first character that stops the reading. -/
theorem clear_or_stopsAt (sign : Sign) (before text : List Char) : sign.Clear before text ∨
    ∃ front char rest, text = front ++ char :: rest ∧ sign.Clear before front ∧
      sign.StopsAt (before ++ front) char := by
  induction text generalizing before with
  | nil => exact Or.inl fun front char rest split => by simp at split
  | cons char rest inductionHypothesis =>
    by_cases stops : sign.StopsAt before char
    · refine Or.inr ⟨[], char, rest, rfl, fun front char rest split => by simp at split, ?_⟩
      simpa using stops
    · rcases inductionHypothesis (before ++ [char]) with clear | ⟨front, next, more, rfl, clear, later⟩
      · exact Or.inl (clear_cons.2 ⟨stops, clear⟩)
      · exact Or.inr ⟨char :: front, next, more, rfl, clear_cons.2 ⟨stops, clear⟩,
          by simpa using later⟩

/-- Digits with a value in range are clear. -/
theorem clear_of_digits (areDigits : ∀ char ∈ digits, char.isDigit = true)
    (inRange : InRange (sign.value digits)) : sign.Clear [] digits := by
  rintro front char rest rfl
  have whole : front ++ char :: rest = (front ++ [char]) ++ rest := by simp
  rw [whole] at inRange
  exact not_stopsAt_iff.2 ⟨areDigits char (by simp), inRange_of_append inRange⟩

/-- A clear text is made of digits. -/
theorem Clear.isDigit (clear : sign.Clear [] digits) : ∀ char ∈ digits, char.isDigit = true := by
  intro char member
  obtain ⟨front, rest, split⟩ := List.append_of_mem member
  exact (not_stopsAt_iff.1 (clear front char rest split)).1

/-- The value of a clear text is in range. -/
theorem Clear.inRange (clear : sign.Clear [] digits) (nonempty : digits ≠ []) :
    InRange (sign.value digits) := by
  have whole := List.dropLast_concat_getLast nonempty
  have atLast := (not_stopsAt_iff.1 (clear _ _ [] whole.symm)).2
  rwa [List.nil_append, whole] at atLast

end Sign

section Pieces

variable {piece body : List Char} {sign : Sign}

/-- Every piece has a sign, written or not. -/
theorem exists_signed (piece : List Char) : ∃ sign body, Signed piece sign body := by
  by_cases plus : piece.head? = some '+'
  · obtain ⟨body, rfl⟩ := List.head?_eq_some_iff.1 plus
    exact ⟨.plus, body, .plus body⟩
  · by_cases minus : piece.head? = some '-'
    · obtain ⟨body, rfl⟩ := List.head?_eq_some_iff.1 minus
      exact ⟨.minus, body, .minus body⟩
    · exact ⟨.plus, piece, .unsigned plus minus⟩

/-- A piece has its sign in one way only. -/
theorem Signed.unique {other : Sign} {otherBody : List Char} (signed : Signed piece sign body)
    (otherSigned : Signed piece other otherBody) : sign = other ∧ body = otherBody := by
  cases signed with
  | plus body =>
    cases otherSigned with
    | plus => exact ⟨rfl, rfl⟩
    | unsigned noPlus noMinus => exact absurd rfl noPlus
  | minus body =>
    cases otherSigned with
    | minus => exact ⟨rfl, rfl⟩
    | unsigned noPlus noMinus => exact absurd rfl noMinus
  | unsigned noPlus noMinus =>
    cases otherSigned with
    | plus => exact absurd rfl noPlus
    | minus => exact absurd rfl noMinus
    | unsigned => exact ⟨rfl, rfl⟩

/-- What stands behind the sign is read from zero. -/
theorem readInteger_of_signed (signed : Signed piece sign body) (nonempty : body ≠ []) :
    readInteger piece = appendDigits sign (sign.value []) body := by
  cases signed with
  | plus =>
    cases body with
    | nil => exact absurd rfl nonempty
    | cons first rest => rfl
  | minus =>
    cases body with
    | nil => exact absurd rfl nonempty
    | cons first rest => rfl
  | unsigned noPlus noMinus =>
    unfold readInteger
    split
    · exact absurd rfl nonempty
    · exact absurd rfl noPlus
    · exact absurd rfl noMinus
    · exact absurd rfl noPlus
    · exact absurd rfl noMinus
    · rfl

/-- A piece that spells an integer is read as it. -/
theorem Spells.readInteger_eq {value : Int} (spells : Spells piece value) :
    readInteger piece = .ok value := by
  cases spells with
  | digits signed nonempty areDigits inRange =>
    rw [readInteger_of_signed signed nonempty,
      Sign.appendDigits_of_clear (Sign.clear_of_digits areDigits inRange), List.nil_append]

/-- A misspelled piece is refused for its first fault. -/
theorem Misspells.readInteger_eq {fault : NumeralFault} (misspells : Misspells piece fault) :
    readInteger piece = .error fault := by
  cases misspells with
  | empty | lonePlus | loneMinus => rfl
  | stopped signed clear stops =>
    rw [readInteger_of_signed signed (by simp)]
    exact Sign.appendDigits_of_stopsAt clear stops _

/-- Every piece spells an integer or is misspelled. -/
theorem spells_or_misspells (piece : List Char) :
    (∃ value, Spells piece value) ∨ ∃ fault, Misspells piece fault := by
  obtain ⟨sign, body, signed⟩ := exists_signed piece
  by_cases nonempty : body = []
  · subst nonempty
    cases signed with
    | plus => exact Or.inr ⟨_, .lonePlus⟩
    | minus => exact Or.inr ⟨_, .loneMinus⟩
    | unsigned => exact Or.inr ⟨_, .empty⟩
  · rcases sign.clear_or_stopsAt [] body with clear | ⟨before, char, rest, rfl, clear, stops⟩
    · exact Or.inl ⟨_, .digits signed nonempty clear.isDigit (clear.inRange nonempty)⟩
    · exact Or.inr ⟨_, .stopped signed clear stops⟩

/-- Exactly the pieces that spell an integer are read, as the integer that they spell. -/
theorem readInteger_eq_ok_iff {value : Int} : readInteger piece = .ok value ↔ Spells piece value := by
  refine ⟨fun read => ?_, Spells.readInteger_eq⟩
  rcases spells_or_misspells piece with ⟨other, spells⟩ | ⟨fault, misspells⟩
  · have same := spells.readInteger_eq
    rw [read, Except.ok.injEq] at same
    exact same ▸ spells
  · have refused := misspells.readInteger_eq
    rw [read] at refused
    cases refused

/-- Exactly the misspelled pieces are refused, for their first fault. -/
theorem readInteger_eq_error_iff {fault : NumeralFault} :
    readInteger piece = .error fault ↔ Misspells piece fault := by
  refine ⟨fun refused => ?_, Misspells.readInteger_eq⟩
  rcases spells_or_misspells piece with ⟨value, spells⟩ | ⟨other, misspells⟩
  · have read := spells.readInteger_eq
    rw [refused] at read
    cases read
  · have same := misspells.readInteger_eq
    rw [refused, Except.error.injEq] at same
    exact same ▸ misspells

/-- Zeros in front of the digits change neither that a piece is an integer nor which one. -/
theorem spells_of_zeros {padded digits : List Char} {value : Int} (spells : Spells piece value)
    (signed : Signed piece sign digits) {count : Nat}
    (paddedSigned : Signed padded sign (List.replicate count '0' ++ digits)) :
    Spells padded value := by
  have zeros : sign.value (List.replicate count '0' ++ digits) = sign.value digits := by
    cases sign <;> simp [Sign.value, Nat.ofDigitChars_append, Nat.ofDigitChars_replicate_zero]
  cases spells with
  | digits otherSigned nonempty areDigits inRange =>
    obtain ⟨rfl, rfl⟩ := signed.unique otherSigned
    rw [← zeros]
    refine .digits paddedSigned (by simp [nonempty]) ?_ (by rwa [zeros])
    intro char member
    rcases List.mem_append.1 member with zero | digit
    · rw [List.eq_of_mem_replicate zero]
      rfl
    · exact areDigits char digit

end Pieces

end OperatorKit.Channel
