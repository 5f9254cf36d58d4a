import OperatorKit.Json.Skip
import OperatorKit.Proofs.Json.NumberText
import OperatorKit.Proofs.Json.IntegerText
import OperatorKit.Proofs.Json.StringText

/-!
# Skipping written numbers and strings

A number is passed part by part, whether or not it fits in a word or a double, and a string
character by character, without its text being built.
-/

namespace OperatorKit.Json

open OperatorKit.Text OperatorKit.Decimal

variable {text middle rest : Bytes}

section Numbers

variable {digits fraction scale numeral : List Char}

/-- An exponent is passed from its sign to its last digit. -/
theorem skipExponent_digit {isMinus : Bool} {first : Byte} {more : Bytes}
    (signed : readSign text = (isMinus, first :: more)) (isDigit : Ascii.isDigit first = true) :
    Reads (skipExponent text) () (skipDigits more) := by
  unfold skipExponent
  split
  · rename_i found
    rw [signed] at found
    cases found
  · rename_i found
    rw [signed] at found
    cases found
    rw [if_pos isDigit]
    exact ⟨_, rfl⟩

/-- The exponent of a numeral is passed. -/
theorem skipScale_written (isScale : IsScale scale) (ends : EndsNumber rest) :
    Reads (skipScale (Utf8.encode scale ++ rest)) () rest := by
  cases isScale with
  | absent =>
    rw [Utf8.encode, List.flatMap_nil, List.nil_append]
    unfold skipScale
    split
    · exact absurd rfl (ends _ _ rfl).2.2.1
    · exact absurd rfl (ends _ _ rfl).2.2.2
    · exact ⟨_, rfl⟩
  | @digits sign digits isSign areDigits =>
    obtain ⟨first, more, encoded, isDigit, moreDigits⟩ := areDigits.encode
    have signed : ∃ isMinus,
        readSign (String.utf8EncodeChar sign ++ (first :: more ++ rest)) =
          (isMinus, first :: (more ++ rest)) := by
      rcases isSign with rfl | rfl
      · exact ⟨false, rfl⟩
      · exact ⟨true, rfl⟩
    obtain ⟨isMinus, signed⟩ := signed
    have passes := skipExponent_digit signed isDigit
    rw [skipDigits_append moreDigits ends.startsWithDigit] at passes
    have bytes : Utf8.encode ('e' :: sign :: digits) ++ rest =
        Ascii.letterE :: (String.utf8EncodeChar sign ++ (first :: more ++ rest)) := by
      rw [← encoded]
      simp only [Utf8.encode, List.flatMap_cons, List.append_assoc]
      rfl
    rw [bytes]
    exact passes.change fun fewer => ⟨_, rfl⟩

/-- Neither a digit nor a point comes where the exponent of a numeral may stand. -/
theorem startsWithDigit_scale (isScale : IsScale scale) (ends : EndsNumber rest) :
    startsWithDigit (Utf8.encode scale ++ rest) = false ∧
      ∀ more, Utf8.encode scale ++ rest ≠ Ascii.dot :: more := by
  cases isScale with
  | absent => exact ⟨ends.startsWithDigit, fun more starts => (ends _ _ starts).2.1 rfl⟩
  | digits isSign areDigits => exact ⟨rfl, nofun⟩

/-- Without a point the exponent follows at once. -/
theorem skipAfterInteger_eq_skipScale (notDot : ∀ more, text ≠ Ascii.dot :: more) :
    skipAfterInteger text = skipScale text := by
  unfold skipAfterInteger
  split
  · exact absurd rfl (notDot _)
  · rfl

/-- Digits behind a point are passed. -/
theorem skipAfterInteger_dot (isThere : startsWithDigit text = true)
    (passes : Reads (skipScale (skipDigits text)) () rest) :
    Reads (skipAfterInteger (Ascii.dot :: text)) () rest := by
  have goesOn : skipAfterInteger (Ascii.dot :: text) =
      (skipScale (skipDigits text)).map fun taken =>
        (taken.widen (length_skipDigits_succ_le text)).afterByte := if_pos isThere
  rw [goesOn]
  exact passes.change fun fewer => ⟨_, rfl⟩

/-- What follows the digits before the point of a numeral is passed, and is no digit. -/
theorem skipAfterInteger_written (isFraction : IsFraction fraction) (isScale : IsScale scale)
    (ends : EndsNumber rest) :
    Reads (skipAfterInteger (Utf8.encode (fraction ++ scale) ++ rest)) () rest ∧
      startsWithDigit (Utf8.encode (fraction ++ scale) ++ rest) = false := by
  have passesScale := skipScale_written isScale ends
  have starts := startsWithDigit_scale isScale ends
  rw [Utf8.encode_append, List.append_assoc]
  -- What follows the fraction matters through these two facts only.
  generalize Utf8.encode scale ++ rest = afterFraction at passesScale starts ⊢
  cases isFraction with
  | absent =>
    rw [Utf8.encode, List.flatMap_nil, List.nil_append, skipAfterInteger_eq_skipScale starts.2]
    exact ⟨passesScale, starts.1⟩
  | @digits digits areDigits =>
    obtain ⟨first, more, encoded, isDigit, -⟩ := areDigits.encode
    have bytes : Utf8.encode ('.' :: digits) ++ afterFraction =
        Ascii.dot :: (Utf8.encode digits ++ afterFraction) := rfl
    have isThere : startsWithDigit (Utf8.encode digits ++ afterFraction) = true := by
      rw [encoded]
      exact isDigit
    rw [← skipDigits_append (isDigit_of_mem_encode areDigits.2) starts.1] at passesScale
    rw [bytes]
    exact ⟨skipAfterInteger_dot isThere passesScale, rfl⟩

/-- A numeral is passed up to its end. -/
theorem skipNumber_written (isNumeral : IsNumeral numeral) (ends : EndsNumber rest) :
    Reads (skipNumber (Utf8.encode numeral ++ rest)) () rest := by
  obtain ⟨isWhole, isFraction, isScale⟩ := isNumeral
  obtain ⟨passes, noDigit⟩ := skipAfterInteger_written isFraction isScale ends
  rw [Utf8.encode_append, List.append_assoc]
  -- What follows the whole part matters through these two facts only.
  generalize Utf8.encode (_ ++ _) ++ rest = afterWhole at passes noDigit ⊢
  cases isWhole with
  | zero =>
    have bytes : Utf8.encode ['0'] ++ afterWhole = Ascii.zero :: afterWhole := rfl
    rw [bytes, skipNumber, if_pos rfl, if_neg (by simp [noDigit])]
    exact passes
  | @significant digits areSignificant =>
    obtain ⟨char, chars, rfl, notZero, areDigits⟩ := areSignificant
    rw [List.forall_mem_cons] at areDigits
    obtain ⟨byte, encoded, isDigit, value⟩ := encode_cons_of_isDigit areDigits.1 chars
    have byteNotZero : byte ≠ Ascii.zero := by
      rintro rfl
      exact notZero (Char.toNat_inj.1 value.symm)
    rw [← skipDigits_append (isDigit_of_mem_encode areDigits.2) noDigit] at passes
    rw [encoded, List.cons_append, skipNumber, if_neg byteNotZero, if_pos isDigit]
    exact passes.change fun fewer => ⟨_, rfl⟩

end Numbers

section Strings

/-- A quote ends the content. -/
theorem skipContent_quote : Reads (skipContent (Ascii.quote :: rest)) () rest := by
  rw [skipContent, if_pos rfl]
  exact ⟨_, rfl⟩

/-- A byte that stands for itself is passed. -/
theorem skipContent_plain {next : Byte} (isPlain : IsPlainByte next)
    (passes : Reads (skipContent text) () rest) : Reads (skipContent (next :: text)) () rest := by
  obtain ⟨notQuote, notBackslash, notControl⟩ := isPlain
  rw [skipContent, if_neg notQuote, if_neg notBackslash, if_neg (by simp [notControl])]
  exact passes.change fun fewer => ⟨_, rfl⟩

/-- Bytes that stand for themselves are passed. -/
theorem skipContent_plainBytes {front : Bytes} (arePlain : ∀ byte ∈ front, IsPlainByte byte)
    (passes : Reads (skipContent text) () rest) : Reads (skipContent (front ++ text)) () rest := by
  induction front with
  | nil => exact passes
  | cons next front inductionHypothesis =>
    rw [List.forall_mem_cons] at arePlain
    exact skipContent_plain arePlain.1 (inductionHypothesis arePlain.2)

/-- An escape is passed before what follows it. -/
theorem skipContent_escape (passesEscape : Reads (skipEscape text) () middle)
    (passes : Reads (skipContent middle) () rest) :
    Reads (skipContent (Ascii.backslash :: text)) () rest := by
  rw [skipContent, if_neg (by decide), if_pos rfl]
  apply passesEscape.bind
  intro fewer
  exact passes.change fun fewer' => ⟨_, rfl⟩

/-- The escape of a character by a letter is passed. -/
theorem skipEscape_letter {char letter : Char} (escaped : escapeLetter? char = some letter) :
    Reads (skipEscape (String.utf8EncodeChar letter ++ rest)) () rest := by
  unfold escapeLetter? at escaped
  split at escaped <;> cases escaped <;> exact ⟨_, rfl⟩

/-- The escape of a character by its number is passed. -/
theorem skipEscape_number {number : Nat} (small : number < 0x100) :
    Reads (skipEscape (Ascii.letterU :: (hexBytes number ++ rest))) () rest := by
  rw [skipEscape, if_neg (by decide), if_pos rfl]
  exact (readHex_hexBytes small).change fun fewer => ⟨_, rfl⟩

/-- A character in a string literal is passed. -/
theorem skipContent_escapedChar (char : Char) (passes : Reads (skipContent text) () rest) :
    Reads (skipContent (Utf8.encode (escapedChar char) ++ text)) () rest := by
  have written := writtenChar char
  generalize Utf8.encode (escapedChar char) = bytes at written ⊢
  cases written with
  | letter escaped => exact skipContent_escape (skipEscape_letter escaped) passes
  | number control => exact skipContent_escape (skipEscape_number (by omega)) passes
  | plain arePlain => exact skipContent_plainBytes arePlain passes

/-- The characters of a string literal are passed, up to the closing quote. -/
theorem skipContent_written (chars : List Char) :
    Reads (skipContent (Utf8.encode (chars.flatMap escapedChar) ++ Ascii.quote :: rest)) ()
      rest := by
  induction chars with
  | nil => exact skipContent_quote
  | cons char chars inductionHypothesis =>
    rw [List.flatMap_cons, Utf8.encode_append, List.append_assoc]
    exact skipContent_escapedChar char inductionHypothesis

end Strings

end OperatorKit.Json
