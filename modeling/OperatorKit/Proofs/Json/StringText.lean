import OperatorKit.Json.Writer
import OperatorKit.Proofs.Json.Reads
import OperatorKit.Proofs.Text.Utf8

/-!
# Reading written strings

Every character of a string literal is read back as its own bytes: escaped by a letter, escaped by
its number, or as it stands. A whole literal therefore reads as the text it was written for,
whatever follows its closing quote.
-/

namespace OperatorKit.Json

open OperatorKit.Text

variable {text middle rest content bytes : Bytes}

/-- The bytes that stand for themselves between two quotes. -/
def IsPlainByte (byte : Byte) : Prop :=
  byte ≠ Ascii.quote ∧ byte ≠ Ascii.backslash ∧ Ascii.isControl byte = false

/-- A quote ends the content. -/
theorem readContent_quote : Reads (readContent (Ascii.quote :: rest)) [] rest := by
  rw [readContent, if_pos rfl]
  exact ⟨_, rfl⟩

/-- A byte that stands for itself goes before the others. -/
theorem readContent_plain {next : Byte} (isPlain : IsPlainByte next)
    (reads : Reads (readContent text) content rest) :
    Reads (readContent (next :: text)) (next :: content) rest := by
  obtain ⟨notQuote, notBackslash, notControl⟩ := isPlain
  rw [readContent, if_neg notQuote, if_neg notBackslash, if_neg (by simp [notControl])]
  apply reads.bind
  intro fewer
  exact ⟨_, rfl⟩

/-- Bytes that stand for themselves go before the others. -/
theorem readContent_plainBytes {front : Bytes} (arePlain : ∀ byte ∈ front, IsPlainByte byte)
    (reads : Reads (readContent text) content rest) :
    Reads (readContent (front ++ text)) (front ++ content) rest := by
  induction front with
  | nil => exact reads
  | cons next front inductionHypothesis =>
    rw [List.forall_mem_cons] at arePlain
    exact readContent_plain arePlain.1 (inductionHypothesis arePlain.2)

/-- What an escape stands for goes before the others. -/
theorem readContent_escape (readsEscape : Reads (readEscape text) bytes middle)
    (reads : Reads (readContent middle) content rest) :
    Reads (readContent (Ascii.backslash :: text)) (bytes ++ content) rest := by
  rw [readContent, if_neg (by decide), if_pos rfl]
  apply readsEscape.bind
  intro fewer
  apply reads.bind
  intro fewer'
  exact ⟨_, rfl⟩

/-- The escape of a character by a letter is read as the byte of the character. -/
theorem readEscape_letter {char letter : Char} (escaped : escapeLetter? char = some letter) :
    Reads (readEscape (String.utf8EncodeChar letter ++ rest)) (String.utf8EncodeChar char)
      rest := by
  unfold escapeLetter? at escaped
  split at escaped <;> cases escaped <;> exact ⟨_, rfl⟩

/-- The four hexadecimal digits of a number below 256. -/
def hexBytes (number : Nat) : Bytes :=
  [0x30, 0x30, (Nat.digitChar (number / 16)).toNat.toUInt8,
    (Nat.digitChar (number % 16)).toNat.toUInt8]

/-- The digits of a number are read as the number. -/
theorem readHex_hexBytes {number : Nat} (small : number < 0x100) :
    Reads (readHex (hexBytes number ++ rest)) number rest := by
  have digits : ∀ digit < 16,
      Ascii.hexValue? (Nat.digitChar digit).toNat.toUInt8 = some digit := by decide
  have high := digits (number / 16) (by omega)
  have low := digits (number % 16) (by omega)
  have zero : Ascii.hexValue? 0x30 = some 0 := by decide
  have total : ((0 * 16 + 0) * 16 + number / 16) * 16 + number % 16 = number := by omega
  simp only [hexBytes, List.cons_append, List.nil_append, readHex, high, low, zero, total]
  exact ⟨_, rfl⟩

/-- The digits of a control character are no half of a surrogate pair. -/
theorem readUnicodeEscape_hexBytes {char : Char} (control : char.toNat < 0x20) :
    Reads (readUnicodeEscape (hexBytes char.toNat ++ rest)) char rest := by
  have notLow : isLowSurrogate char.toNat = false := by
    simp only [isLowSurrogate, Bool.and_eq_false_iff, decide_eq_false_iff_not]
    omega
  have notHigh : isHighSurrogate char.toNat = false := by
    simp only [isHighSurrogate, Bool.and_eq_false_iff, decide_eq_false_iff_not]
    omega
  have reads : Reads (readHex (hexBytes char.toNat ++ rest)) char.toNat rest :=
    readHex_hexBytes (by omega)
  apply reads.bind
  intro fewer
  simp only [notLow, notHigh, Bool.false_eq_true, if_false, Taken.map, Char.ofNat_toNat]
  exact ⟨fewer, rfl⟩

/-- The escape of a control character by its number is read as the byte of the character. -/
theorem readEscape_number {char : Char} (control : char.toNat < 0x20) :
    Reads (readEscape (Ascii.letterU :: (hexBytes char.toNat ++ rest)))
      (String.utf8EncodeChar char) rest := by
  have noLetter : escapedByte? Ascii.letterU = none := rfl
  simp only [readEscape, noLetter, if_true]
  exact (readUnicodeEscape_hexBytes control).change fun fewer => ⟨_, rfl⟩

/-- Whether a byte stands for itself depends on its number. -/
theorem isPlainByte_of_toNat {byte : Byte} (notQuote : byte.toNat ≠ 0x22)
    (notBackslash : byte.toNat ≠ 0x5C) (notControl : ¬byte.toNat < 0x20) : IsPlainByte byte := by
  refine ⟨?_, ?_, ?_⟩
  · rintro rfl
    exact notQuote rfl
  · rintro rfl
    exact notBackslash rfl
  · simpa [Ascii.isControl, Ascii.space, UInt8.lt_iff_toNat_lt] using notControl

/-- A character that needs no escape stands for itself in all its bytes. -/
theorem isPlainByte_of_mem {char : Char} (unescaped : escapeLetter? char = none)
    (notControl : ¬char.toNat < 0x20) : ∀ byte ∈ String.utf8EncodeChar char, IsPlainByte byte := by
  have notQuote : char.toNat ≠ 0x22 := by
    intro same
    have isQuote : char = '"' := Char.toNat_inj.1 same
    cases isQuote
    cases unescaped
  have notBackslash : char.toNat ≠ 0x5C := by
    intro same
    have isBackslash : char = '\\' := Char.toNat_inj.1 same
    cases isBackslash
    cases unescaped
  intro byte member
  apply isPlainByte_of_toNat
  -- A small character is its only byte; all bytes of a large one are larger than any quote.
  all_goals
    by_cases small : char.toNat < 0x80
    · rw [Utf8.utf8EncodeChar_of_lt small, List.mem_singleton] at member
      rwa [member, Utf8.toNat_toUInt8 small]
    · have large := Utf8.le_of_mem_utf8EncodeChar (Nat.le_of_not_lt small) byte member
      omega

/-- The escape of a character by its number is written in digits. -/
theorem encode_hexDigits {number : Nat} (small : number < 0x100) :
    Utf8.encode ['\\', 'u', '0', '0', Nat.digitChar (number / 16), Nat.digitChar (number % 16)] =
      Ascii.backslash :: Ascii.letterU :: hexBytes number := by
  have digits : ∀ digit < 16, String.utf8EncodeChar (Nat.digitChar digit) =
      [(Nat.digitChar digit).toNat.toUInt8] := by decide
  simp only [Utf8.encode, List.flatMap_cons, List.flatMap_nil, digits (number / 16) (by omega),
    digits (number % 16) (by omega)]
  rfl

/-- The three ways in which a character is written between two quotes. -/
inductive WrittenChar (char : Char) : Bytes → Prop where
  | letter {letter : Char} (escaped : escapeLetter? char = some letter) :
      WrittenChar char (Ascii.backslash :: String.utf8EncodeChar letter)
  | number (control : char.toNat < 0x20) :
      WrittenChar char (Ascii.backslash :: Ascii.letterU :: hexBytes char.toNat)
  | plain (arePlain : ∀ byte ∈ String.utf8EncodeChar char, IsPlainByte byte) :
      WrittenChar char (String.utf8EncodeChar char)

/-- Every character is written in one of the three ways. -/
theorem writtenChar (char : Char) : WrittenChar char (Utf8.encode (escapedChar char)) := by
  cases escaped : escapeLetter? char with
  | some letter =>
    have bytes : Utf8.encode (escapedChar char) =
        Ascii.backslash :: String.utf8EncodeChar letter := by
      simp only [escapedChar, escaped, Utf8.encode, List.flatMap_cons, List.flatMap_nil,
        List.append_nil]
      rfl
    rw [bytes]
    exact .letter escaped
  | none =>
    by_cases control : char.toNat < 0x20
    · have bytes : Utf8.encode (escapedChar char) =
          Ascii.backslash :: Ascii.letterU :: hexBytes char.toNat := by
        rw [← encode_hexDigits (by omega)]
        simp only [escapedChar, escaped, if_pos control]
      rw [bytes]
      exact .number control
    · have bytes : Utf8.encode (escapedChar char) = String.utf8EncodeChar char := by
        simp [escapedChar, escaped, if_neg control, Utf8.encode]
      rw [bytes]
      exact .plain (isPlainByte_of_mem escaped control)

/-- A character in a string literal is read as its own bytes. -/
theorem readContent_escapedChar (char : Char) (reads : Reads (readContent text) content rest) :
    Reads (readContent (Utf8.encode (escapedChar char) ++ text))
      (String.utf8EncodeChar char ++ content) rest := by
  have written := writtenChar char
  generalize Utf8.encode (escapedChar char) = bytes at written ⊢
  cases written with
  | letter escaped => exact readContent_escape (readEscape_letter escaped) reads
  | number control => exact readContent_escape (readEscape_number control) reads
  | plain arePlain => exact readContent_plainBytes arePlain reads

/-- The characters of a string literal are read as their bytes, up to the closing quote. -/
theorem readContent_escapedChars (chars : List Char) :
    Reads (readContent (Utf8.encode (chars.flatMap escapedChar) ++ Ascii.quote :: rest))
      (Utf8.encode chars) rest := by
  induction chars with
  | nil => exact readContent_quote
  | cons char chars inductionHypothesis =>
    rw [List.flatMap_cons, Utf8.encode_append, List.append_assoc]
    exact readContent_escapedChar char inductionHypothesis

/-- A string literal behind its opening quote is read as its text. -/
theorem readString_written (written : String) :
    Reads (readString (Utf8.encode (written.toList.flatMap escapedChar) ++ Ascii.quote :: rest))
      written rest := by
  apply (readContent_escapedChars written.toList).bind
  intro fewer
  simp only [Utf8.decode_encode]
  exact ⟨fewer, by rw [Taken.map, String.ofList_toList]⟩

end OperatorKit.Json
