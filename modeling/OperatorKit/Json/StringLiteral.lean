import OperatorKit.Json.Reading
import OperatorKit.Text.Utf8

/-!
# String literals

What stands between two quotes. Escapes are replaced first, then the bytes must be valid UTF-8.
-/

namespace OperatorKit.Json

open OperatorKit.Text

/-- Takes four hexadecimal digits. -/
def readHex : Reader Nat
  | a :: b :: c :: d :: rest =>
    match Ascii.hexValue? a, Ascii.hexValue? b, Ascii.hexValue? c, Ascii.hexValue? d with
    | some a, some b, some c, some d =>
      .ok ⟨((a * 16 + b) * 16 + c) * 16 + d, rest, by simp only [List.length_cons]; omega⟩
    | _, _, _, _ => .error (.here .invalidEscape rest)
  | _ => .error (.here .endInString [])

/-- Takes one byte that must be `expected`, inside the escape of a surrogate pair. -/
def readPairByte (expected : Byte) : Reader Unit
  | [] => .error (.here .endInString [])
  | next :: rest =>
    if next = expected then .ok (.leaving () rest)
    else .error (.here .endOfSurrogatePair rest)

/-- The second halves of surrogate pairs. -/
def isLowSurrogate (unit : Nat) : Bool :=
  0xDC00 ≤ unit && unit ≤ 0xDFFF

/-- The first halves of surrogate pairs. -/
def isHighSurrogate (unit : Nat) : Bool :=
  0xD800 ≤ unit && unit ≤ 0xDBFF

/-- The character written as a surrogate pair. -/
def joinSurrogates (high low : Nat) : Char :=
  Char.ofNat (0x10000 + (high - 0xD800) * 0x400 + (low - 0xDC00))

/-- Takes what follows `\u`: four digits, or two such groups for a character beyond 16 bits. -/
def readUnicodeEscape : Reader Char := fun text => do
  let first ← readHex text
  if isLowSurrogate first.value then
    .error (.here .loneSurrogate first.rest)
  else if isHighSurrogate first.value then
    let slash ← readPairByte Ascii.backslash first.rest
    let letter ← readPairByte Ascii.letterU slash.rest
    let second ← readHex letter.rest
    if isLowSurrogate second.value then
      .ok ((first.after (slash.after (letter.after second))).map fun low =>
        joinSurrogates first.value low)
    else .error (.here .loneSurrogate second.rest)
  else .ok (first.map Char.ofNat)

/-- The byte that a letter after a backslash stands for. -/
def escapedByte? : Byte → Option Byte
  | Ascii.quote => some Ascii.quote
  | Ascii.backslash => some Ascii.backslash
  | Ascii.slash => some Ascii.slash
  | Ascii.letterB => some Ascii.backspace
  | Ascii.letterF => some Ascii.formFeed
  | Ascii.letterN => some Ascii.lineFeed
  | Ascii.letterR => some Ascii.carriageReturn
  | Ascii.letterT => some Ascii.tab
  | _ => none

/-- Takes what follows a backslash and gives the bytes that it stands for. -/
def readEscape : Reader Bytes
  | [] => .error (.here .endInString [])
  | letter :: rest =>
    match escapedByte? letter with
    | some byte => .ok (.leaving [byte] rest)
    | none =>
      if letter = Ascii.letterU then
        (readUnicodeEscape rest).map fun taken => (taken.map String.utf8EncodeChar).afterByte
      else .error (.here .invalidEscape rest)

/-- Takes what follows an opening quote, up to and with the closing one, and gives the bytes of the
content with its escapes replaced. -/
def readContent : Reader Bytes
  | [] => .error (.here .endInString [])
  | next :: rest => do
    if next = Ascii.quote then
      .ok (.leaving [] rest)
    else if next = Ascii.backslash then
      let escape ← readEscape rest
      let more ← readContent escape.rest
      .ok ((escape.after more).map (escape.value ++ ·)).afterByte
    else if Ascii.isControl next then
      .error (.here .controlCharacter rest)
    else
      let more ← readContent rest
      .ok (more.map (next :: ·)).afterByte
termination_by text => text.length
decreasing_by
  · have := escape.fewer
    simp only [List.length_cons]
    omega
  · exact Nat.lt_succ_self _

/-- Takes what follows an opening quote, up to and with the closing one, and gives its text. The
fault of bytes that are not UTF-8 lies as many bytes before the end as are not valid. -/
def readString : Reader String := fun text => do
  let content ← readContent text
  match Utf8.decode content.value with
  | (chars, []) => .ok (content.map fun _ => String.ofList chars)
  | (_, invalid) => .error ⟨.invalidUnicode, content.rest.length + invalid.length⟩

end OperatorKit.Json
