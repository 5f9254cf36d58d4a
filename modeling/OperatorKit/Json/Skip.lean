import OperatorKit.Json.Reader

/-!
# Skipping values

A value that nobody asked for is passed over without being built. Any depth of nesting will do, and
only the form of numbers and strings is looked at: numbers may be out of range and strings need not
be UTF-8.
-/

namespace OperatorKit.Json

open OperatorKit.Text

/-- Passes the letter of an escape and what belongs to it. -/
def skipEscape : Reader Unit
  | [] => .error (.here .endInString [])
  | letter :: rest =>
    if (escapedByte? letter).isSome then .ok (.leaving () rest)
    else if letter = Ascii.letterU then
      (readHex rest).map fun digits => (digits.map fun _ => ()).afterByte
    else .error (.here .invalidEscape rest)

/-- Passes what follows an opening quote, up to and with the closing one. -/
def skipContent : Reader Unit
  | [] => .error (.here .endInString [])
  | next :: rest => do
    if next = Ascii.quote then
      .ok (.leaving () rest)
    else if next = Ascii.backslash then
      let escape ← skipEscape rest
      (skipContent escape.rest).map fun more => (escape.after more).afterByte
    else if Ascii.isControl next then
      .error (.here .controlCharacter (next :: rest))
    else (skipContent rest).map Taken.afterByte
termination_by text => text.length
decreasing_by
  · have := escape.fewer
    simp only [List.length_cons]
    omega
  · exact Nat.lt_succ_self _

/-- Passes what follows the letter of an exponent. -/
def skipExponent : Reader Unit := fun text =>
  match signed : readSign text with
  | (_, []) => .error (.here .invalidNumber [])
  | (_, first :: more) =>
    if Ascii.isDigit first then
      let taken := (Taken.leaving () (skipDigits more)).widen (length_skipDigits_succ_le more)
      .ok (taken.widen (length_lt_of_readSign signed))
    else .error (.here .invalidNumber more)

/-- Passes an exponent if there is one. -/
def skipScale : (text : Bytes) → Except Fault (Taken Unit (text.length + 1))
  | Ascii.letterE :: rest | Ascii.capitalE :: rest =>
    (skipExponent rest).map (·.afterByte.afterByte)
  | rest => .ok (.leaving () rest)

/-- Passes what follows the integer digits of a number. -/
def skipAfterInteger : (text : Bytes) → Except Fault (Taken Unit (text.length + 1))
  | Ascii.dot :: rest =>
    if startsWithDigit rest then
      (skipScale (skipDigits rest)).map fun taken =>
        (taken.widen (length_skipDigits_succ_le rest)).afterByte
    else .error (.atNext .invalidNumber rest)
  | rest => skipScale rest

/-- Passes a number without its sign. -/
def skipNumber : Reader Unit
  | [] => .error (.here .invalidNumber [])
  | first :: more =>
    if first = Ascii.zero then
      if startsWithDigit more then .error (.atNext .invalidNumber more)
      else skipAfterInteger more
    else if Ascii.isDigit first then
      (skipAfterInteger (skipDigits more)).map
        (·.widen (length_skipDigits_succ_le more))
    else .error (.here .invalidNumber more)

/-- Passes a key and the colon after it. -/
def skipKey : Reader Unit := fun text =>
  match blanks : skipBlanks text with
  | [] => .error (.atNext .endInObject [])
  | first :: rest => do
    if first = Ascii.quote then
      let key ← skipContent rest
      match moreBlanks : skipBlanks key.rest with
      | [] => .error (.atNext .endInObject [])
      | next :: more =>
        if next = Ascii.colon then
          let colon := (Taken.leaving () more).widen (length_lt_of_skipBlanks moreBlanks)
          .ok ((key.after colon).afterByte.widen (length_lt_of_skipBlanks blanks))
        else .error (.atNext .expectedColon (next :: more))
    else .error (.atNext .keyNotString (first :: rest))

mutual

/-- Passes a value. -/
def skipValue (text : Bytes) : Except Fault (Taken Unit text.length) :=
  match blanks : skipBlanks text with
  | [] => .error (.atNext .endInValue [])
  | next :: rest =>
    have shorter : rest.length < text.length := length_lt_of_skipBlanks blanks
    if next = Ascii.letterN then (readWord Ascii.afterN rest).map (·.widen shorter)
    else if next = Ascii.letterT then (readWord Ascii.afterT rest).map (·.widen shorter)
    else if next = Ascii.letterF then (readWord Ascii.afterF rest).map (·.widen shorter)
    else if next = Ascii.minus then (skipNumber rest).map (·.afterByte.widen shorter)
    else if Ascii.isDigit next then (skipNumber (next :: rest)).map (·.widen shorter)
    else if next = Ascii.quote then (skipContent rest).map (·.afterByte.widen shorter)
    else if next = Ascii.openBracket then
      match moreBlanks : skipBlanks rest with
      | [] => .error (.atNext .endInList [])
      | first :: more =>
        have evenShorter : more.length < rest.length := length_lt_of_skipBlanks moreBlanks
        if first = Ascii.closeBracket then .ok ⟨(), more, Nat.lt_trans evenShorter shorter⟩
        else (skipItems (first :: more)).map fun taken =>
          (taken.widen evenShorter).afterByte.widen shorter
    else if next = Ascii.openBrace then
      match moreBlanks : skipBlanks rest with
      | [] => .error (.atNext .endInObject [])
      | first :: more =>
        have evenShorter : more.length < rest.length := length_lt_of_skipBlanks moreBlanks
        if first = Ascii.closeBrace then .ok ⟨(), more, Nat.lt_trans evenShorter shorter⟩
        else (skipMembers (first :: more)).map fun taken =>
          (taken.widen evenShorter).afterByte.widen shorter
    else .error (.atNext .expectedValue (next :: rest))
termination_by 2 * text.length
decreasing_by
  all_goals
    simp only [List.length_cons]
    omega

/-- Passes at least one item of an array, and its closing bracket. -/
def skipItems (text : Bytes) : Except Fault (Taken Unit text.length) := do
  let item ← skipValue text
  match blanks : skipBlanks item.rest with
  | [] => .error (.atNext .endInList [])
  | next :: rest =>
    have shorter : rest.length < item.rest.length := length_lt_of_skipBlanks blanks
    have bound : rest.length < text.length := Nat.lt_trans shorter item.fewer
    if next = Ascii.comma then (skipItems rest).map (·.afterByte.widen bound)
    else if next = Ascii.closeBracket then .ok ⟨(), rest, bound⟩
    else .error (.atNext .expectedCommaOrBracket (next :: rest))
termination_by 2 * text.length + 1
decreasing_by
  · omega
  · omega

/-- Passes at least one member of an object, and its closing brace. -/
def skipMembers (text : Bytes) : Except Fault (Taken Unit text.length) := do
  let key ← skipKey text
  let value ← skipValue key.rest
  match blanks : skipBlanks value.rest with
  | [] => .error (.atNext .endInObject [])
  | next :: rest =>
    have shorter : rest.length < value.rest.length := length_lt_of_skipBlanks blanks
    have bound : rest.length < text.length :=
      Nat.lt_trans (Nat.lt_trans shorter value.fewer) key.fewer
    if next = Ascii.comma then (skipMembers rest).map (·.afterByte.widen bound)
    else if next = Ascii.closeBrace then .ok ⟨(), rest, bound⟩
    else .error (.atNext .expectedCommaOrBrace (next :: rest))
termination_by 2 * text.length + 1
decreasing_by
  · have := key.fewer
    omega
  · omega

end

end OperatorKit.Json
