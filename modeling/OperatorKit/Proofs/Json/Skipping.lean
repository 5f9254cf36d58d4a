import OperatorKit.Proofs.Json.SkippingScalars
import OperatorKit.Proofs.Json.Written

/-!
# Skipping written values

Every written value is passed over up to its end, whatever its numbers and however deep it is. There
is one rule for each way through the skipping reader; the rules are put together along the value.
-/

namespace OperatorKit.Json

open OperatorKit.Text

variable {text middle rest : Bytes}

section Values

variable {next : Byte}

/-- What is passed depends on the first byte behind the blanks. -/
theorem skipValue_eq (blanks : skipBlanks text = next :: rest) :
    skipValue text =
      have shorter : rest.length < text.length := length_lt_of_skipBlanks blanks
      if next = Ascii.letterN then (readWord Ascii.afterN rest).map (·.widen shorter)
      else if next = Ascii.letterT then (readWord Ascii.afterT rest).map (·.widen shorter)
      else if next = Ascii.letterF then (readWord Ascii.afterF rest).map (·.widen shorter)
      else if next = Ascii.minus then (skipNumber rest).map (·.afterByte.widen shorter)
      else if Ascii.isDigit next then (skipNumber (next :: rest)).map (·.widen shorter)
      else if next = Ascii.quote then (skipContent rest).map (·.afterByte.widen shorter)
      else if next = Ascii.openBracket then
        match moreBlanks : skipBlanks rest with
        | [] => .error (.atNext .endInList [])
        | first :: more =>
          have evenShorter : more.length < rest.length := length_lt_of_skipBlanks moreBlanks
          if first = Ascii.closeBracket then .ok ⟨(), more, Nat.lt_trans evenShorter shorter⟩
          else (skipItems (first :: more)).map fun taken =>
            (taken.widen evenShorter).afterByte.widen shorter
      else if next = Ascii.openBrace then
        match moreBlanks : skipBlanks rest with
        | [] => .error (.atNext .endInObject [])
        | first :: more =>
          have evenShorter : more.length < rest.length := length_lt_of_skipBlanks moreBlanks
          if first = Ascii.closeBrace then .ok ⟨(), more, Nat.lt_trans evenShorter shorter⟩
          else (skipMembers (first :: more)).map fun taken =>
            (taken.widen evenShorter).afterByte.widen shorter
      else .error (.atNext .expectedValue (next :: rest)) := by
  rw [skipValue]
  exact match_skipBlanks blanks _ _

/-- The word for nothing is passed. -/
theorem skipValue_null (blanks : skipBlanks text = Ascii.letterN :: (Ascii.afterN ++ rest)) :
    Reads (skipValue text) () rest := by
  rw [skipValue_eq blanks, if_pos rfl]
  exact (readWord_append Ascii.afterN).change fun fewer => ⟨_, rfl⟩

/-- The word for what is true is passed. -/
theorem skipValue_true (blanks : skipBlanks text = Ascii.letterT :: (Ascii.afterT ++ rest)) :
    Reads (skipValue text) () rest := by
  rw [skipValue_eq blanks, if_neg (by decide), if_pos rfl]
  exact (readWord_append Ascii.afterT).change fun fewer => ⟨_, rfl⟩

/-- The word for what is false is passed. -/
theorem skipValue_false (blanks : skipBlanks text = Ascii.letterF :: (Ascii.afterF ++ rest)) :
    Reads (skipValue text) () rest := by
  rw [skipValue_eq blanks, if_neg (by decide), if_neg (by decide), if_pos rfl]
  exact (readWord_append Ascii.afterF).change fun fewer => ⟨_, rfl⟩

/-- A number behind a minus is passed. -/
theorem skipValue_minus (blanks : skipBlanks text = Ascii.minus :: middle)
    (passes : Reads (skipNumber middle) () rest) : Reads (skipValue text) () rest := by
  rw [skipValue_eq blanks, if_neg (by decide), if_neg (by decide), if_neg (by decide), if_pos rfl]
  exact passes.change fun fewer => ⟨_, rfl⟩

/-- A number without a minus is passed. -/
theorem skipValue_digit (blanks : skipBlanks text = next :: middle)
    (isDigit : Ascii.isDigit next = true) (passes : Reads (skipNumber (next :: middle)) () rest) :
    Reads (skipValue text) () rest := by
  obtain ⟨notN, notT, notF, notMinus⟩ := ne_of_isDigit isDigit
  rw [skipValue_eq blanks, if_neg notN, if_neg notT, if_neg notF, if_neg notMinus, if_pos isDigit]
  exact passes.change fun fewer => ⟨_, rfl⟩

/-- A string behind its quote is passed. -/
theorem skipValue_quote (blanks : skipBlanks text = Ascii.quote :: middle)
    (passes : Reads (skipContent middle) () rest) : Reads (skipValue text) () rest := by
  rw [skipValue_eq blanks, if_neg (by decide), if_neg (by decide), if_neg (by decide),
    if_neg (by decide), if_neg (by decide), if_pos rfl]
  exact passes.change fun fewer => ⟨_, rfl⟩

/-- How an array is passed depends on the first byte inside its bracket. -/
theorem skipValue_openBracket {more : Bytes} (blanks : skipBlanks text = Ascii.openBracket :: middle)
    (starts : skipBlanks middle = next :: more) :
    skipValue text =
      have shorter := length_lt_of_skipBlanks blanks
      have evenShorter := length_lt_of_skipBlanks starts
      if next = Ascii.closeBracket then .ok ⟨(), more, Nat.lt_trans evenShorter shorter⟩
      else (skipItems (next :: more)).map fun taken =>
        (taken.widen evenShorter).afterByte.widen shorter := by
  rw [skipValue_eq blanks, if_neg (by decide), if_neg (by decide), if_neg (by decide),
    if_neg (by decide), if_neg (by decide), if_neg (by decide), if_pos rfl]
  exact match_skipBlanks starts _ _

/-- An array without items is passed. -/
theorem skipValue_emptyArray (blanks : skipBlanks text = Ascii.openBracket :: middle)
    (closes : skipBlanks middle = Ascii.closeBracket :: rest) :
    Reads (skipValue text) () rest := by
  rw [skipValue_openBracket blanks closes, if_pos rfl]
  exact ⟨_, rfl⟩

/-- An array is passed with its items. -/
theorem skipValue_array {more : Bytes} (blanks : skipBlanks text = Ascii.openBracket :: middle)
    (starts : skipBlanks middle = next :: more) (notClosed : next ≠ Ascii.closeBracket)
    (passes : Reads (skipItems (next :: more)) () rest) : Reads (skipValue text) () rest := by
  rw [skipValue_openBracket blanks starts, if_neg notClosed]
  exact passes.change fun fewer => ⟨_, rfl⟩

/-- How an object is passed depends on the first byte inside its brace. -/
theorem skipValue_openBrace {more : Bytes} (blanks : skipBlanks text = Ascii.openBrace :: middle)
    (starts : skipBlanks middle = next :: more) :
    skipValue text =
      have shorter := length_lt_of_skipBlanks blanks
      have evenShorter := length_lt_of_skipBlanks starts
      if next = Ascii.closeBrace then .ok ⟨(), more, Nat.lt_trans evenShorter shorter⟩
      else (skipMembers (next :: more)).map fun taken =>
        (taken.widen evenShorter).afterByte.widen shorter := by
  rw [skipValue_eq blanks, if_neg (by decide), if_neg (by decide), if_neg (by decide),
    if_neg (by decide), if_neg (by decide), if_neg (by decide), if_neg (by decide), if_pos rfl]
  exact match_skipBlanks starts _ _

/-- An object without members is passed. -/
theorem skipValue_emptyObject (blanks : skipBlanks text = Ascii.openBrace :: middle)
    (closes : skipBlanks middle = Ascii.closeBrace :: rest) : Reads (skipValue text) () rest := by
  rw [skipValue_openBrace blanks closes, if_pos rfl]
  exact ⟨_, rfl⟩

/-- An object is passed with its members. -/
theorem skipValue_object {more : Bytes} (blanks : skipBlanks text = Ascii.openBrace :: middle)
    (starts : skipBlanks middle = next :: more) (notClosed : next ≠ Ascii.closeBrace)
    (passes : Reads (skipMembers (next :: more)) () rest) : Reads (skipValue text) () rest := by
  rw [skipValue_openBrace blanks starts, if_neg notClosed]
  exact passes.change fun fewer => ⟨_, rfl⟩

/-- An item is passed before the others. -/
theorem skipItems_more {afterComma : Bytes} (passes : Reads (skipValue text) () middle)
    (comma : skipBlanks middle = Ascii.comma :: afterComma)
    (passesOthers : Reads (skipItems afterComma) () rest) : Reads (skipItems text) () rest := by
  rw [skipItems]
  apply passes.bind
  intro fewer
  refine Reads.behindBlanks comma ?_
  rw [if_pos rfl]
  exact passesOthers.change fun fewer' => ⟨_, rfl⟩

/-- The last item is passed with the closing bracket. -/
theorem skipItems_last (passes : Reads (skipValue text) () middle)
    (closes : skipBlanks middle = Ascii.closeBracket :: rest) :
    Reads (skipItems text) () rest := by
  rw [skipItems]
  apply passes.bind
  intro fewer
  refine Reads.behindBlanks closes ?_
  rw [if_neg (by decide), if_pos rfl]
  exact ⟨_, rfl⟩

/-- A key is passed with its colon. -/
theorem skipKey_colon {afterQuote afterKey : Bytes}
    (blanks : skipBlanks text = Ascii.quote :: afterQuote)
    (passes : Reads (skipContent afterQuote) () afterKey)
    (colon : skipBlanks afterKey = Ascii.colon :: rest) : Reads (skipKey text) () rest := by
  refine Reads.behindBlanks blanks ?_
  rw [if_pos rfl]
  apply passes.bind
  intro fewer
  refine Reads.behindBlanks colon ?_
  rw [if_pos rfl]
  exact ⟨_, rfl⟩

/-- A member is passed before the others. -/
theorem skipMembers_more {afterKey afterComma : Bytes} (passesKey : Reads (skipKey text) () afterKey)
    (passes : Reads (skipValue afterKey) () middle)
    (comma : skipBlanks middle = Ascii.comma :: afterComma)
    (passesOthers : Reads (skipMembers afterComma) () rest) :
    Reads (skipMembers text) () rest := by
  rw [skipMembers]
  apply passesKey.bind
  intro fewer
  apply passes.bind
  intro fewer'
  refine Reads.behindBlanks comma ?_
  rw [if_pos rfl]
  exact passesOthers.change fun _ => ⟨_, rfl⟩

/-- The last member is passed with the closing brace. -/
theorem skipMembers_last {afterKey : Bytes} (passesKey : Reads (skipKey text) () afterKey)
    (passes : Reads (skipValue afterKey) () middle)
    (closes : skipBlanks middle = Ascii.closeBrace :: rest) :
    Reads (skipMembers text) () rest := by
  rw [skipMembers]
  apply passesKey.bind
  intro fewer
  apply passes.bind
  intro fewer'
  refine Reads.behindBlanks closes ?_
  rw [if_neg (by decide), if_pos rfl]
  exact ⟨_, rfl⟩

end Values

section Written

variable {layout : Layout} {closing : Bytes}

/-- A written number is passed. -/
theorem skipValue_number (number : Number) (ends : EndsNumber rest)
    (written : skipBlanks text = Utf8.encode number.chars ++ rest) :
    Reads (skipValue text) () rest := by
  obtain ⟨numeral, isNumeral, unsigned | signed⟩ := exists_numeral_chars number
  · obtain ⟨first, more, encoded, isDigit⟩ := isNumeral.encode
    have passes := skipNumber_written isNumeral ends
    rw [unsigned, encoded] at written
    rw [encoded] at passes
    exact skipValue_digit written isDigit passes
  · rw [signed] at written
    exact skipValue_minus written (skipNumber_written isNumeral ends)

/-- The written items of an array are passed if each of them is, up to the closing bracket. -/
theorem skipItems_written {item : Value} {items : List Value}
    (passes : ∀ value ∈ item :: items, TakesWritten skipValue layout value ())
    (closes : skipBlanks closing = Ascii.closeBracket :: rest)
    (starts : skipBlanks text = Utf8.encode (item.chars layout) ++
      (Utf8.encode (Value.itemsChars layout false items) ++ closing)) :
    Reads (skipItems text) () rest := by
  induction items generalizing item text with
  | nil =>
    rw [List.forall_mem_singleton] at passes
    exact skipItems_last (passes _ _ (endsNumber_items layout [] closes) starts) closes
  | cons second items inductionHypothesis =>
    rw [List.forall_mem_cons] at passes
    have ends := endsNumber_items layout (second :: items) closes
    obtain ⟨afterComma, comma, startsSecond⟩ := atNext_items layout false second items closing
    exact skipItems_more (passes.1 _ _ ends starts) comma
      (inductionHypothesis passes.2 startsSecond)

/-- A written key is passed with its colon. -/
theorem skipKey_written {key : String} {value : Value} (starts : skipBlanks text =
    Utf8.encode (stringChars key) ++ (Utf8.encode layout.colon ++
      (Utf8.encode (value.chars layout) ++ rest))) :
    ∃ afterColon, Reads (skipKey text) () afterColon ∧
      skipBlanks afterColon = Utf8.encode (value.chars layout) ++ rest := by
  obtain ⟨blanks, colon, areBlank⟩ := encode_colon layout
  have startsValue := (skipBlanks_append areBlank _).trans (skipBlanks_chars layout value rest)
  rw [encode_stringChars, colon, List.cons_append] at starts
  exact ⟨_, skipKey_colon starts (skipContent_written key.toList)
    (skipBlanks_cons (by decide) _), startsValue⟩

/-- The written members of an object are passed if the value of each is, up to the closing brace. -/
theorem skipMembers_written {key : String} {value : Value} {members : List (String × Value)}
    (passes : ∀ member ∈ (key, value) :: members, TakesWritten skipValue layout member.2 ())
    (closes : skipBlanks closing = Ascii.closeBrace :: rest)
    (starts : skipBlanks text = Utf8.encode (stringChars key) ++ (Utf8.encode layout.colon ++
      (Utf8.encode (value.chars layout) ++
        (Utf8.encode (Value.membersChars layout false members) ++ closing)))) :
    Reads (skipMembers text) () rest := by
  induction members generalizing key value text with
  | nil =>
    rw [List.forall_mem_singleton] at passes
    obtain ⟨afterColon, passesKey, startsValue⟩ := skipKey_written starts
    exact skipMembers_last passesKey
      (passes _ _ (endsNumber_members layout [] closes) startsValue) closes
  | cons second members inductionHypothesis =>
    obtain ⟨secondKey, second⟩ := second
    rw [List.forall_mem_cons] at passes
    obtain ⟨afterColon, passesKey, startsValue⟩ := skipKey_written starts
    have ends := endsNumber_members layout ((secondKey, second) :: members) closes
    obtain ⟨afterComma, comma, startsSecond⟩ :=
      atNext_members layout false secondKey second members closing
    exact skipMembers_more passesKey (passes.1 _ _ ends startsValue) comma
      (inductionHypothesis passes.2 startsSecond)

/-- A written array is passed if each of its items is. -/
theorem skipValue_writtenArray {items : List Value}
    (passes : ∀ item ∈ items, TakesWritten skipValue layout.deeper item ()) :
    TakesWritten skipValue layout (.array items) () := by
  intro text rest ends written
  have closes : skipBlanks (Utf8.encode (beforeClosing layout items) ++
      Ascii.closeBracket :: rest) = Ascii.closeBracket :: rest :=
    skipBlanks_beforeClosing layout items (by decide)
  rw [encode_array] at written
  cases items with
  | nil => exact skipValue_emptyArray written closes
  | cons item items =>
    obtain ⟨next, more, encoded, -, notClosed⟩ := encode_chars layout.deeper item
    have starts := atNext_items layout.deeper true item items
      (Utf8.encode (beforeClosing layout (item :: items)) ++ Ascii.closeBracket :: rest)
    have passesItems := skipItems_written passes closes (skipBlanks_chars layout.deeper item _)
    rw [encoded, List.cons_append] at starts passesItems
    exact skipValue_array written starts notClosed passesItems

/-- A written object is passed if the value of each of its members is. -/
theorem skipValue_writtenObject {members : List (String × Value)}
    (passes : ∀ member ∈ members, TakesWritten skipValue layout.deeper member.2 ()) :
    TakesWritten skipValue layout (.object members) () := by
  intro text rest ends written
  have closes : skipBlanks (Utf8.encode (beforeClosing layout members) ++
      Ascii.closeBrace :: rest) = Ascii.closeBrace :: rest :=
    skipBlanks_beforeClosing layout members (by decide)
  rw [encode_object] at written
  cases members with
  | nil => exact skipValue_emptyObject written closes
  | cons member members =>
    obtain ⟨key, value⟩ := member
    have starts := atNext_members layout.deeper true key value members
      (Utf8.encode (beforeClosing layout ((key, value) :: members)) ++ Ascii.closeBrace :: rest)
    have passesMembers := skipMembers_written passes closes
      (skipBlanks_chars layout.deeper (.string key) _)
    rw [Value.chars, encode_stringChars] at passesMembers
    rw [encode_stringChars] at starts
    exact skipValue_object written starts (by decide) passesMembers

end Written

mutual

/-- Every written value is passed. -/
theorem skipValue_written (layout : Layout) : (value : Value) →
    TakesWritten skipValue layout value ()
  | .null => fun _ _ _ written => skipValue_null written
  | .boolean true => fun _ _ _ written => skipValue_true written
  | .boolean false => fun _ _ _ written => skipValue_false written
  | .number number => fun _ _ ends written => skipValue_number number ends written
  | .string content => fun text rest _ written => by
    rw [Value.chars, encode_stringChars] at written
    exact skipValue_quote written (skipContent_written content.toList)
  | .array items => skipValue_writtenArray (skipValue_items layout.deeper items)
  | .object members => skipValue_writtenObject (skipValue_members layout.deeper members)

/-- Every written item of an array is passed. -/
theorem skipValue_items (layout : Layout) : (items : List Value) →
    ∀ item ∈ items, TakesWritten skipValue layout item ()
  | [] => List.forall_mem_nil _
  | item :: items =>
    List.forall_mem_cons.2 ⟨skipValue_written layout item, skipValue_items layout items⟩

/-- Every written member of an object is passed. -/
theorem skipValue_members (layout : Layout) : (members : List (String × Value)) →
    ∀ member ∈ members, TakesWritten skipValue layout member.2 ()
  | [] => List.forall_mem_nil _
  | (_, value) :: members =>
    List.forall_mem_cons.2 ⟨skipValue_written layout value, skipValue_members layout members⟩

end

end OperatorKit.Json
