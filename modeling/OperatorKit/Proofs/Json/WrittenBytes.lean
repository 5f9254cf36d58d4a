import OperatorKit.Json.Nesting
import OperatorKit.Json.Writer
import OperatorKit.Proofs.Json.IntegerText
import OperatorKit.Proofs.Json.NumberText
import OperatorKit.Proofs.Json.Reads

/-!
# The bytes of written values

What a reader has to know of a written value before it reads it: its first byte is neither blank nor
a closing bracket, what a layout adds is blank, and what follows an item ends a number.
-/

namespace OperatorKit.Json

open OperatorKit.Text OperatorKit.Decimal

variable {text rest : Bytes} {next : Byte}

/-- There are four blanks. -/
theorem blank_cases (isBlank : Ascii.isBlank next = true) : next = Ascii.space ∨
    next = Ascii.tab ∨ next = Ascii.lineFeed ∨ next = Ascii.carriageReturn := by
  simpa [Ascii.isBlank, or_assoc] using isBlank

/-- A number ends before blanks as it ends after them. -/
theorem endsNumber_of_skipBlanks (ends : EndsNumber (skipBlanks text)) : EndsNumber text := by
  intro next more shape
  by_cases isBlank : Ascii.isBlank next = true
  · rcases blank_cases isBlank with rfl | rfl | rfl | rfl <;> decide
  · rw [shape, skipBlanks_cons (by simpa using isBlank)] at ends
    exact ends next more rfl

/-- A number ends before the punctuation of arrays and objects. -/
theorem endsNumber_cons (punctuation : next = Ascii.comma ∨ next = Ascii.closeBracket ∨
    next = Ascii.closeBrace) : EndsNumber (next :: rest) := by
  intro byte more shape
  cases shape
  rcases punctuation with rfl | rfl | rfl <;> decide

/-- A line break is blank. -/
theorem isBlank_of_mem_lineBreak (layout : Layout) :
    ∀ byte ∈ Utf8.encode layout.lineBreak, Ascii.isBlank byte = true := by
  have lineFeed : String.utf8EncodeChar '\n' = [Ascii.lineFeed] := rfl
  have space : String.utf8EncodeChar ' ' = [Ascii.space] := rfl
  intro byte member
  obtain ⟨char, inBreak, inChar⟩ := List.mem_flatMap.1 member
  cases layout with
  | compact => cases inBreak
  | indented level =>
    rcases List.mem_cons.1 inBreak with isBreak | isSpace
    · rw [isBreak, lineFeed, List.mem_singleton] at inChar
      rw [inChar]
      rfl
    · rw [(List.mem_replicate.1 isSpace).2, space, List.mem_singleton] at inChar
      rw [inChar]
      rfl

/-- The blanks before a closing bracket are skipped. -/
theorem skipBlanks_beforeClosing {α : Type} (layout : Layout) (items : List α)
    (notBlank : Ascii.isBlank next = false) :
    skipBlanks (Utf8.encode (beforeClosing layout items) ++ next :: rest) = next :: rest := by
  unfold beforeClosing
  split
  · exact skipBlanks_cons notBlank rest
  · rw [skipBlanks_append (isBlank_of_mem_lineBreak layout), skipBlanks_cons notBlank]

/-- What follows a colon is blank. -/
theorem encode_colon (layout : Layout) :
    ∃ blanks, Utf8.encode layout.colon = Ascii.colon :: blanks ∧
      ∀ byte ∈ blanks, Ascii.isBlank byte = true := by
  cases layout with
  | compact => exact ⟨[], rfl, List.forall_mem_nil _⟩
  | indented level => exact ⟨[Ascii.space], rfl, List.forall_mem_singleton.2 rfl⟩

/-- The next item or key begins behind its comma and line break. -/
theorem atNext_written (layout : Layout) (isFirst : Bool) (notBlank : Ascii.isBlank next = false) :
    AtNext isFirst (Utf8.encode (separator isFirst ++ layout.lineBreak) ++ next :: rest)
      (next :: rest) := by
  have breaks := skipBlanks_append (isBlank_of_mem_lineBreak layout) (next :: rest)
  have starts := breaks.trans (skipBlanks_cons notBlank rest)
  cases isFirst with
  | true => exact starts
  | false => exact ⟨_, skipBlanks_cons (by decide) _, starts⟩

/-- A written number begins with a minus or a digit. -/
theorem encode_numberChars (number : Number) : ∃ first more,
    Utf8.encode number.chars = first :: more ∧
      (first = Ascii.minus ∨ Ascii.isDigit first = true) := by
  obtain ⟨numeral, isNumeral, unsigned | signed⟩ := exists_numeral_chars number
  · obtain ⟨first, more, encoded, isDigit⟩ := isNumeral.encode
    exact ⟨first, more, by rw [unsigned, encoded], Or.inr isDigit⟩
  · exact ⟨Ascii.minus, Utf8.encode numeral, by rw [signed]; rfl, Or.inl rfl⟩

/-- The first byte of a written value is not blank and no closing bracket. -/
theorem encode_chars (layout : Layout) (value : Value) :
    ∃ next more, Utf8.encode (value.chars layout) = next :: more ∧ Ascii.isBlank next = false ∧
      next ≠ Ascii.closeBracket := by
  cases value with
  | null => exact ⟨_, _, rfl, by decide, by decide⟩
  | boolean truth => cases truth <;> exact ⟨_, _, rfl, by decide, by decide⟩
  | number number =>
    obtain ⟨next, more, encoded, shape⟩ := encode_numberChars number
    refine ⟨next, more, encoded, ?_⟩
    rcases shape with rfl | isDigit
    · decide
    · constructor
      · refine Bool.eq_false_iff.2 fun isBlank => ?_
        rcases blank_cases isBlank with rfl | rfl | rfl | rfl <;> cases isDigit
      · rintro rfl
        cases isDigit
  | string text => exact ⟨_, _, rfl, by decide, by decide⟩
  | array items => exact ⟨_, _, rfl, by decide, by decide⟩
  | object members => exact ⟨_, _, rfl, by decide, by decide⟩

/-- A written value has no blanks in front. -/
theorem skipBlanks_chars (layout : Layout) (value : Value) (rest : Bytes) :
    skipBlanks (Utf8.encode (value.chars layout) ++ rest) =
      Utf8.encode (value.chars layout) ++ rest := by
  obtain ⟨next, more, encoded, notBlank, -⟩ := encode_chars layout value
  rw [encoded]
  exact skipBlanks_cons notBlank _

/-- The bytes of what stands between two characters of one byte each. -/
theorem encode_between {opening closing : Char} {first last : Byte}
    (opens : String.utf8EncodeChar opening = [first])
    (closes : String.utf8EncodeChar closing = [last]) (inside : List Char) :
    Utf8.encode (opening :: (inside ++ [closing])) ++ rest =
      first :: (Utf8.encode inside ++ last :: rest) := by
  simp only [Utf8.encode, List.flatMap_cons, List.flatMap_append, List.flatMap_nil, opens, closes,
    List.append_nil, List.append_assoc, List.cons_append, List.nil_append]

/-- The bytes of a string. -/
theorem encode_stringChars (content : String) :
    Utf8.encode (stringChars content) ++ rest =
      Ascii.quote :: (Utf8.encode (content.toList.flatMap escapedChar) ++ Ascii.quote :: rest) :=
  encode_between rfl rfl _

/-- The bytes of an array. -/
theorem encode_array (layout : Layout) (items : List Value) :
    Utf8.encode ((Value.array items).chars layout) ++ rest =
      Ascii.openBracket :: (Utf8.encode (Value.itemsChars layout.deeper true items) ++
        (Utf8.encode (beforeClosing layout items) ++ Ascii.closeBracket :: rest)) := by
  rw [Value.chars, encode_between rfl rfl, Utf8.encode_append, List.append_assoc]
  rfl

/-- The bytes of an object. -/
theorem encode_object (layout : Layout) (members : List (String × Value)) :
    Utf8.encode ((Value.object members).chars layout) ++ rest =
      Ascii.openBrace :: (Utf8.encode (Value.membersChars layout.deeper true members) ++
        (Utf8.encode (beforeClosing layout members) ++ Ascii.closeBrace :: rest)) := by
  rw [Value.chars, encode_between rfl rfl, Utf8.encode_append, List.append_assoc]
  rfl

/-- The bytes of the first of several items. -/
theorem encode_items (layout : Layout) (isFirst : Bool) (item : Value) (items : List Value) :
    Utf8.encode (Value.itemsChars layout isFirst (item :: items)) ++ rest =
      Utf8.encode (separator isFirst ++ layout.lineBreak) ++ (Utf8.encode (item.chars layout) ++
        (Utf8.encode (Value.itemsChars layout false items) ++ rest)) := by
  simp only [Value.itemsChars, Utf8.encode_append, List.append_assoc]

/-- The bytes of the first of several members. -/
theorem encode_members (layout : Layout) (isFirst : Bool) (key : String) (value : Value)
    (members : List (String × Value)) :
    Utf8.encode (Value.membersChars layout isFirst ((key, value) :: members)) ++ rest =
      Utf8.encode (separator isFirst ++ layout.lineBreak) ++ (Utf8.encode (stringChars key) ++
        (Utf8.encode layout.colon ++ (Utf8.encode (value.chars layout) ++
          (Utf8.encode (Value.membersChars layout false members) ++ rest)))) := by
  simp only [Value.membersChars, Utf8.encode_append, List.append_assoc]

/-- The first of several items begins behind its comma and line break. -/
theorem atNext_items (layout : Layout) (isFirst : Bool) (item : Value) (items : List Value)
    (closing : Bytes) :
    AtNext isFirst (Utf8.encode (Value.itemsChars layout isFirst (item :: items)) ++ closing)
      (Utf8.encode (item.chars layout) ++
        (Utf8.encode (Value.itemsChars layout false items) ++ closing)) := by
  obtain ⟨next, more, encoded, notBlank, -⟩ := encode_chars layout item
  rw [encode_items, encoded, List.cons_append]
  exact atNext_written layout isFirst notBlank

/-- The key of the first of several members begins behind its comma and line break. -/
theorem atNext_members (layout : Layout) (isFirst : Bool) (key : String) (value : Value)
    (members : List (String × Value)) (closing : Bytes) :
    AtNext isFirst
      (Utf8.encode (Value.membersChars layout isFirst ((key, value) :: members)) ++ closing)
      (Utf8.encode (stringChars key) ++ (Utf8.encode layout.colon ++
        (Utf8.encode (value.chars layout) ++
          (Utf8.encode (Value.membersChars layout false members) ++ closing)))) := by
  rw [encode_members, encode_stringChars]
  exact atNext_written layout isFirst (by decide)

/-- A number ends before a comma and before the blanks of a closing bracket. -/
theorem endsNumber_append {chars : List Char} {closing : Bytes}
    (comma : chars = [] ∨ ∃ more, chars = ',' :: more)
    (closes : skipBlanks closing = next :: rest)
    (bracket : next = Ascii.closeBracket ∨ next = Ascii.closeBrace) :
    EndsNumber (Utf8.encode chars ++ closing) := by
  rcases comma with rfl | ⟨more, rfl⟩
  · apply endsNumber_of_skipBlanks
    rw [Utf8.encode, List.flatMap_nil, List.nil_append, closes]
    exact endsNumber_cons (Or.inr bracket)
  · have first : Utf8.encode (',' :: more) ++ closing =
        Ascii.comma :: (Utf8.encode more ++ closing) := rfl
    rw [first]
    exact endsNumber_cons (Or.inl rfl)

/-- An item ends before the other items and the closing bracket. -/
theorem endsNumber_items (layout : Layout) (items : List Value) {closing : Bytes}
    (closes : skipBlanks closing = Ascii.closeBracket :: rest) :
    EndsNumber (Utf8.encode (Value.itemsChars layout false items) ++ closing) := by
  refine endsNumber_append ?_ closes (Or.inl rfl)
  cases items with
  | nil => exact Or.inl rfl
  | cons item items => exact Or.inr ⟨_, rfl⟩

/-- A member ends before the other members and the closing brace. -/
theorem endsNumber_members (layout : Layout) (members : List (String × Value)) {closing : Bytes}
    (closes : skipBlanks closing = Ascii.closeBrace :: rest) :
    EndsNumber (Utf8.encode (Value.membersChars layout false members) ++ closing) := by
  refine endsNumber_append ?_ closes (Or.inr rfl)
  cases members with
  | nil => exact Or.inl rfl
  | cons member members => exact Or.inr ⟨_, rfl⟩

end OperatorKit.Json
