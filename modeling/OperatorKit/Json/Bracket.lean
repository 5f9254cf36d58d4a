import OperatorKit.Json.StringLiteral

/-!
# Inside brackets and braces

The punctuation of arrays and objects: what may stand before an item or a key, and the loops over
all of them. The loops take the reader of one item or member and know nothing of its type.
-/

namespace OperatorKit.Json

open OperatorKit.Text

/-- What comes next inside a bracket: its end, or something more. -/
inductive Next (α : Type) (bound : Nat) where
  | closed (rest : Bytes) (fewer : rest.length < bound)
  | more (value : α) (rest : Bytes) (fits : rest.length ≤ bound)

/-- Goes to the next item of an array, past the comma in front of all but the first. -/
def nextItem (isFirst : Bool) (text : Bytes) : Except Fault (Next Unit text.length) :=
  match blanks : skipBlanks text with
  | [] => .error (.atNext .endInList [])
  | next :: rest =>
    have shorter := length_lt_of_skipBlanks blanks
    if next = Ascii.closeBracket then .ok (.closed rest shorter)
    else if isFirst then .ok (.more () (next :: rest) shorter)
    else if next = Ascii.comma then
      match moreBlanks : skipBlanks rest with
      | [] => .error (.atNext .endInValue [])
      | item :: more =>
        have evenShorter := length_lt_of_skipBlanks moreBlanks
        if item = Ascii.closeBracket then .error (.atNext .trailingComma (item :: more))
        else .ok (.more () (item :: more) (Nat.le_trans evenShorter (Nat.le_of_lt shorter)))
    else .error (.atNext .expectedCommaOrBracket (next :: rest))

/-- Takes a key that begins with this byte. -/
def readKey (first : Byte) (rest : Bytes) : Except Fault (Taken String (rest.length + 1)) :=
  if first = Ascii.quote then (readString rest).map Taken.afterByte
  else .error (.atNext .keyNotString (first :: rest))

/-- Takes the next key of an object, past the comma in front of all but the first. -/
def nextKey (isFirst : Bool) (text : Bytes) : Except Fault (Next String text.length) :=
  match blanks : skipBlanks text with
  | [] => .error (.atNext .endInObject [])
  | next :: rest => do
    have shorter := length_lt_of_skipBlanks blanks
    if next = Ascii.closeBrace then .ok (.closed rest shorter)
    else if isFirst then
      let key ← readKey next rest
      .ok (.more key.value key.rest (by have := key.fewer; omega))
    else if next = Ascii.comma then
      match moreBlanks : skipBlanks rest with
      | [] => .error (.atNext .endInValue [])
      | first :: more =>
        have evenShorter := length_lt_of_skipBlanks moreBlanks
        if first = Ascii.closeBrace then .error (.atNext .trailingComma (first :: more))
        else
          let key ← readKey first more
          .ok (.more key.value key.rest (by have := key.fewer; omega))
    else .error (.atNext .expectedCommaOrBrace (next :: rest))

/-- Takes the colon after a key and what follows it. -/
def readAfterColon {α : Type} (value : Reader α) : Reader α := fun text =>
  match blanks : skipBlanks text with
  | [] => .error (.atNext .endInObject [])
  | next :: rest =>
    if next = Ascii.colon then
      (value rest).map (·.afterByte.widen (length_lt_of_skipBlanks blanks))
    else .error (.atNext .expectedColon (next :: rest))

/-- Takes the items of an array and its closing bracket. -/
def readItems {α : Type} (item : Reader α) (isFirst : Bool) : Reader (List α) := fun text => do
  match ← nextItem isFirst text with
  | .closed rest fewer => .ok ⟨[], rest, fewer⟩
  | .more _ start fits =>
    let head ← item start
    let tail ← readItems item false head.rest
    .ok (((head.after tail).map (head.value :: ·)).widen fits)
termination_by text => text.length
decreasing_by
  have := head.fewer
  omega

/-- Takes the members of an object and its closing brace. Each member changes the state, from the
end of its key on. -/
def foldMembers {σ : Type} (member : σ → String → Reader σ) (isFirst : Bool) (state : σ) :
    Reader σ := fun text => do
  match ← nextKey isFirst text with
  | .closed rest fewer => .ok ⟨state, rest, fewer⟩
  | .more key start fits =>
    let changed ← member state key start
    let final ← foldMembers member false changed.value changed.rest
    .ok ((changed.after final).widen fits)
termination_by text => text.length
decreasing_by
  have := changed.fewer
  omega

end OperatorKit.Json
