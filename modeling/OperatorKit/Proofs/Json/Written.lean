import Mathlib.Data.List.Forall2
import OperatorKit.Proofs.Json.ReadsValue
import OperatorKit.Proofs.Json.StringText
import OperatorKit.Proofs.Json.WrittenBytes

/-!
# Readers of written values

A reader takes a written value if it does so in whatever text the value stands. A reader that takes
each of several written values takes the whole array of them, and likewise for the members of an
object; the layout and the punctuation are dealt with here once for all readers.
-/

namespace OperatorKit.Json

open OperatorKit.Text

/-- The reader takes the written value as this result, behind blanks or not, up to what follows. -/
def TakesWritten {α : Type} (read : Reader α) (layout : Layout) (value : Value) (result : α) :
    Prop :=
  ∀ text rest, EndsNumber rest → skipBlanks text = Utf8.encode (value.chars layout) ++ rest →
    Reads (read text) result rest

/-- The reader of a member takes this written member, from the end of its key on, and changes the
state. -/
def TakesMember {σ : Type} (member : σ → String → Reader σ) (layout : Layout) (state : σ)
    (key : String) (value : Value) (changed : σ) : Prop :=
  ∀ rest, EndsNumber rest → Reads
    (member state key (Utf8.encode layout.colon ++ (Utf8.encode (value.chars layout) ++ rest)))
    changed rest

/-- The reader of a member takes these written members one after the other. -/
inductive TakesMembers {σ : Type} (member : σ → String → Reader σ) (layout : Layout) :
    σ → List (String × Value) → σ → Prop where
  | nil (state : σ) : TakesMembers member layout state [] state
  | cons {state changed final : σ} {key : String} {value : Value} {members : List (String × Value)}
      (first : TakesMember member layout state key value changed)
      (others : TakesMembers member layout changed members final) :
      TakesMembers member layout state ((key, value) :: members) final

variable {α σ : Type} {layout : Layout} {rest : Bytes}

/-- A reader that takes a written value takes it behind its colon. -/
theorem TakesWritten.afterColon {read : Reader α} {value : Value} {result : α}
    (takes : TakesWritten read layout value result) (ends : EndsNumber rest) :
    Reads (readAfterColon read
      (Utf8.encode layout.colon ++ (Utf8.encode (value.chars layout) ++ rest))) result rest := by
  obtain ⟨blanks, colon, areBlank⟩ := encode_colon layout
  have colonNotBlank : Ascii.isBlank Ascii.colon = false := by decide
  have starts := (skipBlanks_append areBlank _).trans (skipBlanks_chars layout value rest)
  rw [colon, List.cons_append]
  exact readAfterColon_colon (skipBlanks_cons colonNotBlank _) (takes _ rest ends starts)

/-- A reader that takes each of the written items takes them all, up to the closing bracket. -/
theorem readItems_written {item : Reader α} {items : List Value} {results : List α}
    (takes : List.Forall₂ (TakesWritten item layout) items results) (isFirst : Bool)
    {closing : Bytes} (closes : skipBlanks closing = Ascii.closeBracket :: rest) :
    Reads (readItems item isFirst (Utf8.encode (Value.itemsChars layout isFirst items) ++ closing))
      results rest := by
  induction takes generalizing isFirst with
  | nil => exact readItems_closed closes
  | @cons value result items results takesFirst _ inductionHypothesis =>
    obtain ⟨next, more, encoded, -, notClosed⟩ := encode_chars layout value
    have atNext := atNext_items layout isFirst value items closing
    have readsFirst := takesFirst _ _ (endsNumber_items layout items closes)
      (skipBlanks_chars layout value _)
    rw [encoded, List.cons_append] at atNext readsFirst
    exact readItems_more atNext notClosed readsFirst (inductionHypothesis false)

/-- A reader that takes the written members takes them up to the closing brace. -/
theorem foldMembers_written {member : σ → String → Reader σ} {state final : σ}
    {members : List (String × Value)} (takes : TakesMembers member layout state members final)
    (isFirst : Bool) {closing : Bytes} (closes : skipBlanks closing = Ascii.closeBrace :: rest) :
    Reads (foldMembers member isFirst state
      (Utf8.encode (Value.membersChars layout isFirst members) ++ closing)) final rest := by
  induction takes generalizing isFirst with
  | nil state => exact foldMembers_closed closes
  | @cons state changed final key value members takesFirst _ inductionHypothesis =>
    have atNext := atNext_members layout isFirst key value members closing
    rw [encode_stringChars] at atNext
    exact foldMembers_more atNext (readString_written key)
      (takesFirst _ (endsNumber_members layout members closes)) (inductionHypothesis false)

/-- A text that is a written value with blanks around it is read whole. -/
theorem readWhole_written {read : Reader α} {value : Value} {result : α} {blanks : Bytes}
    (takes : TakesWritten read layout value result)
    (areBlank : ∀ byte ∈ blanks, Ascii.isBlank byte = true) :
    readWhole read (Utf8.encode (value.chars layout) ++ blanks) = .ok result := by
  have nothing : skipBlanks blanks = [] := by
    simpa [skipBlanks] using skipBlanks_append areBlank []
  have ends : EndsNumber blanks := by
    apply endsNumber_of_skipBlanks
    rw [nothing]
    intro next more split
    cases split
  exact readWhole_eq_ok (takes _ blanks ends (skipBlanks_chars layout value blanks)) nothing

end OperatorKit.Json
