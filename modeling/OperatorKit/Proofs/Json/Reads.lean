import OperatorKit.Json.Reader

/-!
# What a reader takes

`Reads outcome value rest` says that a reader took `value` and left `rest`; the proof that it took
something is of no interest any more. There is one rule for each way through the readers of blanks,
brackets, items and members. All rules look at the text behind its blanks only, so they hold for
every layout.
-/

namespace OperatorKit.Json

open OperatorKit.Text

/-- Two steps have a result only where both do. -/
theorem bind_eq_ok {ε α β : Type} {first : Except ε α} {second : α → Except ε β} {result : β} :
    (first >>= second) = .ok result ↔
      ∃ middle, first = .ok middle ∧ second middle = .ok result := by
  cases first <;> simp [bind, Except.bind]

/-- Two steps fail where the first does, or the second after it. -/
theorem bind_eq_error {ε α β : Type} {first : Except ε α} {second : α → Except ε β} {fault : ε} :
    (first >>= second) = .error fault ↔
      first = .error fault ∨ ∃ middle, first = .ok middle ∧ second middle = .error fault := by
  cases first <;> simp [bind, Except.bind]

/-- A changed result was there before the change. -/
theorem map_eq_ok {ε α β : Type} {first : Except ε α} {change : α → β} {result : β} :
    first.map change = .ok result ↔ ∃ before, first = .ok before ∧ change before = result := by
  cases first <;> simp [Except.map]

/-- A changed fault is no result. -/
theorem mapError_eq_ok {ε δ α : Type} {outcome : Except ε α} {change : ε → δ} {result : α} :
    outcome.mapError change = .ok result ↔ outcome = .ok result := by
  cases outcome with
  | error fault => exact iff_of_false (fun same => by cases same) (fun same => by cases same)
  | ok value => exact ⟨fun same => by cases same; rfl, fun same => by cases same; rfl⟩

/-- A changed fault was there before the change. -/
theorem mapError_eq_error {ε δ α : Type} {outcome : Except ε α} {change : ε → δ} {fault : δ} :
    outcome.mapError change = .error fault ↔
      ∃ before, outcome = .error before ∧ change before = fault := by
  cases outcome with
  | error before =>
    constructor
    · rintro ⟨⟩
      exact ⟨before, rfl, rfl⟩
    · rintro ⟨_, ⟨⟩, rfl⟩
      rfl
  | ok value => exact iff_of_false (fun same => by cases same) (fun ⟨_, same, _⟩ => by cases same)

/-- A reader took this value and left this rest. -/
def Reads {α : Type} {bound : Nat} (outcome : Except Fault (Taken α bound)) (value : α)
    (rest : Bytes) : Prop :=
  ∃ fewer, outcome = .ok ⟨value, rest, fewer⟩

namespace Reads

variable {α β : Type} {bound larger : Nat} {value : α} {other : β} {middle rest : Bytes}

/-- What was taken may be repackaged. -/
theorem change {outcome : Except Fault (Taken α bound)} {repackage : Taken α bound → Taken β larger}
    (reads : Reads outcome value rest)
    (keeps : ∀ fewer, ∃ fewer', repackage ⟨value, rest, fewer⟩ = ⟨other, rest, fewer'⟩) :
    Reads (outcome.map repackage) other rest := by
  obtain ⟨fewer, taken⟩ := reads
  obtain ⟨fewer', kept⟩ := keeps fewer
  exact ⟨fewer', by rw [taken, ← kept]; rfl⟩

/-- A reader may go on from what was taken. -/
theorem bind {outcome : Except Fault (Taken α bound)}
    {next : Taken α bound → Except Fault (Taken β larger)} (reads : Reads outcome value middle)
    (goesOn : ∀ fewer, Reads (next ⟨value, middle, fewer⟩) other rest) :
    Reads (outcome >>= next) other rest := by
  obtain ⟨fewer, taken⟩ := reads
  rw [taken]
  exact goesOn fewer

end Reads

/-- Blanks in front are skipped. -/
theorem skipBlanks_append {front : Bytes} (blank : ∀ byte ∈ front, Ascii.isBlank byte = true)
    (back : Bytes) : skipBlanks (front ++ back) = skipBlanks back := by
  rw [skipBlanks, List.dropWhile_append_of_pos blank, ← skipBlanks]

/-- What is not blank is not skipped. -/
theorem skipBlanks_cons {next : Byte} (notBlank : Ascii.isBlank next = false) (rest : Bytes) :
    skipBlanks (next :: rest) = next :: rest := by
  rw [skipBlanks, List.dropWhile_cons_of_neg (by simp [notBlank])]

/-- A reader that looks behind the blanks goes on with what stands there. -/
theorem match_skipBlanks {β : Type} {text rest : Bytes} {next : Byte}
    (blanks : skipBlanks text = next :: rest) (nothing : skipBlanks text = [] → β)
    (something : ∀ next rest, skipBlanks text = next :: rest → β) :
    (match found : skipBlanks text with
      | [] => nothing found
      | next :: rest => something next rest found) = something next rest blanks := by
  split
  · rename_i found
    rw [found] at blanks
    cases blanks
  · rename_i start more found
    rw [found] at blanks
    cases blanks
    rfl

/-- A reader that looks behind the blanks takes what it takes there. -/
theorem Reads.behindBlanks {α : Type} {bound : Nat} {value : α} {text more rest : Bytes}
    {next : Byte} (blanks : skipBlanks text = next :: more)
    {nothing : skipBlanks text = [] → Except Fault (Taken α bound)}
    {something : ∀ next more, skipBlanks text = next :: more → Except Fault (Taken α bound)}
    (reads : Reads (something next more blanks) value rest) :
    Reads (match found : skipBlanks text with
      | [] => nothing found
      | next :: more => something next more found) value rest := by
  rwa [match_skipBlanks blanks]

/-- What is left of a text where its next item or key begins, behind a comma unless it is the
first. -/
def AtNext (isFirst : Bool) (text start : Bytes) : Prop :=
  if isFirst then skipBlanks text = start
  else ∃ afterComma, skipBlanks text = Ascii.comma :: afterComma ∧ skipBlanks afterComma = start

section Items

variable {α : Type} {item : Reader α} {isFirst : Bool} {next : Byte} {text rest : Bytes}

/-- A closing bracket ends the items. -/
theorem nextItem_closed (blanks : skipBlanks text = Ascii.closeBracket :: rest) :
    nextItem isFirst text = .ok (.closed rest (length_lt_of_skipBlanks blanks)) := by
  refine (match_skipBlanks blanks _ _).trans ?_
  rw [if_pos rfl]

/-- The first item follows its bracket at once. -/
theorem nextItem_first (blanks : skipBlanks text = next :: rest)
    (notClosed : next ≠ Ascii.closeBracket) :
    nextItem true text = .ok (.more () (next :: rest) (length_lt_of_skipBlanks blanks)) := by
  refine (match_skipBlanks blanks _ _).trans ?_
  rw [if_neg notClosed, if_pos rfl]

/-- Every further item follows a comma. -/
theorem nextItem_further {afterComma : Bytes} (blanks : skipBlanks text = Ascii.comma :: afterComma)
    (moreBlanks : skipBlanks afterComma = next :: rest) (notClosed : next ≠ Ascii.closeBracket) :
    ∃ fits, nextItem false text = .ok (.more () (next :: rest) fits) := by
  refine ⟨Nat.le_trans (length_lt_of_skipBlanks moreBlanks)
    (Nat.le_of_lt (length_lt_of_skipBlanks blanks)), ?_⟩
  refine (match_skipBlanks blanks _ _).trans ?_
  rw [if_neg (by decide), if_neg (by decide), if_pos rfl]
  refine (match_skipBlanks moreBlanks _ _).trans ?_
  rw [if_neg notClosed]

/-- What is no closing bracket begins an item. -/
theorem nextItem_more (atNext : AtNext isFirst text (next :: rest))
    (notClosed : next ≠ Ascii.closeBracket) :
    ∃ fits, nextItem isFirst text = .ok (.more () (next :: rest) fits) := by
  cases isFirst with
  | true => exact ⟨_, nextItem_first atNext notClosed⟩
  | false =>
    obtain ⟨afterComma, blanks, moreBlanks⟩ := atNext
    exact nextItem_further blanks moreBlanks notClosed

/-- No items are left before the closing bracket. -/
theorem readItems_closed (blanks : skipBlanks text = Ascii.closeBracket :: rest) :
    Reads (readItems item isFirst text) [] rest := by
  rw [readItems, nextItem_closed blanks]
  exact ⟨_, rfl⟩

/-- An item is taken, and then the others. -/
theorem readItems_more {middle : Bytes} {head : α} {tail : List α}
    (atNext : AtNext isFirst text (next :: rest)) (notClosed : next ≠ Ascii.closeBracket)
    {afterItems : Bytes} (readsHead : Reads (item (next :: rest)) head middle)
    (readsTail : Reads (readItems item false middle) tail afterItems) :
    Reads (readItems item isFirst text) (head :: tail) afterItems := by
  obtain ⟨fits, more⟩ := nextItem_more atNext notClosed
  rw [readItems, more]
  apply readsHead.bind
  intro fewer
  apply readsTail.bind
  intro fewer'
  exact ⟨_, rfl⟩

end Items

section Members

variable {σ : Type} {member : σ → String → Reader σ} {isFirst : Bool} {state : σ} {key : String}
  {text rest : Bytes}

/-- A closing brace ends the members. -/
theorem nextKey_closed (blanks : skipBlanks text = Ascii.closeBrace :: rest) :
    nextKey isFirst text = .ok (.closed rest (length_lt_of_skipBlanks blanks)) := by
  refine (match_skipBlanks blanks _ _).trans ?_
  rw [if_pos rfl]

/-- A key begins with a quote. -/
theorem readKey_quote {afterQuote : Bytes} (reads : Reads (readString afterQuote) key rest) :
    Reads (readKey Ascii.quote afterQuote) key rest := by
  rw [readKey, if_pos rfl]
  exact reads.change fun fewer => ⟨_, rfl⟩

/-- The first key follows its brace at once. -/
theorem nextKey_first {afterQuote : Bytes} (blanks : skipBlanks text = Ascii.quote :: afterQuote)
    (reads : Reads (readString afterQuote) key rest) :
    ∃ fits, nextKey true text = .ok (.more key rest fits) := by
  obtain ⟨fewer, taken⟩ := readKey_quote reads
  have shorter := length_lt_of_skipBlanks blanks
  refine ⟨by omega, ?_⟩
  refine (match_skipBlanks blanks _ _).trans ?_
  rw [if_neg (by decide), if_pos rfl, taken]
  rfl

/-- Every further key follows a comma. -/
theorem nextKey_further {afterComma afterQuote : Bytes}
    (blanks : skipBlanks text = Ascii.comma :: afterComma)
    (moreBlanks : skipBlanks afterComma = Ascii.quote :: afterQuote)
    (reads : Reads (readString afterQuote) key rest) :
    ∃ fits, nextKey false text = .ok (.more key rest fits) := by
  obtain ⟨fewer, taken⟩ := readKey_quote reads
  have shorter := length_lt_of_skipBlanks blanks
  have evenShorter := length_lt_of_skipBlanks moreBlanks
  refine ⟨by omega, ?_⟩
  refine (match_skipBlanks blanks _ _).trans ?_
  rw [if_neg (by decide), if_neg (by decide), if_pos rfl]
  refine (match_skipBlanks moreBlanks _ _).trans ?_
  rw [if_neg (by decide), taken]
  rfl

/-- A quote begins a key. -/
theorem nextKey_more {afterQuote : Bytes} (atNext : AtNext isFirst text (Ascii.quote :: afterQuote))
    (reads : Reads (readString afterQuote) key rest) :
    ∃ fits, nextKey isFirst text = .ok (.more key rest fits) := by
  cases isFirst with
  | true => exact nextKey_first atNext reads
  | false =>
    obtain ⟨afterComma, blanks, moreBlanks⟩ := atNext
    exact nextKey_further blanks moreBlanks reads

/-- The state stays as it is where no members are left before the closing brace. -/
theorem foldMembers_closed (blanks : skipBlanks text = Ascii.closeBrace :: rest) :
    Reads (foldMembers member isFirst state text) state rest := by
  rw [foldMembers, nextKey_closed blanks]
  exact ⟨_, rfl⟩

/-- A member changes the state for the others. -/
theorem foldMembers_more {afterQuote afterKey middle : Bytes} {changed final : σ}
    (atNext : AtNext isFirst text (Ascii.quote :: afterQuote))
    (readsKey : Reads (readString afterQuote) key afterKey)
    (readsMember : Reads (member state key afterKey) changed middle)
    (readsOthers : Reads (foldMembers member false changed middle) final rest) :
    Reads (foldMembers member isFirst state text) final rest := by
  obtain ⟨fits, more⟩ := nextKey_more atNext readsKey
  rw [foldMembers, more]
  apply readsMember.bind
  intro fewer
  apply readsOthers.bind
  intro fewer'
  exact ⟨_, rfl⟩

/-- A value follows the colon. -/
theorem readAfterColon_colon {α : Type} {read : Reader α} {value : α} {afterColon : Bytes}
    (blanks : skipBlanks text = Ascii.colon :: afterColon)
    (reads : Reads (read afterColon) value rest) :
    Reads (readAfterColon read text) value rest := by
  refine Reads.behindBlanks blanks ?_
  rw [if_pos rfl]
  exact reads.change fun fewer => ⟨_, rfl⟩

end Members

end OperatorKit.Json
