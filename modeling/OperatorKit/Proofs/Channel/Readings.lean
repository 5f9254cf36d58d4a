import Mathlib.Data.List.Forall2
import OperatorKit.Channel.Version

/-!
# The integer at a position

What a name says at a position is told without a loop: the integer that its piece there spells, or
zero where it has no piece. Reading a whole name gives all of its integers, or the fault at the
first position without one.
-/

namespace OperatorKit.Channel

/-- The integer at a position; a missing piece counts as zero. -/
def reading (pieces : List (List Char)) (position : Nat) : Except NumeralFault Int :=
  match pieces[position]? with
  | some piece => readInteger piece
  | none => .ok 0

/-- All pieces are integers, and these are the integers. -/
abbrev ReadAs (pieces : List (List Char)) (components : List Int) : Prop :=
  List.Forall₂ (fun piece component => readInteger piece = .ok component) pieces components

/-- The piece at a position is no integer. -/
def IsBad (pieces : List (List Char)) (position : Nat) : Prop :=
  ∃ source, reading pieces position = .error source

/-- The fault of a name at a position. -/
def faultAt (channel : String) (pieces : List (List Char)) (position : Nat)
    (source : NumeralFault) : VersionFault :=
  ⟨channel, String.ofList (pieces.getD position []), position, source⟩

/-- The integer of a name at a position, or the fault of the name. -/
def readAt (channel : String) (pieces : List (List Char)) (position : Nat) :
    Except VersionFault Int :=
  (reading pieces position).mapError (faultAt channel pieces position)

section Reading

variable {channel : String} {pieces more : List (List Char)} {piece : List Char} {position : Nat}

/-- Behind the last piece every position counts as zero. -/
theorem reading_of_length_le (behind : pieces.length ≤ position) :
    reading pieces position = .ok 0 := by
  rw [reading, List.getElem?_eq_none behind]

/-- A name is bad only where it has a piece. -/
theorem IsBad.lt_length (bad : IsBad pieces position) : position < pieces.length := by
  obtain ⟨source, bad⟩ := bad
  apply Nat.lt_of_not_le
  intro behind
  rw [reading_of_length_le behind] at bad
  cases bad

/-- Where there is an integer the name is not bad. -/
theorem not_isBad_iff : ¬ IsBad pieces position ↔ ∃ value, reading pieces position = .ok value := by
  unfold IsBad
  cases reading pieces position <;> simp

/-- An integer is read as it is. -/
theorem readAt_of_ok {value : Int} (read : reading pieces position = .ok value) :
    readAt channel pieces position = .ok value := by
  rw [readAt, read]
  rfl

/-- A bad position is read as the fault of the name. -/
theorem readAt_of_error {source : NumeralFault} (bad : reading pieces position = .error source) :
    readAt channel pieces position = .error (faultAt channel pieces position source) := by
  rw [readAt, bad]
  rfl

/-- The piece at a position is the first one of those that remain there. -/
theorem getElem?_of_drop (remaining : pieces.drop position = piece :: more) :
    pieces[position]? = some piece := by
  rw [← List.head?_drop, remaining, List.head?_cons]

/-- Behind a piece the pieces after it remain. -/
theorem drop_succ_of_drop (remaining : pieces.drop position = piece :: more) :
    pieces.drop (position + 1) = more := by
  rw [← List.tail_drop, remaining, List.tail_cons]

/-- The first piece that remains is read as the piece at its position. -/
theorem readPiece_of_drop (remaining : pieces.drop position = piece :: more) :
    readPiece channel position piece = readAt channel pieces position := by
  have here := getElem?_of_drop remaining
  have text : pieces.getD position [] = piece := by rw [List.getD_eq_getElem?_getD, here]; rfl
  rw [readPiece, readAt, reading, here]
  unfold faultAt
  rw [text]

end Reading

/-- The fault of a name at its first bad position. -/
structure FirstFault (channel : String) (pieces : List (List Char)) (fault : VersionFault) :
    Prop where
  clear : ∀ earlier < fault.position, ¬ IsBad pieces earlier
  bad : reading pieces fault.position = .error fault.source
  named : fault = faultAt channel pieces fault.position fault.source

section Reading

variable {channel : String} {pieces : List (List Char)} {position : Nat} {fault : VersionFault}

/-- A name has one first fault. -/
theorem FirstFault.unique {other : VersionFault} (first : FirstFault channel pieces fault)
    (second : FirstFault channel pieces other) : fault = other := by
  have notBefore : ¬ fault.position < other.position :=
    fun earlier => second.clear _ earlier ⟨_, first.bad⟩
  have notBehind : ¬ other.position < fault.position :=
    fun earlier => first.clear _ earlier ⟨_, second.bad⟩
  have samePosition : fault.position = other.position := by omega
  have bothBad := second.bad
  rw [← samePosition, first.bad, Except.error.injEq] at bothBad
  rw [first.named, second.named, samePosition, bothBad]

/-- All integers of pieces are read if every piece is one. -/
theorem readPieces_eq_ok_iff {components : List Int} :
    readPieces channel position pieces = .ok components ↔ ReadAs pieces components := by
  induction pieces generalizing position components with
  | nil => cases components <;> simp [readPieces]
  | cons piece pieces inductionHypothesis =>
    have rest : ∀ components, readPieces channel (position + 1) pieces = .ok components ↔ _ :=
      fun _ => inductionHypothesis
    rw [readPieces, readPiece, ReadAs, List.forall₂_cons_left_iff]
    simp only [← rest]
    cases readInteger piece with
    | error source => simp [Except.mapError, bind, Except.bind]
    | ok component =>
      cases readPieces channel (position + 1) pieces with
      | error fault => simp [Except.mapError, bind, Except.bind]
      | ok others => simp [Except.mapError, bind, Except.bind, eq_comm]

/-- Reading that fails behind clear positions fails with the first fault. -/
theorem firstFault_of_readPieces (clear : ∀ earlier < position, ¬ IsBad pieces earlier)
    (failed : readPieces channel position (pieces.drop position) = .error fault) :
    FirstFault channel pieces fault := by
  induction remaining : pieces.drop position generalizing position with
  | nil =>
    rw [remaining, readPieces] at failed
    cases failed
  | cons piece more inductionHypothesis =>
    rw [remaining, readPieces, readPiece_of_drop remaining] at failed
    cases read : reading pieces position with
    | error source =>
      rw [readAt_of_error read] at failed
      cases failed
      exact ⟨clear, read, rfl⟩
    | ok component =>
      have rest := drop_succ_of_drop remaining
      have clearNext : ∀ earlier < position + 1, ¬ IsBad pieces earlier := by
        intro earlier before
        rcases Nat.lt_succ_iff_lt_or_eq.1 before with before | rfl
        · exact clear earlier before
        · exact not_isBad_iff.2 ⟨component, read⟩
      refine inductionHypothesis clearNext ?_ rest
      rw [readAt_of_ok read] at failed
      cases readMore : readPieces channel (position + 1) more with
      | error other =>
        rw [readMore] at failed
        cases failed
        rw [rest, readMore]
      | ok components =>
        rw [readMore] at failed
        cases failed

end Reading

namespace Version

variable {channel : String} {version : Version} {fault : VersionFault}

/-- A name is accepted if every piece spells the component at its place. -/
theorem parse_eq_ok_iff :
    parse channel = .ok version ↔ ReadAs (pieces channel) version.components := by
  have read : readPieces channel 0 (pieces channel) = .ok version.components ↔ _ :=
    readPieces_eq_ok_iff
  rw [← read, parse]
  cases readPieces channel 0 (pieces channel) with
  | error fault => simp [Except.map]
  | ok components =>
    cases version
    simp [Except.map]

/-- An accepted name has its components at the positions of its pieces, and zero behind them. -/
theorem reading_of_parse (parsed : parse channel = .ok version) (position : Nat) :
    reading (pieces channel) position = .ok (version.components.getD position 0) := by
  rw [parse_eq_ok_iff] at parsed
  unfold reading
  generalize pieces channel = pieces at parsed
  generalize version.components = components at parsed
  induction parsed generalizing position with
  | nil => rfl
  | cons head tail inductionHypothesis =>
    cases position with
    | zero => exact head
    | succ position => exact inductionHypothesis position

/-- An accepted name has as many components as pieces. -/
theorem length_of_parse (parsed : parse channel = .ok version) :
    (pieces channel).length = version.components.length :=
  (parse_eq_ok_iff.1 parsed).length_eq

/-- The fault of a refused name is its first one. -/
theorem firstFault_of_parse (failed : parse channel = .error fault) :
    FirstFault channel (pieces channel) fault := by
  have failedThere : readPieces channel 0 ((pieces channel).drop 0) = .error fault := by
    rw [List.drop_zero]
    unfold parse at failed
    cases read : readPieces channel 0 (pieces channel) with
    | ok components =>
      rw [read] at failed
      cases failed
    | error other =>
      rw [read] at failed
      cases failed
      rfl
  exact firstFault_of_readPieces (fun _ before => absurd before (Nat.not_lt_zero _)) failedThere

/-- A name is refused for its first fault, and for nothing else. -/
theorem parse_eq_error_iff :
    parse channel = .error fault ↔ FirstFault channel (pieces channel) fault := by
  refine ⟨firstFault_of_parse, fun first => ?_⟩
  cases parsed : parse channel with
  | ok version =>
    have good := reading_of_parse parsed fault.position
    rw [first.bad] at good
    cases good
  | error other => rw [(firstFault_of_parse parsed).unique first]

/-- A name is accepted exactly if no position is bad. -/
theorem exists_parse_iff :
    (∃ version, parse channel = .ok version) ↔ ∀ position, ¬ IsBad (pieces channel) position := by
  constructor
  · rintro ⟨version, parsed⟩ position
    exact not_isBad_iff.2 ⟨_, reading_of_parse parsed position⟩
  · intro clear
    cases parsed : parse channel with
    | ok version => exact ⟨version, rfl⟩
    | error fault => exact absurd ⟨_, (firstFault_of_parse parsed).bad⟩ (clear fault.position)

end Version

end OperatorKit.Channel
