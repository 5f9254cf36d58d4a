import Mathlib.Data.List.TakeWhile
import OperatorKit.Proofs.Channel.Numeral
import OperatorKit.Proofs.Channel.Readings

/-!
# The grammar of channel names

Where the pieces of a name lie, and which names are versions. Both are said without the functions
that cut and read a name: the pieces by putting them together again, a version by what each piece
spells, and a refusal by the first piece that spells nothing.
-/

namespace OperatorKit.Channel

/-- The text behind the first `v` of a name; a name without one stands for `0.0`. -/
inductive VersionText : List Char → List Char → Prop where
  | marked {before text : List Char} (first : 'v' ∉ before) : VersionText (before ++ 'v' :: text) text
  | unmarked {name : List Char} (noMark : 'v' ∉ name) : VersionText name ['0', '.', '0']

/-- The parts are what a text is cut into at every dot. -/
structure CutAtDots (text : List Char) (parts : List (List Char)) : Prop where
  nonempty : parts ≠ []
  joined : ['.'].intercalate parts = text
  noDots : ∀ part ∈ parts, '.' ∉ part

/-- The pieces of a name: its version text cut at every dot, and a zero after a single part. -/
def ArePieces (channel : String) (pieces : List (List Char)) : Prop :=
  ∃ text parts, VersionText channel.toList text ∧ CutAtDots text parts ∧
    pieces = if parts.length = 1 then parts ++ [['0']] else parts

/-- The fault is that of a name at its first piece that is no integer. -/
structure FirstMisspelled (channel : String) (pieces : List (List Char)) (fault : VersionFault) :
    Prop where
  channel_eq : fault.channel = channel
  piece : ∃ piece, pieces[fault.position]? = some piece ∧
    fault.component = String.ofList piece ∧ Misspells piece fault.source
  least : ∀ earlier < fault.position, ∀ piece, pieces[earlier]? = some piece →
    ∃ value, Spells piece value

section Cutting

variable {name text : List Char} {parts : List (List Char)}

/-- The version part of a name is its text behind the first `v`. -/
theorem versionText_iff : VersionText name text ↔ text = versionPart name := by
  have notMark : ∀ {before : List Char}, 'v' ∉ before → ∀ char ∈ before, (char != 'v') = true := by
    intro before first char member
    rw [bne_iff_ne]
    rintro rfl
    exact first member
  constructor
  · rintro (first | noMark)
    · rw [versionPart, List.dropWhile_append_of_pos (notMark first)]
      rfl
    · rw [versionPart, List.dropWhile_eq_nil_iff.2 (notMark noMark)]
  · rintro rfl
    by_cases mark : 'v' ∈ name
    · obtain ⟨before, text, rfl, first⟩ := List.eq_append_cons_of_mem mark
      rw [versionPart, List.dropWhile_append_of_pos (notMark first)]
      exact .marked first
    · rw [versionPart, List.dropWhile_eq_nil_iff.2 (notMark mark)]
      exact .unmarked mark

/-- No part of a text that was cut at the dots has a dot. -/
theorem not_mem_of_mem_splitOn (text : List Char) : ∀ part ∈ text.splitOn '.', '.' ∉ part := by
  induction text with
  | nil => simp
  | cons char text inductionHypothesis =>
    rw [List.splitOn_cons_eq_if_modifyHead]
    split
    · simpa using inductionHypothesis
    · rename_i notDot
      obtain ⟨first, others, cut⟩ := List.exists_cons_of_ne_nil (List.splitOn_ne_nil '.' text)
      rw [cut] at inductionHypothesis ⊢
      rw [List.forall_mem_cons] at inductionHypothesis
      rw [List.modifyHead_cons, List.forall_mem_cons]
      refine ⟨?_, inductionHypothesis.2⟩
      rw [List.mem_cons, not_or]
      exact ⟨fun dot => notDot (beq_iff_eq.2 dot.symm), inductionHypothesis.1⟩

/-- A text is cut at its dots in one way. -/
theorem cutAtDots_iff : CutAtDots text parts ↔ parts = text.splitOn '.' := by
  constructor
  · rintro ⟨nonempty, rfl, noDots⟩
    exact (List.splitOn_intercalate '.' noDots nonempty).symm
  · rintro rfl
    exact ⟨List.splitOn_ne_nil '.' text, List.intercalate_splitOn '.', not_mem_of_mem_splitOn text⟩

/-- A name has one row of pieces, the one that is read. -/
theorem arePieces_iff {channel : String} {other : List (List Char)} :
    ArePieces channel other ↔ other = pieces channel := by
  have padded : pieces channel =
      if ((versionPart channel.toList).splitOn '.').length = 1
      then (versionPart channel.toList).splitOn '.' ++ [['0']]
      else (versionPart channel.toList).splitOn '.' := by
    unfold pieces
    split
    · rename_i piece single
      rw [single]
      rfl
    · rename_i parts notSingle
      rw [if_neg]
      intro one
      obtain ⟨piece, single⟩ := List.length_eq_one_iff.1 one
      exact notSingle piece single
  rw [padded]
  simp only [ArePieces, versionText_iff, cutAtDots_iff]
  constructor
  · rintro ⟨_, _, rfl, rfl, same⟩
    exact same
  · intro same
    exact ⟨_, _, rfl, rfl, same⟩

end Cutting

section Parsing

variable {channel : String} {pieces : List (List Char)} {position : Nat}

/-- A position is bad for what is wrong with its piece. -/
theorem reading_eq_error_iff {source : NumeralFault} : reading pieces position = .error source ↔
    ∃ piece, pieces[position]? = some piece ∧ Misspells piece source := by
  unfold reading
  cases pieces[position]? with
  | none => simp
  | some piece => simp [readInteger_eq_error_iff]

/-- A position is not bad if its piece spells an integer. -/
theorem not_isBad_iff_spells : ¬ IsBad pieces position ↔
    ∀ piece, pieces[position]? = some piece → ∃ value, Spells piece value := by
  rw [not_isBad_iff]
  unfold reading
  cases pieces[position]? with
  | none => simp
  | some piece => simp [readInteger_eq_ok_iff]

/-- The first fault of a name is that of its first misspelled piece. -/
theorem firstFault_iff_firstMisspelled {fault : VersionFault} :
    FirstFault channel pieces fault ↔ FirstMisspelled channel pieces fault := by
  constructor
  · intro first
    obtain ⟨piece, found, misspells⟩ := reading_eq_error_iff.1 first.bad
    have text : pieces.getD fault.position [] = piece := by
      rw [List.getD_eq_getElem?_getD, found, Option.getD_some]
    refine ⟨?_, ⟨piece, found, ?_, misspells⟩, fun earlier before =>
      not_isBad_iff_spells.1 (first.clear earlier before)⟩
    · rw [first.named, faultAt]
    · rw [first.named, faultAt, text]
  · rintro ⟨rfl, ⟨piece, found, component, misspells⟩, least⟩
    have text : pieces.getD fault.position [] = piece := by
      rw [List.getD_eq_getElem?_getD, found, Option.getD_some]
    refine ⟨fun earlier before => not_isBad_iff_spells.2 (least earlier before),
      reading_eq_error_iff.2 ⟨piece, found, misspells⟩, ?_⟩
    rw [faultAt, text, ← component]

/-- A name has one row of pieces. It is accepted with the integers that they spell, or refused for
the first one that spells none; zeros in front of the digits of a piece make no difference. -/
theorem parse_follows_grammar (channel : String) :
    ∃ parts, (∀ other, ArePieces channel other ↔ other = parts) ∧
      (∀ version, Version.parse channel = .ok version ↔
        List.Forall₂ Spells parts version.components) ∧
      (∀ fault, Version.parse channel = .error fault ↔ FirstMisspelled channel parts fault) ∧
      ∀ piece padded sign digits value count, Signed piece sign digits →
        Signed padded sign (List.replicate count '0' ++ digits) →
          readInteger piece = .ok value → readInteger padded = .ok value := by
  refine ⟨Channel.pieces channel, fun other => arePieces_iff, fun version => ?_, fun fault => ?_, ?_⟩
  · rw [Version.parse_eq_ok_iff, ReadAs]
    simp only [readInteger_eq_ok_iff]
  · rw [Version.parse_eq_error_iff, firstFault_iff_firstMisspelled]
  · intro piece padded sign digits value count signed paddedSigned read
    rw [readInteger_eq_ok_iff] at read ⊢
    exact spells_of_zeros read signed paddedSigned

-- The first digit that leaves the range comes before the letter behind it.
example : Version.parse "v+007.-9223372036854775808.9223372036854775808x" =
    .error ⟨"v+007.-9223372036854775808.9223372036854775808x", "9223372036854775808x", 2, .tooLarge⟩ :=
  rfl

end Parsing

end OperatorKit.Channel
