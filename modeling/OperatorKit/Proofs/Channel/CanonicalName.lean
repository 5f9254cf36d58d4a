import OperatorKit.Proofs.Channel.Grammar

/-!
# Canonical names

A version has one name among all those that are read as it: the decimals of its components, each in
its only form without needless characters, joined by dots behind a `v`. The canonical names are told
by this form alone, and they are the names on which writing and reading undo each other.
-/

namespace OperatorKit.Channel

open OperatorKit.Decimal

/-- A decimal without needless characters. -/
structure IsCanonical (piece : List Char) : Prop where
  /-- It is an integer of 64 bits. -/
  spells : ∃ value, Spells piece value
  noPlus : piece.head? ≠ some '+'
  /-- A zero leads no other digits. -/
  noZeros : ∀ sign digits, Signed piece sign digits → digits.head? = some '0' → digits = ['0']
  noNegativeZero : piece ≠ ['-', '0']

/-- A `v` and at least two canonical decimals, joined by dots. -/
def IsCanonicalName (name : String) : Prop :=
  ∃ parts : List (List Char), 2 ≤ parts.length ∧ (∀ part ∈ parts, IsCanonical part) ∧
    name.toList = 'v' :: ['.'].intercalate parts

/-- A version that some name is read as: at least two integers of 64 bits. -/
structure Version.IsNormal (version : Version) : Prop where
  twoComponents : 2 ≤ version.components.length
  inRange : ∀ component ∈ version.components, InRange component

section Decimals

variable {piece : List Char} {value : Int}

/-- What a piece spells is in range. -/
theorem Spells.inRange (spells : Spells piece value) : InRange value := by
  cases spells with
  | digits signed nonempty areDigits inRange => exact inRange

/-- The decimal of an integer is a sign and the digits of its magnitude. -/
theorem signed_integerChars (value : Int) : ∃ sign magnitude,
    Signed (integerChars value) sign (Nat.toDigits 10 magnitude) ∧
      sign.value (Nat.toDigits 10 magnitude) = value := by
  cases value with
  | ofNat magnitude =>
    refine ⟨.plus, magnitude, .unsigned ?_ ?_, ?_⟩
    · exact head?_digits_ne rfl
    · exact head?_digits_ne rfl
    · rw [Sign.value, Nat.ofDigitChars_ten_toDigits]
      rfl
  | negSucc less =>
    refine ⟨.minus, less + 1, .minus _, ?_⟩
    rw [Sign.value, Nat.ofDigitChars_ten_toDigits]
    rfl

/-- An integer in range is spelled by its decimal. -/
theorem spells_integerChars (inRange : InRange value) : Spells (integerChars value) value := by
  obtain ⟨sign, magnitude, signed, isValue⟩ := signed_integerChars value
  rw [← isValue] at inRange
  have spells := Spells.digits signed Nat.toDigits_ne_nil (isDigit_of_mem_digits magnitude) inRange
  rwa [isValue] at spells

/-- The decimal of an integer in range is canonical. -/
theorem isCanonical_integerChars (inRange : InRange value) : IsCanonical (integerChars value) where
  spells := ⟨value, spells_integerChars inRange⟩
  noPlus := by
    cases value with
    | ofNat magnitude => exact head?_digits_ne rfl
    | negSucc less => simp [integerChars]
  noZeros sign digits signed zeroLeads := by
    obtain ⟨_, magnitude, known, -⟩ := signed_integerChars value
    rw [(signed.unique known).2] at zeroLeads ⊢
    rw [eq_zero_of_zero_leads zeroLeads, Nat.toDigits_zero]
  noNegativeZero := by
    cases value with
    | ofNat magnitude =>
      intro negativeZero
      exact head?_digits_ne rfl (congrArg List.head? negativeZero)
    | negSucc less =>
      intro negativeZero
      have onlyZero : Nat.toDigits 10 (less + 1) = ['0'] := (List.cons.inj negativeZero).2
      exact Nat.succ_ne_zero less (eq_zero_of_zero_leads (congrArg List.head? onlyZero))

/-- No dot stands in the decimal of an integer. -/
theorem dot_not_mem_integerChars (value : Int) : '.' ∉ integerChars value := by
  have noDot : ∀ magnitude, '.' ∉ Nat.toDigits 10 magnitude := fun magnitude member =>
    Bool.false_ne_true (isDigit_of_mem_digits magnitude '.' member)
  cases value with
  | ofNat magnitude => exact noDot magnitude
  | negSucc less => exact List.not_mem_cons_of_ne_of_not_mem (by decide) (noDot (less + 1))

/-- A canonical decimal is the decimal of what it spells. -/
theorem IsCanonical.eq_integerChars (canonical : IsCanonical piece) (spells : Spells piece value) :
    piece = integerChars value := by
  cases spells with
  | @digits sign digits signed nonempty areDigits inRange =>
    have rebuilt := digits_ofDigitChars nonempty areDigits (canonical.noZeros sign digits signed)
    cases signed with
    | plus => exact absurd rfl canonical.noPlus
    | minus =>
      cases value : Nat.ofDigitChars 10 digits 0 with
      -- A written minus sign before zero would be read as zero too.
      | zero =>
        rw [value, Nat.toDigits_zero] at rebuilt
        exact absurd (congrArg _ rebuilt.symm) canonical.noNegativeZero
      | succ less =>
        rw [value] at rebuilt
        rw [Sign.value, value, ← rebuilt]
        rfl
    | unsigned noPlus noMinus => exact rebuilt.symm

end Decimals

section Pieces

/-- A name has at least two pieces. -/
theorem two_le_length_pieces (channel : String) : 2 ≤ (pieces channel).length := by
  obtain ⟨text, parts, -, cut, padded⟩ := arePieces_iff.2 (rfl : pieces channel = pieces channel)
  have nonempty : 0 < parts.length := List.length_pos_iff.2 cut.nonempty
  rw [padded]
  split
  · rename_i single
    rw [List.length_append, single]
    rfl
  · omega

/-- What stands at a position of a name is in range. -/
theorem inRange_of_reading {pieces : List (List Char)} {position : Nat} {value : Int}
    (read : reading pieces position = .ok value) : InRange value := by
  unfold reading at read
  split at read
  · exact (readInteger_eq_ok_iff.1 read).inRange
  · cases read
    decide

end Pieces

namespace Version

variable {channel name : String} {version : Version}

/-- What a name is read as is normal. -/
theorem isNormal_of_parse (parsed : parse channel = .ok version) : version.IsNormal where
  twoComponents := length_of_parse parsed ▸ two_le_length_pieces channel
  inRange component member := by
    obtain ⟨position, inList, rfl⟩ := List.getElem_of_mem member
    have inRange := inRange_of_reading (reading_of_parse parsed position)
    rwa [List.getD_eq_getElem?_getD, List.getElem?_eq_getElem inList, Option.getD_some] at inRange

/-- The name of a version is made of the decimals of its components. -/
theorem toList_text (version : Version) :
    version.text.toList = 'v' :: ['.'].intercalate (version.components.map integerChars) :=
  String.toList_ofList

/-- The name of a version is cut into the decimals of its components. -/
theorem pieces_text (twoComponents : 2 ≤ version.components.length) :
    pieces version.text = version.components.map integerChars := by
  have numberOfParts : (version.components.map integerChars).length = version.components.length :=
    List.length_map _
  refine (arePieces_iff.1 ⟨_, version.components.map integerChars, ?_, ⟨?_, rfl, ?_⟩, ?_⟩).symm
  · rw [toList_text]
    exact .marked (List.not_mem_nil (a := 'v'))
  · apply List.ne_nil_of_length_pos
    omega
  · rw [List.forall_mem_map]
    exact fun component _ => dot_not_mem_integerChars component
  · rw [if_neg (by omega)]

/-- A normal version is read from its name. -/
theorem IsNormal.parse_text (normal : version.IsNormal) : parse version.text = .ok version := by
  rw [parse_eq_ok_iff, pieces_text normal.twoComponents, ReadAs, List.forall₂_map_left_iff,
    List.forall₂_same]
  intro component member
  exact readInteger_eq_ok_iff.2 (spells_integerChars (normal.inRange component member))

/-- Canonical decimals are the decimals of integers in range. -/
theorem exists_components {parts : List (List Char)}
    (canonical : ∀ part ∈ parts, IsCanonical part) : ∃ components : List Int,
      (∀ component ∈ components, InRange component) ∧ parts = components.map integerChars := by
  induction parts with
  | nil => exact ⟨[], List.forall_mem_nil _, rfl⟩
  | cons part parts inductionHypothesis =>
    rw [List.forall_mem_cons] at canonical
    obtain ⟨component, spells⟩ := canonical.1.spells
    obtain ⟨components, inRange, rfl⟩ := inductionHypothesis canonical.2
    refine ⟨component :: components, List.forall_mem_cons.2 ⟨spells.inRange, inRange⟩, ?_⟩
    rw [List.map_cons, canonical.1.eq_integerChars spells]

/-- The canonical names are the names of the normal versions. -/
theorem isCanonicalName_iff :
    IsCanonicalName name ↔ ∃ version : Version, version.IsNormal ∧ version.text = name := by
  constructor
  · rintro ⟨parts, twoParts, canonical, spelled⟩
    obtain ⟨components, inRange, rfl⟩ := exists_components canonical
    rw [List.length_map] at twoParts
    refine ⟨⟨components⟩, ⟨twoParts, inRange⟩, String.toList_inj.1 ?_⟩
    rw [toList_text, spelled]
  · rintro ⟨version, normal, rfl⟩
    refine ⟨version.components.map integerChars, ?_, ?_, toList_text version⟩
    · rw [List.length_map]
      exact normal.twoComponents
    · rw [List.forall_mem_map]
      exact fun component member => isCanonical_integerChars (normal.inRange component member)

/-- Whatever name a version was read from, its own name is read as it again. The names of versions
that were read are the canonical ones, and each of them is the name of what it is read as. -/
theorem text_parse_inverse :
    (∀ channel version, parse channel = .ok version →
      2 ≤ version.components.length ∧ parse version.text = .ok version) ∧
    (∀ name, (∃ channel version, parse channel = .ok version ∧ version.text = name) ↔
      IsCanonicalName name) ∧
    ∀ name, IsCanonicalName name → ∃ version, parse name = .ok version ∧ version.text = name := by
  have readBack : ∀ name, IsCanonicalName name →
      ∃ version, parse name = .ok version ∧ version.text = name := by
    intro name canonical
    obtain ⟨version, normal, rfl⟩ := isCanonicalName_iff.1 canonical
    exact ⟨version, normal.parse_text, rfl⟩
  refine ⟨fun channel version parsed => ?_, fun name => ⟨?_, fun canonical => ?_⟩, readBack⟩
  · have normal := isNormal_of_parse parsed
    exact ⟨normal.twoComponents, normal.parse_text⟩
  · rintro ⟨channel, version, parsed, named⟩
    exact isCanonicalName_iff.2 ⟨version, isNormal_of_parse parsed, named⟩
  · exact ⟨name, readBack name canonical⟩

-- Neither the sign nor the zeros of a name come back, and a second component is added.
example : (parse "stable-v+007").map text = .ok "v7.0" :=
  rfl

end Version

end OperatorKit.Channel
