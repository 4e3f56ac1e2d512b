import EnvTemplate.Proofs.Decimal.Nearest
import EnvTemplate.Proofs.Decimal.Shortest
import EnvTemplate.Proofs.Schema.Literal
import EnvTemplate.Proofs.Schema.NumberForm
import EnvTemplate.Proofs.Text.Trimming

/-!
# The literals of numbers

A number sample with ASCII digits and a value in range has a canonical literal, which reads as the
same binary64 number. Any other number sample is its own literal; so that literal is legal only when
the digits are ASCII and none leads the number as a zero. Either way the literal is a sample with the
literal itself as its default.
-/
namespace EnvTemplate.Schema

namespace NumberSample

variable {negative : Bool} {magnitude : Binary64} {parts : NumberSample} {given : List Char}

/-- The parts of the literal of a binary64 number. -/
def ofMagnitude (negative : Bool) (magnitude : Binary64) : NumberSample :=
  if magnitude = .zero then ⟨false, ['0'], []⟩
  else ⟨negative, magnitude.shortest.wholeDigits, magnitude.shortest.pointDigits⟩

/-- The literal of a binary64 number is put together from its parts. -/
theorem literalOf_eq (negative : Bool) (magnitude : Binary64) :
    literalOf negative magnitude = (ofMagnitude negative magnitude).text := by
  unfold literalOf ofMagnitude Binary64.digits
  by_cases zero : magnitude = .zero
  · simp [zero, text, unsigned]
  · have signed : (negative = true ∧ magnitude ≠ .zero) ↔ negative = true := and_iff_left zero
    simp only [signed, if_neg zero]
    rw [Decimal.digits_eq, text, unsigned]

/-- The literal of zero reads as zero. -/
theorem reads_zero (negative : Bool) :
    Binary64.ofDecimal? (decimal ⟨negative, ['0'], []⟩) = some .zero := by
  have units : decimal ⟨negative, ['0'], []⟩ = ⟨0, 0⟩ := rfl
  rw [units]
  refine Binary64.nearest?_units Binary64.isFinite_zero (tenTo_pos 0) ?_
  rw [Nat.zero_mul, Binary64.units, Binary64.zero, Nat.zero_mul, Nat.zero_mul]

/-- The literal of a binary64 number reads back. -/
theorem reads_ofMagnitude (negative : Bool) (finite : magnitude.IsFinite) :
    Binary64.ofDecimal? (ofMagnitude negative magnitude).decimal = some magnitude := by
  unfold ofMagnitude
  split
  · next zero =>
    rw [zero]
    exact reads_zero false
  · rw [decimal, Decimal.ofParts_digits]
    exact Binary64.ofDecimal?_shortest finite

/-- The literal of a binary64 number has a sign when the number is negative and not zero. -/
theorem negative_ofMagnitude (negative : Bool) (magnitude : Binary64) :
    (ofMagnitude negative magnitude).negative = (negative && magnitude ≠ .zero) := by
  unfold ofMagnitude
  split
  · next zero => simp [zero]
  · next other => simp [other]

/-- The literal of a binary64 number is legal. -/
theorem isLegal_ofMagnitude (negative : Bool) (magnitude : Binary64) :
    (ofMagnitude negative magnitude).IsLegal := by
  unfold ofMagnitude
  split
  · exact ⟨List.cons_ne_nil _ _, List.forall_mem_singleton.mpr rfl, .inl rfl⟩
  · refine ⟨Nat.toDigits_ne_nil, ?_, Decimal.head?_wholeDigits _⟩
    exact List.forall_mem_append.mpr ⟨fun _ => Decimal.isDigit_of_mem_wholeDigits,
      fun _ => Decimal.isDigit_of_mem_pointDigits⟩

/-- The literal of a binary64 number is canonical. -/
theorem isCanonical_ofMagnitude (negative : Bool) (finite : magnitude.IsFinite) :
    (ofMagnitude negative magnitude).IsCanonical := by
  have legal := isLegal_ofMagnitude negative magnitude
  refine { toIsLegal := legal, trailing := ?_, sign := ?_ }
  · unfold ofMagnitude
    split
    · nofun
    · intro ended
      have some : magnitude.shortest.places ≠ 0 := by
        rw [← Decimal.length_pointDigits]
        intro none
        rw [List.length_eq_zero_iff.mp none] at ended
        contradiction
      exact Binary64.shortest_trimmed finite some (Decimal.units_mod_ten ended)
  · -- A negative zero would read as zero, whose literal has no sign.
    intro signed
    have minus : IsSample ⟨true, ['0'], []⟩ :=
      ⟨List.cons_ne_nil _ _, List.forall_mem_singleton.mpr rfl⟩
    have same := legal.isSample.eq_of_text minus signed
    have reads := reads_ofMagnitude negative finite
    rw [same, reads_zero] at reads
    cases Option.some.inj reads
    cases same

/-- A number sample has a magnitude when its digits are ASCII and it is in range: the nearest one. -/
theorem magnitude?_eq_some_iff :
    parts.magnitude? = some magnitude ↔ parts.IsAscii ∧ parts.decimal.Nearest magnitude := by
  have ascii : (parts.whole.all Char.isDigit ∧ parts.fraction.all Char.isDigit) ↔ parts.IsAscii := by
    rw [IsAscii, List.forall_mem_append, List.all_eq_true, List.all_eq_true]
  unfold magnitude?
  split
  · next digits =>
    rw [← ascii, ← Decimal.ofDecimal?_eq_some_iff]
    exact (and_iff_right digits).symm
  · next other =>
    rw [← ascii]
    constructor
    · nofun
    · exact fun valid => absurd valid.1 other

/-- A number sample is its own literal when a digit is not ASCII or it is out of range. -/
theorem magnitude?_eq_none_iff :
    parts.magnitude? = none ↔ ¬(parts.IsAscii ∧ parts.decimal.IsInRange) := by
  constructor
  · rintro none ⟨ascii, inRange⟩
    obtain ⟨magnitude, reads⟩ := inRange.exists_reads
    rw [magnitude?_eq_some_iff.mpr ⟨ascii, .of_reads reads⟩] at none
    cases none
  · intro outside
    cases found : parts.magnitude? with
    | none => rfl
    | some magnitude =>
      obtain ⟨ascii, nearest⟩ := magnitude?_eq_some_iff.mp found
      exact absurd ⟨ascii, nearest.inRange⟩ outside

/-- The literal of a number sample is a number sample with the same literal. -/
theorem literal_literal (found : ofText? given = some parts) :
    ∃ again, ofText? (parts.literal given) = some again ∧
      again.literal (parts.literal given) = parts.literal given := by
  cases known : parts.magnitude? with
  | none =>
    have itself : parts.literal given = given := by rw [literal, known]
    exact ⟨parts, by rw [itself, found], by rw [itself, itself]⟩
  | some magnitude =>
    obtain ⟨_, nearest⟩ := magnitude?_eq_some_iff.mp known
    have legal := isLegal_ofMagnitude parts.negative magnitude
    have again : (ofMagnitude parts.negative magnitude).magnitude? = some magnitude :=
      magnitude?_eq_some_iff.mpr
        ⟨legal.ascii, .of_reads (reads_ofMagnitude parts.negative nearest.finite)⟩
    have written : parts.literal given = (ofMagnitude parts.negative magnitude).text := by
      rw [literal, known, ← literalOf_eq]
    refine ⟨ofMagnitude parts.negative magnitude, ?_, ?_⟩
    · exact ofText?_eq_some_iff.mpr ⟨written, legal.isSample⟩
    · rw [written, literal, again, ← literalOf_eq, negative_ofMagnitude]
      by_cases zero : magnitude = .zero
      · simp [literalOf, zero]
      · simp [zero]

end NumberSample

namespace Inference

variable {sample literal : String} {parts : NumberSample} {given : List Char} {c : Char}

/-- A decimal digit stands in a row of ten. -/
theorem exists_row_of_isDecimalDigit (digit : Text.isDecimalDigit c = true) :
    ∃ start ∈ Text.digitZeros, start ≤ c.toNat ∧ c.toNat < start + 10 := by
  rcases (Bool.or_eq_true _ _).mp digit with ascii | other
  · obtain ⟨low, high⟩ := Char.isDigit_iff_toNat.mp ascii
    exact ⟨0x30, List.mem_cons_self, low, Nat.lt_succ_of_le high⟩
  · obtain ⟨start, listed, within⟩ := List.any_eq_true.mp other
    obtain ⟨low, high⟩ := (Bool.and_eq_true _ _).mp within
    exact ⟨start, listed, of_decide_eq_true low, of_decide_eq_true high⟩

/-- The characters of numbers are not blank. -/
theorem isBlank_of_isNumberChar (number : isNumberChar c = true) : Text.isBlank c = false := by
  have rows : ∀ start ∈ Text.digitZeros, ∀ place < 10,
      Text.isBlank (Char.ofNat (start + place)) = false := by decide
  simp only [isNumberChar, Bool.or_eq_true, beq_iff_eq] at number
  rcases number with (digit | rfl) | rfl
  · obtain ⟨start, listed, low, high⟩ := exists_row_of_isDecimalDigit digit
    have entry := rows start listed (c.toNat - start) (by omega)
    rwa [Nat.add_sub_cancel' low, Char.ofNat_toNat] at entry
  · decide
  · decide

/-- The characters of numbers are no letters. -/
theorem toLower_ne_of_isNumberChar (number : isNumberChar c = true) : c.toLower ≠ 'e' := by
  intro lowered
  have letter : c = 'e' ∨ c = 'E' := by
    unfold Char.toLower at lowered
    split at lowered
    · have shifted : c.val + 32 = 101 := congrArg Char.val lowered
      exact .inr (Char.ext (UInt32.eq_sub_iff_add_eq.mpr shifted))
    · exact .inl lowered
  rcases letter with rfl | rfl <;> exact absurd number (by decide)

/-- A number sample is none of the words for booleans, which have a letter in common. -/
theorem map_toLower_ne {word : List Char} (numeric : IsNumeric given) (letter : 'e' ∈ word) :
    given.map Char.toLower ≠ word := by
  rintro rfl
  obtain ⟨c, member, lowered⟩ := List.mem_map.mp letter
  exact toLower_ne_of_isNumberChar (numeric c member) lowered

/-- A number sample is inferred to be a number. -/
theorem ofTrimmed_of_ofText? (found : NumberSample.ofText? given = some parts) :
    ofTrimmed given = .number (String.ofList (parts.literal given)) := by
  have numeric := NumberSample.isNumeric_of_ofText? found
  have some : given ≠ [] := by
    rintro rfl
    contradiction
  unfold ofTrimmed
  rw [if_neg some, if_neg (map_toLower_ne numeric (by decide)),
    if_neg (map_toLower_ne numeric (by decide)), found]

/-- The samples that are inferred to be numbers, and their literals. -/
theorem ofSample_eq_number_iff :
    ofSample sample = .number literal ↔
      ∃ parts, NumberSample.ofText? (Text.trim sample.toList) = some parts ∧
        literal.toList = parts.literal (Text.trim sample.toList) := by
  constructor
  · intro inferred
    unfold ofSample ofTrimmed at inferred
    split at inferred
    · contradiction
    split at inferred
    · contradiction
    split at inferred
    · contradiction
    split at inferred
    · next parts found =>
      obtain rfl := Inference.number.inj inferred
      exact ⟨parts, found, String.toList_ofList⟩
    · contradiction
  · rintro ⟨parts, found, written⟩
    rw [ofSample, ofTrimmed_of_ofText? found, ← written, String.ofList_toList]

/-- The literal of a number is inferred to be the same number. -/
theorem ofSample_of_number (inferred : ofSample sample = .number literal) :
    ofSample literal = .number literal := by
  obtain ⟨parts, found, written⟩ := ofSample_eq_number_iff.mp inferred
  obtain ⟨again, foundAgain, kept⟩ := NumberSample.literal_literal found
  have whole : Text.trim literal.toList = literal.toList :=
    Text.trim_of_filled fun c member =>
      isBlank_of_isNumberChar (isNumeric_of_ofSample inferred c member)
  refine ofSample_eq_number_iff.mpr ⟨again, ?_, ?_⟩
  · rw [whole, written, foundAgain]
  · rw [whole, written, kept]

/-- A boolean or a number has a default that is inferred to be the same value. -/
theorem ofSample_default (typed : (ofSample sample).valueType ≠ .string) :
    ∃ literal, (ofSample sample).default? = some literal ∧ ofSample literal = ofSample sample := by
  cases inferred : ofSample sample with
  | required => simp [inferred, valueType] at typed
  | text value => simp [inferred, valueType] at typed
  | boolean value =>
    refine ⟨_, rfl, ?_⟩
    cases value <;> decide
  | number literal => exact ⟨literal, rfl, ofSample_of_number inferred⟩

end Inference

section Samples

open Inference (ofSample)

variable {sample literal : String} {parts : NumberSample}

/-- A number sample with ASCII digits and a value in range has the literal of its magnitude. -/
theorem toList_of_inRange (written : literal.toList = parts.literal (Text.trim sample.toList))
    (ascii : parts.IsAscii) (inRange : parts.decimal.IsInRange) :
    ∃ magnitude, parts.decimal.Nearest magnitude ∧
      literal.toList = (NumberSample.ofMagnitude parts.negative magnitude).text := by
  obtain ⟨magnitude, reads⟩ := inRange.exists_reads
  have known := NumberSample.magnitude?_eq_some_iff.mpr ⟨ascii, .of_reads reads⟩
  refine ⟨magnitude, .of_reads reads, ?_⟩
  rw [written, NumberSample.literal, known, ← NumberSample.literalOf_eq]

/-- A number with ASCII digits and a value in range has a canonical default, which is nearest to the
same binary64 number; zero has no sign. The default of any boolean or number, in range or not, is
inferred to be the same value again. -/
theorem number_defaults (sample : String) :
    (∀ literal, ofSample sample = .number literal →
      ∃ parts, NumberSample.ofText? (Text.trim sample.toList) = some parts ∧
        (parts.IsAscii → parts.decimal.IsInRange →
          ∃ (again : NumberSample) (magnitude : Binary64),
            literal.toList = again.text ∧ again.IsCanonical ∧
            parts.decimal.Nearest magnitude ∧ again.decimal.Nearest magnitude ∧
            again.negative = (parts.negative && magnitude ≠ .zero) ∧
            (magnitude = .zero → literal = "0"))) ∧
      ((ofSample sample).valueType ≠ .string →
        ∃ literal, (ofSample sample).default? = some literal ∧
          ofSample literal = ofSample sample) := by
  refine ⟨fun literal inferred => ?_, Inference.ofSample_default⟩
  obtain ⟨parts, found, written⟩ := Inference.ofSample_eq_number_iff.mp inferred
  refine ⟨parts, found, fun ascii inRange => ?_⟩
  obtain ⟨magnitude, nearest, digits⟩ := toList_of_inRange written ascii inRange
  have again := NumberSample.reads_ofMagnitude parts.negative nearest.finite
  refine ⟨_, magnitude, digits, NumberSample.isCanonical_ofMagnitude _ nearest.finite, nearest,
    .of_reads again, NumberSample.negative_ofMagnitude _ _, ?_⟩
  rintro rfl
  exact String.toList_injective digits

/-- Zeros at both ends of a number are dropped. -/
theorem number_defaults_padded :
    ofSample "-00012.3450" = .number "-12.345" ∧
      (∃ (again : NumberSample) (magnitude : Binary64),
        "-12.345".toList = again.text ∧ again.IsCanonical ∧
        (Decimal.mk 123450 4).Nearest magnitude ∧ again.decimal.Nearest magnitude) ∧
      ofSample "-12.345" = ofSample "-00012.3450" := by
  have inferred : ofSample "-00012.3450" = .number "-12.345" := by decide +kernel
  obtain ⟨first, second⟩ := number_defaults "-00012.3450"
  obtain ⟨parts, found, canonical⟩ := first "-12.345" inferred
  have known : NumberSample.ofText? (Text.trim "-00012.3450".toList) =
      some ⟨true, ['0', '0', '0', '1', '2'], ['3', '4', '5', '0']⟩ := by decide
  cases known.symm.trans found
  obtain ⟨again, magnitude, digits, form, nearest, nearestToo, _⟩ :=
    canonical (by decide) (by decide +kernel)
  obtain ⟨literal, default, same⟩ := second (by rw [inferred]; decide)
  rw [inferred] at default
  cases default
  exact ⟨inferred, ⟨again, magnitude, digits, form, nearest, nearestToo⟩, same⟩

/-- The legal literals of numbers in a module. -/
def IsLegalNumber (literal : String) : Prop :=
  ∃ parts : NumberSample, literal.toList = parts.text ∧ parts.IsLegal

/-- The default of a number is a legal literal when the digits of the sample are ASCII and it is in
range or has no leading zero. -/
theorem isLegalNumber_iff (inferred : ofSample sample = .number literal) :
    ∃ parts, NumberSample.ofText? (Text.trim sample.toList) = some parts ∧
      (IsLegalNumber literal ↔ parts.IsAscii ∧
        (parts.decimal.IsInRange ∨ parts.whole = ['0'] ∨ parts.whole.head? ≠ some '0')) := by
  obtain ⟨parts, found, written⟩ := Inference.ofSample_eq_number_iff.mp inferred
  obtain ⟨given, valid⟩ := NumberSample.ofText?_eq_some_iff.mp found
  refine ⟨parts, found, ?_⟩
  by_cases inside : parts.IsAscii ∧ parts.decimal.IsInRange
  · obtain ⟨ascii, inRange⟩ := inside
    obtain ⟨magnitude, _, digits⟩ := toList_of_inRange written ascii inRange
    exact iff_of_true ⟨_, digits, NumberSample.isLegal_ofMagnitude _ _⟩ ⟨ascii, .inl inRange⟩
  · -- The literal is the sample, and a legal literal has no other parts than the sample.
    have itself : literal.toList = parts.text := by
      rw [written, NumberSample.literal, NumberSample.magnitude?_eq_none_iff.mpr inside, given]
    constructor
    · rintro ⟨again, digits, legal⟩
      cases legal.isSample.eq_of_text valid (digits.symm.trans itself)
      exact ⟨legal.ascii, .inr legal.leading⟩
    · rintro ⟨ascii, inRange | leading⟩
      · exact absurd ⟨ascii, inRange⟩ inside
      · exact ⟨parts, itself, valid.filled, ascii, leading⟩

/-- Leading zeros of a number in range are dropped. -/
theorem isLegalNumber_seven : ofSample "007" = .number "7" ∧ IsLegalNumber "7" := by
  have inferred : ofSample "007" = .number "7" := by decide +kernel
  obtain ⟨parts, found, legal⟩ := isLegalNumber_iff inferred
  have known : NumberSample.ofText? (Text.trim "007".toList) =
      some ⟨false, ['0', '0', '7'], []⟩ := by decide
  cases known.symm.trans found
  exact ⟨inferred, legal.mpr ⟨by decide, .inl (by decide +kernel)⟩⟩

/-- A digit of another script is its own default, and no legal literal. -/
theorem not_isLegalNumber_arabic : ofSample "٣" = .number "٣" ∧ ¬IsLegalNumber "٣" := by
  refine ⟨by decide +kernel, ?_⟩
  rintro ⟨parts, digits, legal⟩
  have found := NumberSample.ofText?_eq_some_iff.mpr ⟨digits, legal.isSample⟩
  have known : NumberSample.ofText? "٣".toList = some ⟨false, ['٣'], []⟩ := by decide
  cases known.symm.trans found
  exact absurd legal.ascii (by decide)

end Samples

end EnvTemplate.Schema
