import EnvTemplate.Proofs.Decimal.Notation
import EnvTemplate.Schema.Number

/-!
# The forms of numbers

A number sample is put together from its parts in one way, and the reader accepts exactly the texts
that are put together so. Among them are the legal literals of a module: ASCII digits without a
leading zero. Of these the canonical ones have no zero at the end of the fraction either, and zero
has no sign.
-/
namespace EnvTemplate.Schema.NumberSample

variable {given : List Char} {parts : NumberSample} {negative : Bool}

/-- The text of a number without its sign. -/
def unsigned (parts : NumberSample) : List Char :=
  parts.whole ++ if parts.fraction = [] then [] else '.' :: parts.fraction

/-- The text of a number. -/
def text (parts : NumberSample) : List Char :=
  if parts.negative then '-' :: parts.unsigned else parts.unsigned

/-- The number without its sign. -/
def decimal (parts : NumberSample) : Decimal := .ofParts parts.whole parts.fraction

/-- All digits are ASCII digits. -/
def IsAscii (parts : NumberSample) : Prop :=
  ∀ c ∈ parts.whole ++ parts.fraction, c.isDigit = true

instance (parts : NumberSample) : Decidable parts.IsAscii := decidable_of_iff _ List.all_eq_true

/-- The parts that a number sample can have: digits of any script, at least one of them before the
point. -/
structure IsSample (parts : NumberSample) : Prop where
  /-- There is a digit before the point. -/
  filled : parts.whole ≠ []
  /-- All digits are decimal digits. -/
  digits : ∀ c ∈ parts.whole ++ parts.fraction, Text.isDecimalDigit c = true

/-- The parts of a legal literal: ASCII digits, and a leading zero only as the one digit before the
point. -/
structure IsLegal (parts : NumberSample) : Prop where
  /-- There is a digit before the point. -/
  filled : parts.whole ≠ []
  /-- All digits are ASCII digits. -/
  ascii : parts.IsAscii
  /-- The digits before the point are a single zero or start with another digit. -/
  leading : parts.whole = ['0'] ∨ parts.whole.head? ≠ some '0'

/-- The parts of a canonical literal: those of a legal one that has no zero at the end of its
fraction and is not a negative zero. -/
structure IsCanonical (parts : NumberSample) : Prop extends IsLegal parts where
  /-- The fraction does not end with a zero. -/
  trailing : parts.fraction.getLast? ≠ some '0'
  /-- Zero has no sign. -/
  sign : parts.text ≠ ['-', '0']

/-- A legal literal is a number sample. -/
theorem IsLegal.isSample (legal : parts.IsLegal) : parts.IsSample :=
  ⟨legal.filled, fun c member => Text.isDecimalDigit_of_isDigit (legal.ascii c member)⟩

/-- The unsigned numbers that are read are those put together from their parts. -/
theorem ofUnsigned?_eq_some_iff :
    ofUnsigned? negative given = some parts ↔
      given = parts.unsigned ∧ parts.negative = negative ∧ parts.IsSample := by
  constructor
  · intro found
    have whole := List.takeWhile_append_dropWhile (p := Text.isDecimalDigit) (l := given)
    have front : ∀ c ∈ given.takeWhile Text.isDecimalDigit, Text.isDecimalDigit c = true :=
      List.all_eq_true.mp List.all_takeWhile
    simp only [ofUnsigned?] at found
    split at found
    · next after =>
      split at found
      · contradiction
      · next filled =>
        cases found
        rw [after] at whole
        exact ⟨whole.symm, rfl, filled, by simpa using front⟩
    · next fraction after =>
      split at found
      · next valid =>
        cases found
        obtain ⟨filled, some, digits⟩ := valid
        rw [after] at whole
        refine ⟨?_, rfl, filled, List.forall_mem_append.mpr ⟨front, List.all_eq_true.mp digits⟩⟩
        rw [unsigned, if_neg some, whole]
      · contradiction
    · contradiction
  · rintro ⟨rfl, rfl, sample⟩
    obtain ⟨front, digits⟩ := List.forall_mem_append.mp sample.digits
    unfold ofUnsigned? unsigned
    rw [List.takeWhile_append_of_pos front, List.dropWhile_append_of_pos front]
    obtain ⟨negative, whole, fraction⟩ := parts
    cases fraction with
    | nil => simp [sample.filled]
    | cons c fraction =>
      have stop : Text.isDecimalDigit '.' = false := by decide
      have rest : ∀ d ∈ c :: fraction, Text.isDecimalDigit d = true := digits
      simp only [reduceCtorEq, if_false]
      rw [List.takeWhile_cons_of_neg (by simp [stop]), List.dropWhile_cons_of_neg (by simp [stop])]
      simp only [List.append_nil]
      rw [if_pos ⟨sample.filled, List.cons_ne_nil c fraction, List.all_eq_true.mpr rest⟩]

/-- An unsigned number does not start with a minus sign. -/
theorem IsSample.head?_unsigned (sample : parts.IsSample) : parts.unsigned.head? ≠ some '-' := by
  obtain ⟨first, rest, whole⟩ := List.exists_cons_of_ne_nil sample.filled
  have digit : Text.isDecimalDigit first = true :=
    sample.digits first (by simp [whole])
  intro minus
  rw [unsigned, whole, List.cons_append, List.head?_cons] at minus
  cases Option.some.inj minus
  exact absurd digit (by decide)

/-- The number samples are the texts put together from their parts. -/
theorem ofText?_eq_some_iff :
    ofText? given = some parts ↔ given = parts.text ∧ parts.IsSample := by
  constructor
  · intro found
    unfold ofText? at found
    split at found
    · obtain ⟨rfl, negative, sample⟩ := ofUnsigned?_eq_some_iff.mp found
      exact ⟨by rw [text, if_pos negative], sample⟩
    · obtain ⟨rfl, positive, sample⟩ := ofUnsigned?_eq_some_iff.mp found
      exact ⟨by rw [text, if_neg (by simp [positive])], sample⟩
  · rintro ⟨rfl, sample⟩
    unfold ofText? text
    cases negative : parts.negative with
    | true => exact ofUnsigned?_eq_some_iff.mpr ⟨rfl, negative, sample⟩
    | false =>
      simp only [Bool.false_eq_true, if_false]
      split
      · next rest signed => exact absurd (congrArg List.head? signed) sample.head?_unsigned
      · exact ofUnsigned?_eq_some_iff.mpr ⟨rfl, negative, sample⟩

/-- The parts of a number sample are told by its text. -/
theorem IsSample.eq_of_text {other : NumberSample} (sample : parts.IsSample)
    (sampleToo : other.IsSample) (same : parts.text = other.text) : parts = other := by
  have found := ofText?_eq_some_iff.mpr ⟨rfl, sample⟩
  rw [ofText?_eq_some_iff.mpr ⟨same, sampleToo⟩] at found
  exact (Option.some.inj found).symm

end EnvTemplate.Schema.NumberSample
