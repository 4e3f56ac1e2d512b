import EnvTemplate.Schema.Inference

/-!
# The characters of number literals

Whether a number sample is written with the shortest digits of a binary64 number or as it stands,
its literal holds decimal digits, a minus sign and a point only.
-/
namespace EnvTemplate.Schema

/-- The characters of number literals. -/
def isNumberChar (c : Char) : Bool := Text.isDecimalDigit c || c == '-' || c == '.'

/-- All characters of a text are characters of number literals. -/
def IsNumeric (text : List Char) : Prop := ∀ c ∈ text, isNumberChar c = true

/-- Decimal digits are characters of number literals. -/
theorem isNumeric_of_digits {text : List Char}
    (digits : ∀ c ∈ text, Text.isDecimalDigit c = true) : IsNumeric text :=
  fun c member => by simp [isNumberChar, digits c member]

/-- The digits of a natural number are numeric. -/
theorem isNumeric_toDigits (value : Nat) : IsNumeric (Nat.toDigits 10 value) :=
  isNumeric_of_digits fun _ member =>
    Text.isDecimalDigit_of_isDigit (Nat.isDigit_of_mem_toDigits (by decide) (by decide) member)

/-- The digits after a point are numeric. -/
theorem isNumeric_fractionDigits (value : Decimal) : IsNumeric value.fractionDigits :=
  List.forall_mem_append.mpr
    ⟨fun _ member => List.eq_of_mem_replicate member ▸ rfl, isNumeric_toDigits _⟩

/-- A decimal fraction is written with numeric characters. -/
theorem isNumeric_digits (value : Decimal) : IsNumeric value.digits := by
  unfold Decimal.digits
  split
  · exact isNumeric_toDigits _
  · exact List.forall_mem_append.mpr ⟨isNumeric_toDigits _,
      List.forall_mem_cons.mpr ⟨rfl, isNumeric_fractionDigits value⟩⟩

namespace NumberSample

variable {text : List Char} {parts : NumberSample} {negative : Bool}

/-- An unsigned number sample is numeric. -/
theorem isNumeric_of_ofUnsigned? (found : ofUnsigned? negative text = some parts) :
    IsNumeric text := by
  have whole := List.takeWhile_append_dropWhile (p := Text.isDecimalDigit) (l := text)
  have front : IsNumeric (text.takeWhile Text.isDecimalDigit) :=
    isNumeric_of_digits (List.all_eq_true.mp List.all_takeWhile)
  simp only [ofUnsigned?] at found
  split at found
  · next after =>
    rw [after, List.append_nil] at whole
    exact whole ▸ front
  · next fraction after =>
    split at found
    · next valid =>
      rw [← whole, after]
      refine List.forall_mem_append.mpr ⟨front, List.forall_mem_cons.mpr ⟨rfl, ?_⟩⟩
      exact isNumeric_of_digits (List.all_eq_true.mp valid.2.2)
    · contradiction
  · contradiction

/-- A number sample is numeric. -/
theorem isNumeric_of_ofText? (found : ofText? text = some parts) : IsNumeric text := by
  unfold ofText? at found
  split at found
  · exact List.forall_mem_cons.mpr ⟨rfl, isNumeric_of_ofUnsigned? found⟩
  · exact isNumeric_of_ofUnsigned? found

/-- The literal of a number sample is numeric. -/
theorem isNumeric_literal (found : ofText? text = some parts) : IsNumeric (parts.literal text) := by
  have digits (magnitude : Binary64) : IsNumeric magnitude.digits := by
    unfold Binary64.digits
    split
    · simp [IsNumeric, isNumberChar, Text.isDecimalDigit]
    · exact isNumeric_digits _
  unfold literal
  split
  · next magnitude _ =>
    unfold literalOf
    split
    · exact List.forall_mem_cons.mpr ⟨rfl, digits magnitude⟩
    · exact digits magnitude
  · exact isNumeric_of_ofText? found

end NumberSample

/-- The literal of an inferred number is numeric. -/
theorem isNumeric_of_ofSample {sample literal : String}
    (inferred : Inference.ofSample sample = .number literal) : IsNumeric literal.toList := by
  unfold Inference.ofSample Inference.ofTrimmed at inferred
  split at inferred
  · contradiction
  split at inferred
  · contradiction
  split at inferred
  · contradiction
  split at inferred
  · next parts found =>
    obtain rfl := Inference.number.inj inferred
    rw [String.toList_ofList]
    exact NumberSample.isNumeric_literal found
  · contradiction

end EnvTemplate.Schema
