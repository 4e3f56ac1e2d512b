import EnvTemplate.Proofs.Decimal.Rounding

/-!
# Positional notation

The digits that a decimal fraction is written with, before and after the point, give the same decimal
fraction again. The digits before the point have no leading zero, and the fraction ends with a zero
only when the units do.
-/
namespace EnvTemplate.Decimal

variable {value : Decimal} {front digits : List Char} {number : Nat}

/-- The digits before the point. -/
def wholeDigits (value : Decimal) : List Char := Nat.toDigits 10 (value.units / tenTo value.places)

/-- The digits after the point; none when there is no point. -/
def pointDigits (value : Decimal) : List Char :=
  if value.places = 0 then [] else value.fractionDigits

/-- The number that one spelling after another spells. -/
theorem ofDigits_append (front digits : List Char) :
    ofDigits (front ++ digits) = ofDigits front * tenTo digits.length + ofDigits digits := by
  unfold ofDigits tenTo
  rw [Nat.ofDigitChars_append, Nat.ofDigitChars_eq_ofDigitChars_zero, Nat.mul_comm]
  rfl

/-- The number that the digits of a number spell. -/
theorem ofDigits_toDigits (number : Nat) : ofDigits (Nat.toDigits 10 number) = number :=
  Nat.ofDigitChars_ten_toDigits

/-- Only zero is written with a leading zero. -/
theorem head?_toDigits (positive : 0 < number) : (Nat.toDigits 10 number).head? ≠ some '0' := by
  induction number using Nat.strongRecOn with
  | ind number ih =>
    rw [Nat.toDigits_eq_if (by decide)]
    split
    · next single =>
      have other : number.digitChar ≠ '0' := fun zero =>
        Nat.ne_of_gt positive (Nat.digitChar_eq_zero.mp zero)
      simpa using other
    · next more =>
      have shorter := ih (number / 10) (by omega) (by omega)
      rwa [List.head?_append, Option.or_of_isSome (List.isSome_head?.mpr Nat.toDigits_ne_nil)]

/-- The digits before the point are a single zero or start with another digit. -/
theorem head?_wholeDigits (value : Decimal) :
    value.wholeDigits = ['0'] ∨ value.wholeDigits.head? ≠ some '0' := by
  unfold wholeDigits
  rcases Nat.eq_zero_or_pos (value.units / tenTo value.places) with zero | positive
  · rw [zero]
    exact .inl (Nat.toDigits_zero 10)
  · exact .inr (head?_toDigits positive)

/-- The digits before the point are ASCII digits. -/
theorem isDigit_of_mem_wholeDigits {c : Char} (member : c ∈ value.wholeDigits) :
    c.isDigit = true :=
  Nat.isDigit_of_mem_toDigits (by decide) (by decide) member

/-- The digits after the point are ASCII digits. -/
theorem isDigit_of_mem_pointDigits {c : Char} (member : c ∈ value.pointDigits) :
    c.isDigit = true := by
  unfold pointDigits at member
  split at member
  · contradiction
  · rcases List.mem_append.mp member with zero | digit
    · exact List.eq_of_mem_replicate zero ▸ rfl
    · exact Nat.isDigit_of_mem_toDigits (by decide) (by decide) digit

/-- The digits after the point spell the fraction. -/
theorem ofDigits_fractionDigits (value : Decimal) :
    ofDigits value.fractionDigits = value.units % tenTo value.places := by
  have zeros (count : Nat) : ofDigits (List.replicate count '0') = 0 :=
    Nat.ofDigitChars_replicate_zero
  unfold fractionDigits
  rw [ofDigits_append, zeros, Nat.zero_mul, Nat.zero_add, ofDigits_toDigits]

/-- There is a digit for every fraction place. -/
theorem length_pointDigits (value : Decimal) : value.pointDigits.length = value.places := by
  unfold pointDigits
  split
  · next none => rw [none, List.length_nil]
  · next some =>
    have low := Nat.mod_lt value.units (tenTo_pos value.places)
    have fits : (Nat.toDigits 10 (value.units % tenTo value.places)).length ≤ value.places :=
      (Nat.length_toDigits_le_iff (by decide) (Nat.pos_of_ne_zero some)).mpr low
    unfold fractionDigits
    rw [List.length_append, List.length_replicate]
    omega

/-- The digits of a decimal fraction give it again. -/
theorem ofParts_digits (value : Decimal) :
    ofParts value.wholeDigits value.pointDigits = value := by
  have fraction : ofDigits value.pointDigits = value.units % tenTo value.places := by
    unfold pointDigits
    split
    · next none =>
      rw [none]
      exact (Nat.mod_one _).symm
    · exact ofDigits_fractionDigits value
  have units : ofDigits (value.wholeDigits ++ value.pointDigits) = value.units := by
    rw [ofDigits_append, fraction, length_pointDigits, wholeDigits, ofDigits_toDigits]
    exact Nat.div_add_mod' _ _
  unfold ofParts
  rw [units, length_pointDigits]

/-- The fraction ends with a zero only when the units do. -/
theorem units_mod_ten (ended : value.pointDigits.getLast? = some '0') : value.units % 10 = 0 := by
  obtain ⟨front, whole⟩ := List.getLast?_eq_some_iff.mp ended
  have some : value.places ≠ 0 := by
    rw [← length_pointDigits, whole]
    simp
  have digits : value.fractionDigits = front ++ ['0'] := by
    rw [← whole, pointDigits, if_neg some]
  have tens : value.units % tenTo value.places = ofDigits front * 10 := by
    rw [← ofDigits_fractionDigits, digits, ofDigits_append]
    rfl
  have divides : 10 ∣ tenTo value.places := by
    obtain ⟨before, succ⟩ := Nat.exists_eq_succ_of_ne_zero some
    rw [succ, Nat.succ_eq_add_one, tenTo_succ]
    exact Nat.dvd_mul_left 10 _
  rw [← Nat.mod_mod_of_dvd value.units divides, tens, Nat.mul_mod_left]

/-- A decimal fraction is written with its digits, and with a point when digits follow it. -/
theorem digits_eq (value : Decimal) :
    value.digits =
      value.wholeDigits ++ if value.pointDigits = [] then [] else '.' :: value.pointDigits := by
  have same : value.pointDigits = [] ↔ value.places = 0 := by
    rw [← length_pointDigits, List.length_eq_zero_iff]
  unfold digits
  simp only [same]
  split
  · rw [List.append_nil, wholeDigits]
  · next some => rw [wholeDigits, pointDigits, if_neg some]

end EnvTemplate.Decimal
