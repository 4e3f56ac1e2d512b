import EnvTemplate.Decimal.Binary64

/-!
# Rounding to binary64

A ratio rounded to a whole number is at most a bound exactly when the ratio does not pass the middle
between the bound and the number after it. So rounding keeps the order of ratios and leaves whole
numbers as they are. The same holds of the nearest magnitude to a ratio: magnitudes in their normal
form are told apart by their units, these grow with the ratio, and a ratio that is a magnitude is its
own nearest one.
-/
namespace EnvTemplate

/-- Powers of ten are positive. -/
theorem tenTo_pos (exponent : Nat) : 0 < tenTo exponent := Nat.pow_pos (by decide)

/-- The next power of ten. -/
theorem tenTo_succ (exponent : Nat) : tenTo (exponent + 1) = tenTo exponent * 10 :=
  Nat.pow_succ 10 exponent

/-- Powers of two are positive. -/
theorem twoTo_pos (exponent : Nat) : 0 < twoTo exponent := Nat.pow_pos (by decide)

/-- A sum of exponents is a product of powers. -/
theorem twoTo_add (first second : Nat) : twoTo (first + second) = twoTo first * twoTo second :=
  Nat.pow_add 2 first second

/-- Powers of two grow with the exponent. -/
theorem twoTo_le_twoTo {first second : Nat} (order : first ≤ second) :
    twoTo first ≤ twoTo second :=
  Nat.pow_le_pow_right (by decide) order

/-- The exponents of powers of two are in the order of the powers. -/
theorem lt_of_twoTo_lt_twoTo {first second : Nat} (order : twoTo first < twoTo second) :
    first < second := by
  rcases Nat.lt_or_ge first second with less | more
  · exact less
  · exact absurd (twoTo_le_twoTo more) (Nat.not_le_of_lt order)

section WholeNumbers

variable {numerator denominator other divisor bound : Nat}

/-- A ratio is rounded down before the middle after its floor and up behind it; in the middle the
floor counts when it is even. -/
theorem roundHalfEven_cases (numerator denominator : Nat) :
    let floor := numerator / denominator
    let twice := 2 * (numerator % denominator)
    roundHalfEven numerator denominator = floor ∧
        (twice < denominator ∨ twice = denominator ∧ floor % 2 = 0) ∨
      roundHalfEven numerator denominator = floor + 1 ∧
        (denominator < twice ∨ twice = denominator ∧ floor % 2 = 1) := by
  intro floor twice
  unfold roundHalfEven
  by_cases low : twice < denominator
  · exact .inl ⟨if_pos low, .inl low⟩
  · by_cases high : denominator < twice
    · exact .inr ⟨(if_neg low).trans (if_pos high), .inl high⟩
    · have half : twice = denominator := by omega
      by_cases even : floor % 2 = 0
      · exact .inl ⟨(if_neg low).trans ((if_neg high).trans (if_pos even)), .inr ⟨half, even⟩⟩
      · exact .inr ⟨(if_neg low).trans ((if_neg high).trans (if_neg even)),
          .inr ⟨half, by omega⟩⟩

/-- A ratio is rounded to at most a bound when it does not pass the middle after the bound; the
middle itself is rounded to the bound when that is even. -/
theorem roundHalfEven_le_iff (positive : 0 < denominator) :
    roundHalfEven numerator denominator ≤ bound ↔
      if bound % 2 = 0 then 2 * numerator ≤ (2 * bound + 1) * denominator
      else 2 * numerator < (2 * bound + 1) * denominator := by
  have whole := Nat.div_add_mod' numerator denominator
  have rest := Nat.mod_lt numerator positive
  have cases := roundHalfEven_cases numerator denominator
  generalize roundHalfEven numerator denominator = nearest at *
  generalize numerator / denominator = floor at *
  generalize numerator % denominator = remainder at *
  have middle : (2 * bound + 1) * denominator = 2 * (bound * denominator) + denominator := by
    rw [Nat.add_mul, Nat.one_mul, Nat.mul_assoc]
  rw [middle]
  -- Only a bound that is the floor itself lies near enough for the rest to count.
  rcases Nat.lt_trichotomy bound floor with below | rfl | above
  · have apart : bound * denominator + denominator ≤ floor * denominator := by
      have step := Nat.mul_le_mul_right denominator below
      rwa [Nat.succ_mul] at step
    split <;> omega
  · split <;> omega
  · have apart : floor * denominator + denominator ≤ bound * denominator := by
      have step := Nat.mul_le_mul_right denominator above
      rwa [Nat.succ_mul] at step
    split <;> omega

/-- Rounding keeps the order of ratios. -/
theorem roundHalfEven_mono (positive : 0 < denominator) (positiveToo : 0 < divisor)
    (order : numerator * divisor ≤ other * denominator) :
    roundHalfEven numerator denominator ≤ roundHalfEven other divisor := by
  have reached := (roundHalfEven_le_iff positiveToo).mp (Nat.le_refl (roundHalfEven other divisor))
  rw [roundHalfEven_le_iff positive]
  generalize 2 * roundHalfEven other divisor + 1 = middle at *
  have scaled : 2 * numerator * divisor ≤ 2 * other * denominator := by
    rw [Nat.mul_assoc, Nat.mul_assoc]
    exact Nat.mul_le_mul_left 2 order
  have turned : middle * divisor * denominator = middle * denominator * divisor :=
    Nat.mul_right_comm _ _ _
  split at reached
  · rw [if_pos ‹_›]
    have later := Nat.mul_le_mul_right denominator reached
    exact Nat.le_of_mul_le_mul_right (turned ▸ Nat.le_trans scaled later) positiveToo
  · rw [if_neg ‹_›]
    have later := Nat.mul_lt_mul_of_pos_right reached positive
    exact Nat.lt_of_mul_lt_mul_right (turned ▸ Nat.lt_of_le_of_lt scaled later)

/-- A whole number is rounded to itself. -/
theorem roundHalfEven_mul (value : Nat) (positive : 0 < denominator) :
    roundHalfEven (value * denominator) denominator = value := by
  unfold roundHalfEven
  rw [Nat.mul_div_cancel _ positive, Nat.mul_mod_left]
  simp only [Nat.mul_zero, if_pos positive]

/-- What is at most a whole number is rounded to at most this number. -/
theorem roundHalfEven_le {value : Nat} (positive : 0 < denominator)
    (order : numerator ≤ value * denominator) : roundHalfEven numerator denominator ≤ value := by
  have kept := roundHalfEven_mono positive positive (Nat.mul_le_mul_right denominator order)
  rwa [roundHalfEven_mul value positive] at kept

/-- What is at least a whole number is rounded to at least this number. -/
theorem le_roundHalfEven {value : Nat} (positive : 0 < denominator)
    (order : value * denominator ≤ numerator) : value ≤ roundHalfEven numerator denominator := by
  have kept := roundHalfEven_mono positive positive (Nat.mul_le_mul_right denominator order)
  rwa [roundHalfEven_mul value positive] at kept

end WholeNumbers

namespace Binary64

variable {value other : Binary64} {scaled denominator divisor : Nat}

/-- A magnitude is in its normal form when it has at most 53 significant bits, and exactly that many
when its last bit is not the least one that there is. -/
structure IsNormal (value : Binary64) : Prop where
  /-- There are at most 53 significant bits. -/
  narrow : value.significand < twoTo 53
  /-- There are 53 of them unless the last bit is the least one. -/
  full : value.shift ≠ 0 → twoTo 52 ≤ value.significand

/-- The finite magnitudes of binary64, in their normal form. -/
structure IsFinite (value : Binary64) : Prop extends IsNormal value where
  /-- The exponent is not too large. -/
  inRange : value.shift ≤ maxShift

/-- Zero is a finite magnitude. -/
theorem isFinite_zero : zero.IsFinite where
  narrow := by decide
  full := fun shifted => absurd rfl shifted
  inRange := by decide

/-- The units of a magnitude in normal form are bounded by its shift. -/
theorem IsNormal.units_lt (normal : value.IsNormal) : value.units < twoTo (53 + value.shift) := by
  rw [twoTo_add]
  exact Nat.mul_lt_mul_of_pos_right normal.narrow (twoTo_pos _)

/-- The units of a magnitude in normal form reach the power of two of its shift. -/
theorem IsNormal.le_units (normal : value.IsNormal) (shifted : value.shift ≠ 0) :
    twoTo (52 + value.shift) ≤ value.units := by
  rw [twoTo_add]
  exact Nat.mul_le_mul_right _ (normal.full shifted)

/-- The units of a magnitude are a whole multiple of every smaller power of two. -/
theorem units_eq_mul {least : Nat} (small : least ≤ value.shift) :
    value.units = value.significand * twoTo (value.shift - least) * twoTo least := by
  rw [Nat.mul_assoc, ← twoTo_add, Nat.sub_add_cancel small]
  rfl

/-- Of two magnitudes in normal form the one with fewer units has no larger shift. -/
theorem IsNormal.shift_le (normal : value.IsNormal) (normalToo : other.IsNormal)
    (order : value.units ≤ other.units) : value.shift ≤ other.shift := by
  by_cases shifted : value.shift = 0
  · omega
  · have powers : twoTo (52 + value.shift) < twoTo (53 + other.shift) :=
      calc twoTo (52 + value.shift)
          ≤ value.units := normal.le_units shifted
        _ ≤ other.units := order
        _ < twoTo (53 + other.shift) := normalToo.units_lt
    have exponents := lt_of_twoTo_lt_twoTo powers
    omega

/-- Magnitudes in normal form are told apart by their units. -/
theorem IsNormal.eq_of_units (normal : value.IsNormal) (normalToo : other.IsNormal)
    (same : value.units = other.units) : value = other := by
  have shifts : value.shift = other.shift :=
    Nat.le_antisymm (normal.shift_le normalToo (Nat.le_of_eq same))
      (normalToo.shift_le normal (Nat.le_of_eq same.symm))
  obtain ⟨significand, shift⟩ := value
  obtain ⟨significandToo, shiftToo⟩ := other
  obtain rfl : shift = shiftToo := shifts
  have significands : significand = significandToo :=
    Nat.eq_of_mul_eq_mul_right (twoTo_pos shift) same
  rw [significands]

/-- How far the significant bits of a ratio lie above the least bit. -/
def shiftOf (scaled denominator : Nat) : Nat := (scaled / denominator).log2 + 1 - 53

/-- The nearest magnitude to a ratio of units, in whatever range. -/
def rounded (scaled denominator : Nat) : Binary64 :=
  let shift := shiftOf scaled denominator
  let significand := roundHalfEven scaled (denominator * twoTo shift)
  if significand = twoTo 53 then ⟨twoTo 52, shift + 1⟩ else ⟨significand, shift⟩

/-- The nearest magnitude to a ratio is the rounded one, if that is in range. -/
theorem nearest?_eq (numerator denominator : Nat) :
    nearest? numerator denominator =
      if (rounded (numerator * unitsPerOne) denominator).shift ≤ maxShift then
        some (rounded (numerator * unitsPerOne) denominator)
      else none := rfl

/-- A ratio is below the power of two after its significant bits. -/
theorem lt_twoTo_shiftOf (scaled : Nat) (positive : 0 < denominator) :
    scaled < twoTo 53 * (denominator * twoTo (shiftOf scaled denominator)) := by
  have bits : scaled / denominator < twoTo (53 + shiftOf scaled denominator) := by
    refine Nat.lt_of_lt_of_le Nat.lt_log2_self (twoTo_le_twoTo ?_)
    unfold shiftOf
    omega
  rw [Nat.div_lt_iff_lt_mul positive, twoTo_add, Nat.mul_assoc] at bits
  rwa [Nat.mul_comm denominator]

/-- A ratio reaches the power of two of its first significant bit. -/
theorem twoTo_shiftOf_le (positive : 0 < denominator)
    (shifted : shiftOf scaled denominator ≠ 0) :
    twoTo 52 * (denominator * twoTo (shiftOf scaled denominator)) ≤ scaled := by
  have bits : twoTo (52 + shiftOf scaled denominator) ≤ scaled / denominator := by
    have filled : scaled / denominator ≠ 0 := by
      intro nothing
      rw [shiftOf, nothing, Nat.log2_zero] at shifted
      exact shifted rfl
    have exponent : 52 + shiftOf scaled denominator = (scaled / denominator).log2 := by
      unfold shiftOf at shifted ⊢
      omega
    rw [exponent]
    exact Nat.log2_self_le filled
  rw [Nat.le_div_iff_mul_le positive, twoTo_add, Nat.mul_assoc] at bits
  rwa [Nat.mul_comm denominator]

/-- A ratio is rounded to a magnitude in normal form. -/
theorem isNormal_rounded (scaled : Nat) (positive : 0 < denominator) :
    (rounded scaled denominator).IsNormal := by
  have unit : 0 < denominator * twoTo (shiftOf scaled denominator) :=
    Nat.mul_pos positive (twoTo_pos _)
  have most : roundHalfEven scaled (denominator * twoTo (shiftOf scaled denominator)) ≤ twoTo 53 :=
    roundHalfEven_le unit (Nat.le_of_lt (lt_twoTo_shiftOf scaled positive))
  unfold rounded
  simp only
  split
  · have narrow : twoTo 52 < twoTo 53 := by decide
    exact ⟨narrow, fun _ => Nat.le_refl _⟩
  · next narrow =>
    exact ⟨Nat.lt_of_le_of_ne most narrow, fun shifted =>
      le_roundHalfEven unit (twoTo_shiftOf_le positive shifted)⟩

/-- The units of a rounded ratio. -/
theorem units_rounded (scaled denominator : Nat) :
    (rounded scaled denominator).units =
      roundHalfEven scaled (denominator * twoTo (shiftOf scaled denominator)) *
        twoTo (shiftOf scaled denominator) := by
  unfold rounded units
  simp only
  split
  · next wide =>
    rw [wide, Nat.add_comm, twoTo_add, ← Nat.mul_assoc]
    rfl
  · rfl

/-- The shift of a ratio grows with the ratio. -/
theorem shiftOf_mono (positive : 0 < denominator) (positiveToo : 0 < divisor) {more : Nat}
    (order : scaled * divisor ≤ more * denominator) :
    shiftOf scaled denominator ≤ shiftOf more divisor := by
  by_cases shifted : shiftOf scaled denominator = 0
  · omega
  · have first := Nat.mul_le_mul_right divisor (twoTo_shiftOf_le positive shifted)
    have last := Nat.mul_lt_mul_of_pos_right (lt_twoTo_shiftOf more positiveToo) positive
    have powers : twoTo 52 * twoTo (shiftOf scaled denominator) * (denominator * divisor) <
        twoTo 53 * twoTo (shiftOf more divisor) * (denominator * divisor) := by
      calc twoTo 52 * twoTo (shiftOf scaled denominator) * (denominator * divisor)
          = twoTo 52 * (denominator * twoTo (shiftOf scaled denominator)) * divisor := by ac_rfl
        _ ≤ scaled * divisor := first
        _ ≤ more * denominator := order
        _ < twoTo 53 * (divisor * twoTo (shiftOf more divisor)) * denominator := last
        _ = twoTo 53 * twoTo (shiftOf more divisor) * (denominator * divisor) := by ac_rfl
    rw [← twoTo_add, ← twoTo_add] at powers
    have exponents := lt_of_twoTo_lt_twoTo (Nat.lt_of_mul_lt_mul_right powers)
    omega

/-- The units of the rounded ratio grow with the ratio. -/
theorem units_rounded_mono (positive : 0 < denominator) (positiveToo : 0 < divisor) {more : Nat}
    (order : scaled * divisor ≤ more * denominator) :
    (rounded scaled denominator).units ≤ (rounded more divisor).units := by
  have unit : 0 < denominator * twoTo (shiftOf scaled denominator) :=
    Nat.mul_pos positive (twoTo_pos _)
  have unitToo : 0 < divisor * twoTo (shiftOf more divisor) :=
    Nat.mul_pos positiveToo (twoTo_pos _)
  rw [units_rounded, units_rounded]
  rcases Nat.lt_or_eq_of_le (shiftOf_mono positive positiveToo order) with less | same
  · -- Between magnitudes with different shifts there is a power of two.
    have low := roundHalfEven_le unit (Nat.le_of_lt (lt_twoTo_shiftOf scaled positive))
    have high := le_roundHalfEven unitToo (twoTo_shiftOf_le positiveToo (by omega))
    calc roundHalfEven scaled _ * twoTo (shiftOf scaled denominator)
        ≤ twoTo 53 * twoTo (shiftOf scaled denominator) := Nat.mul_le_mul_right _ low
      _ = twoTo (53 + shiftOf scaled denominator) := (twoTo_add _ _).symm
      _ ≤ twoTo (52 + shiftOf more divisor) := twoTo_le_twoTo (by omega)
      _ = twoTo 52 * twoTo (shiftOf more divisor) := twoTo_add _ _
      _ ≤ roundHalfEven more _ * twoTo (shiftOf more divisor) := Nat.mul_le_mul_right _ high
  · rw [same] at unit ⊢
    refine Nat.mul_le_mul_right _ (roundHalfEven_mono unit unitToo ?_)
    calc scaled * (divisor * twoTo (shiftOf more divisor))
        = scaled * divisor * twoTo (shiftOf more divisor) := (Nat.mul_assoc _ _ _).symm
      _ ≤ more * denominator * twoTo (shiftOf more divisor) := Nat.mul_le_mul_right _ order
      _ = more * (denominator * twoTo (shiftOf more divisor)) := Nat.mul_assoc _ _ _

/-- A ratio that is a magnitude is rounded to it. -/
theorem rounded_units (normal : value.IsNormal) (positive : 0 < denominator) :
    rounded (value.units * denominator) denominator = value := by
  have ratio : value.units * denominator / denominator = value.units :=
    Nat.mul_div_cancel _ positive
  refine (isNormal_rounded _ positive).eq_of_units normal ?_
  rw [units_rounded]
  generalize shift : shiftOf (value.units * denominator) denominator = least
  -- The magnitude is a whole multiple of the unit that it is rounded to.
  have small : least ≤ value.shift := by
    by_cases shifted : least = 0
    · omega
    · have reached := twoTo_shiftOf_le positive (shift ▸ shifted)
      rw [shift, Nat.mul_comm denominator, ← Nat.mul_assoc, ← twoTo_add] at reached
      have exponents := lt_of_twoTo_lt_twoTo
        (Nat.lt_of_le_of_lt (Nat.le_of_mul_le_mul_right reached positive) normal.units_lt)
      omega
  have whole := units_eq_mul small
  have multiple : value.units * denominator =
      value.significand * twoTo (value.shift - least) * (denominator * twoTo least) := by
    rw [whole]
    ac_rfl
  rw [multiple, roundHalfEven_mul _ (Nat.mul_pos positive (twoTo_pos _)), ← whole]

section Nearest

variable {numerator before after middle between : Nat}

/-- The nearest magnitude to a ratio is the rounded one. -/
theorem nearest?_eq_some_iff :
    nearest? numerator denominator = some value ↔
      rounded (numerator * unitsPerOne) denominator = value ∧ value.shift ≤ maxShift := by
  rw [nearest?_eq]
  split
  · next low =>
    rw [Option.some.injEq]
    constructor
    · rintro rfl
      exact ⟨rfl, low⟩
    · exact And.left
  · next high =>
    constructor
    · nofun
    · rintro ⟨rfl, low⟩
      exact absurd low high

/-- The nearest magnitude to a ratio is finite. -/
theorem isFinite_of_nearest? (positive : 0 < denominator)
    (found : nearest? numerator denominator = some value) : value.IsFinite := by
  obtain ⟨rfl, low⟩ := nearest?_eq_some_iff.mp found
  exact ⟨isNormal_rounded _ positive, low⟩

/-- A finite magnitude is the nearest one to itself. -/
theorem nearest?_units (finite : value.IsFinite) (positive : 0 < denominator)
    (ratio : numerator * unitsPerOne = value.units * denominator) :
    nearest? numerator denominator = some value := by
  rw [nearest?_eq_some_iff, ratio]
  exact ⟨rounded_units finite.toIsNormal positive, finite.inRange⟩

/-- A ratio between two others that have the same nearest magnitude has it too. -/
theorem nearest?_between (positive : 0 < denominator) (positiveToo : 0 < divisor)
    (inner : 0 < between) (first : nearest? before denominator = some value)
    (last : nearest? after divisor = some value)
    (low : before * between ≤ middle * denominator) (high : middle * divisor ≤ after * between) :
    nearest? middle between = some value := by
  obtain ⟨lower, low64⟩ := nearest?_eq_some_iff.mp first
  obtain ⟨upper, _⟩ := nearest?_eq_some_iff.mp last
  have scale {left right one two : Nat} (order : left * one ≤ right * two) :
      left * unitsPerOne * one ≤ right * unitsPerOne * two := by
    rw [Nat.mul_right_comm left, Nat.mul_right_comm right]
    exact Nat.mul_le_mul_right _ order
  have above := units_rounded_mono positive inner (scale low)
  have below := units_rounded_mono inner positiveToo (scale high)
  rw [lower] at above
  rw [upper] at below
  have normal : value.IsNormal := (isFinite_of_nearest? positive first).toIsNormal
  refine nearest?_eq_some_iff.mpr ⟨?_, low64⟩
  exact (isNormal_rounded _ inner).eq_of_units normal (Nat.le_antisymm below above)

/-- The nearest magnitude depends on the ratio alone. -/
theorem nearest?_of_ratio (positive : 0 < denominator) (inner : 0 < between)
    (found : nearest? before denominator = some value)
    (ratio : before * between = middle * denominator) : nearest? middle between = some value :=
  nearest?_between positive positive inner found found (Nat.le_of_eq ratio)
    (Nat.le_of_eq ratio.symm)

end Nearest

end Binary64

end EnvTemplate
