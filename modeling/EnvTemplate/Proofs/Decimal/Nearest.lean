import EnvTemplate.Proofs.Decimal.Rounding
import Mathlib.Data.Nat.Dist

/-!
# The nearest magnitude

A decimal fraction is in the range of binary64 when it lies below the middle between the greatest
finite magnitude and the power of two after it. In this range it reads as the finite magnitude that
lies nearest to it, and of two that lie equally near, as the one with an even significand. There is
one such magnitude only.
-/
namespace EnvTemplate

section WholeNumbers

variable {numerator denominator other : Nat}

/-- No whole number lies nearer to a ratio than the rounded one, and another one that lies as near
leaves the even one to be taken. -/
theorem dist_roundHalfEven_le (positive : 0 < denominator) (numerator other : Nat) :
    Nat.dist numerator (roundHalfEven numerator denominator * denominator) ≤
        Nat.dist numerator (other * denominator) ∧
      (Nat.dist numerator (roundHalfEven numerator denominator * denominator) =
          Nat.dist numerator (other * denominator) →
        other ≠ roundHalfEven numerator denominator →
          roundHalfEven numerator denominator % 2 = 0) := by
  have whole := Nat.div_add_mod' numerator denominator
  have rest := Nat.mod_lt numerator positive
  have cases := roundHalfEven_cases numerator denominator
  generalize roundHalfEven numerator denominator = nearest at *
  generalize numerator / denominator = floor at *
  generalize numerator % denominator = remainder at *
  have next : (floor + 1) * denominator = floor * denominator + denominator :=
    Nat.succ_mul _ _
  -- Another whole number is one of the two neighbours of the ratio or lies beyond them.
  have placed : other = floor ∨ other = floor + 1 ∨
      other * denominator + denominator ≤ floor * denominator ∨
      floor * denominator + denominator + denominator ≤ other * denominator := by
    rcases Nat.lt_trichotomy other floor with below | same | above
    · have step := Nat.mul_le_mul_right denominator below
      rw [Nat.succ_mul] at step
      exact .inr (.inr (.inl step))
    · exact .inl same
    · rcases Nat.eq_or_lt_of_le above with same | beyond
      · exact .inr (.inl same.symm)
      · have step := Nat.mul_le_mul_right denominator beyond
        rw [Nat.succ_mul, next] at step
        exact .inr (.inr (.inr step))
  unfold Nat.dist
  rcases cases with ⟨rfl, near⟩ | ⟨rfl, near⟩
  · rcases placed with rfl | rfl | below | above <;> omega
  · rw [next]
    rcases placed with rfl | rfl | below | above <;> omega

end WholeNumbers

namespace Binary64

variable {value other : Binary64} {scaled denominator least : Nat}

/-- A magnitude is a whole multiple of a power of two, or it has a smaller shift and lies below the
magnitudes with that shift. -/
theorem IsNormal.multiple_or_lt (normal : value.IsNormal) (least : Nat) :
    (∃ count, value.units = count * twoTo least) ∨
      (least ≠ 0 ∧ value.units < twoTo 52 * twoTo least) := by
  rcases Nat.lt_or_ge value.shift least with less | enough
  · refine .inr ⟨by omega, Nat.lt_of_lt_of_le normal.units_lt ?_⟩
    rw [← twoTo_add]
    exact twoTo_le_twoTo (by omega)
  · exact .inl ⟨_, units_eq_mul enough⟩

/-- No magnitude lies nearer to a ratio than the rounded one, and another one that lies as near
leaves the one with an even significand to be taken. -/
theorem dist_rounded_le (positive : 0 < denominator) (scaled : Nat) (normal : other.IsNormal) :
    Nat.dist scaled ((rounded scaled denominator).units * denominator) ≤
        Nat.dist scaled (other.units * denominator) ∧
      (Nat.dist scaled ((rounded scaled denominator).units * denominator) =
          Nat.dist scaled (other.units * denominator) →
        other ≠ rounded scaled denominator →
          (rounded scaled denominator).significand % 2 = 0) := by
  generalize shift : shiftOf scaled denominator = least
  generalize unit : denominator * twoTo least = step
  have stepPositive : 0 < step := unit ▸ Nat.mul_pos positive (twoTo_pos least)
  -- All units are counted in steps of the shift of the ratio.
  have counted : (rounded scaled denominator).units * denominator =
      roundHalfEven scaled step * step := by
    rw [units_rounded, shift, unit, Nat.mul_assoc, Nat.mul_comm (twoTo least), unit]
  have even : roundHalfEven scaled step % 2 = 0 →
      (rounded scaled denominator).significand % 2 = 0 := by
    intro half
    unfold rounded
    simp only [shift, unit]
    split
    · show twoTo 52 % 2 = 0
      decide
    · exact half
  rw [counted]
  rcases normal.multiple_or_lt least with ⟨count, multiple⟩ | ⟨shifted, small⟩
  · have steps : other.units * denominator = count * step := by
      rw [multiple, Nat.mul_assoc, Nat.mul_comm (twoTo least), unit]
    obtain ⟨closest, tie⟩ := dist_roundHalfEven_le stepPositive scaled count
    rw [steps]
    refine ⟨closest, fun same apart => even (tie same ?_)⟩
    rintro rfl
    refine apart (normal.eq_of_units (isNormal_rounded scaled positive) ?_)
    exact Nat.eq_of_mul_eq_mul_right positive (steps.trans counted.symm)
  · -- A magnitude with a smaller shift lies below the power of two that the ratio reaches.
    have reached : twoTo 52 * step ≤ scaled := by
      rw [← unit, ← shift]
      exact twoTo_shiftOf_le positive (shift ▸ shifted)
    have below : other.units * denominator < twoTo 52 * step := by
      rw [← unit, Nat.mul_comm denominator, ← Nat.mul_assoc]
      exact Nat.mul_lt_mul_of_pos_right small positive
    obtain ⟨closest, _⟩ := dist_roundHalfEven_le stepPositive scaled (twoTo 52)
    unfold Nat.dist at closest ⊢
    constructor
    · omega
    · intro same
      omega

/-- The next magnitude after one with an even significand. -/
def successor (value : Binary64) : Binary64 := ⟨value.significand + 1, value.shift⟩

/-- The next magnitude after one with an even significand is finite too. -/
theorem IsFinite.successor (finite : value.IsFinite) (even : value.significand % 2 = 0) :
    (successor value).IsFinite where
  narrow := by
    have narrow := finite.narrow
    have whole : twoTo 53 % 2 = 0 := by decide
    show value.significand + 1 < twoTo 53
    omega
  full shifted := Nat.le_succ_of_le (finite.full shifted)
  inRange := finite.inRange

/-- The next magnitude is the least one above. -/
theorem IsNormal.units_successor_le (normal : value.IsNormal) (normalToo : other.IsNormal)
    (less : value.units < other.units) : (successor value).units ≤ other.units := by
  have shifts := normal.shift_le normalToo (Nat.le_of_lt less)
  rw [units_eq_mul shifts] at less ⊢
  exact Nat.mul_le_mul_right _ (Nat.lt_of_mul_lt_mul_right less)

/-- Of two magnitudes that lie equally near to a ratio, and nearer to it than any other, at most one
has an even significand. -/
theorem eq_of_nearest (positive : 0 < denominator) (finite : value.IsFinite)
    (finiteToo : other.IsFinite) (even : value.significand % 2 = 0)
    (evenToo : other.significand % 2 = 0)
    (closest : ∀ third : Binary64, third.IsFinite →
      Nat.dist scaled (value.units * denominator) ≤ Nat.dist scaled (third.units * denominator))
    (same : Nat.dist scaled (value.units * denominator) =
      Nat.dist scaled (other.units * denominator)) (order : value.units ≤ other.units) :
    value = other := by
  rcases Nat.eq_or_lt_of_le order with units | less
  · exact finite.toIsNormal.eq_of_units finiteToo.toIsNormal units
  · exfalso
    have after := finite.successor even
    have within := finite.toIsNormal.units_successor_le finiteToo.toIsNormal less
    rcases Nat.eq_or_lt_of_le within with units | inside
    · -- The next magnitude has an odd significand, so it is not the other one.
      have equal := after.toIsNormal.eq_of_units finiteToo.toIsNormal units
      rw [← equal] at evenToo
      change (value.significand + 1) % 2 = 0 at evenToo
      omega
    · -- The next magnitude lies between the two, and so nearer to the ratio.
      have first : value.units * denominator < (successor value).units * denominator :=
        Nat.mul_lt_mul_of_pos_right
          (Nat.mul_lt_mul_of_pos_right (Nat.lt_succ_self _) (twoTo_pos _)) positive
      have second := Nat.mul_lt_mul_of_pos_right inside positive
      have nearer := closest _ after
      unfold Nat.dist at same nearer
      omega

/-- The shift of the rounded ratio is that of the ratio, unless its significant bits are rounded to
one bit more. -/
theorem shift_rounded (scaled denominator : Nat) :
    (rounded scaled denominator).shift =
      if roundHalfEven scaled (denominator * twoTo (shiftOf scaled denominator)) = twoTo 53 then
        shiftOf scaled denominator + 1
      else shiftOf scaled denominator := by
  unfold rounded
  simp only
  split <;> rfl

/-- The rounded ratio keeps to a greatest shift when the ratio lies below the middle between the
greatest magnitude with that shift and the power of two after it. -/
theorem shift_rounded_le_iff (scaled most : Nat) (positive : 0 < denominator) :
    (rounded scaled denominator).shift ≤ most + 1 ↔
      scaled < (twoTo 54 - 1) * (denominator * twoTo most) := by
  have unit : 0 < denominator * twoTo most := Nat.mul_pos positive (twoTo_pos most)
  have doubled (shift : Nat) :
      denominator * twoTo (shift + 1) = 2 * (denominator * twoTo shift) := by
    rw [Nat.add_comm, twoTo_add, show twoTo 1 = 2 from rfl]
    ac_rfl
  have least : twoTo 52 = 4503599627370496 := by decide
  have greatest : twoTo 53 = 9007199254740992 := by decide
  have half : twoTo 54 - 1 = 18014398509481983 := by decide
  have low := lt_twoTo_shiftOf scaled positive
  rw [shift_rounded, half]
  rcases Nat.lt_trichotomy (shiftOf scaled denominator) (most + 1) with less | same | more
  · -- Below the greatest shift there is room for one bit more.
    have power := Nat.mul_le_mul_left denominator (twoTo_le_twoTo (Nat.le_of_lt_succ less))
    rw [greatest] at low
    constructor
    · intro _
      omega
    · intro _
      split <;> omega
  · have above := Nat.mul_pos positive (twoTo_pos (most + 1))
    have bound : roundHalfEven scaled (denominator * twoTo (most + 1)) ≤ twoTo 53 :=
      roundHalfEven_le above (Nat.le_of_lt (same ▸ low))
    have middle := @roundHalfEven_le_iff scaled _ (twoTo 53 - 1) above
    rw [same]
    rw [greatest] at bound middle ⊢
    rw [doubled] at bound middle ⊢
    generalize roundHalfEven scaled (2 * (denominator * twoTo most)) = nearest at *
    have odd : ¬(9007199254740992 - 1) % 2 = 0 := by decide
    rw [if_neg odd] at middle
    split <;> omega
  · have power := Nat.mul_le_mul_left denominator (twoTo_le_twoTo more)
    have reached : twoTo 52 * (denominator * twoTo (shiftOf scaled denominator)) ≤ scaled :=
      twoTo_shiftOf_le positive (Nat.ne_zero_of_lt more)
    rw [show Nat.succ (most + 1) = most + 1 + 1 from rfl, doubled, doubled] at power
    rw [least] at reached
    constructor
    · split <;> omega
    · intro _
      omega

end Binary64

namespace Decimal

open Binary64 (ofDecimal? unitsPerOne rounded)

variable {value : Decimal} {magnitude : Binary64}

/-- The decimal fractions in the range of binary64: those below the middle between the greatest
finite magnitude and the power of two after it. -/
def IsInRange (value : Decimal) : Prop :=
  value.units < (twoTo 1024 - twoTo 970) * tenTo value.places

instance (value : Decimal) : Decidable value.IsInRange := inferInstanceAs (Decidable (_ < _))

/-- How far a magnitude lies from a decimal fraction, counted in parts of the last place of the
fraction and of the least magnitude. -/
def distance (value : Decimal) (magnitude : Binary64) : Nat :=
  Nat.dist (value.units * unitsPerOne) (magnitude.units * tenTo value.places)

/-- A decimal fraction in range and the finite magnitude that it reads as: the nearest one, and of
two that are equally near the one with an even significand. -/
structure Nearest (value : Decimal) (magnitude : Binary64) : Prop where
  /-- The fraction is in range. -/
  inRange : value.IsInRange
  /-- The magnitude is finite. -/
  finite : magnitude.IsFinite
  /-- No finite magnitude is nearer. -/
  closest : ∀ other : Binary64, other.IsFinite → value.distance magnitude ≤ value.distance other
  /-- The significand is even when another finite magnitude is as near. -/
  even : ∀ other : Binary64, other.IsFinite → other ≠ magnitude →
    value.distance magnitude = value.distance other → magnitude.significand % 2 = 0

/-- A decimal fraction has one nearest magnitude. -/
theorem Nearest.unique {other : Binary64} (nearest : value.Nearest magnitude)
    (nearestToo : value.Nearest other) : magnitude = other := by
  by_contra apart
  have same : value.distance magnitude = value.distance other :=
    Nat.le_antisymm (nearest.closest _ nearestToo.finite) (nearestToo.closest _ nearest.finite)
  have even := nearest.even _ nearestToo.finite (Ne.symm apart) same
  have evenToo := nearestToo.even _ nearest.finite apart same.symm
  have places := tenTo_pos value.places
  rcases Nat.le_total magnitude.units other.units with order | order
  · exact apart (Binary64.eq_of_nearest places nearest.finite nearestToo.finite even evenToo
      nearest.closest same order)
  · exact apart (Binary64.eq_of_nearest places nearestToo.finite nearest.finite evenToo even
      nearestToo.closest same.symm order).symm

/-- A bound on a number of whole units is the same bound on that number on a finer grid. -/
private theorem lt_mul_iff_on_grid (units places shift scale : Nat) :
    units < (twoTo (54 + shift) - twoTo shift) * places ↔
      units * twoTo scale < (twoTo 54 - 1) * (places * twoTo (shift + scale)) := by
  have bound : (twoTo 54 - 1) * (places * twoTo (shift + scale)) =
      (twoTo (54 + shift) - twoTo shift) * places * twoTo scale := by
    calc (twoTo 54 - 1) * (places * twoTo (shift + scale))
      _ = (twoTo 54 - 1) * (twoTo shift * places * twoTo scale) := by
        rw [twoTo_add shift, ← Nat.mul_assoc places, Nat.mul_comm places]
      _ = (twoTo 54 - 1) * twoTo shift * places * twoTo scale := by
        simp only [Nat.mul_assoc]
      _ = (twoTo (54 + shift) - twoTo shift) * places * twoTo scale := by
        rw [Nat.sub_one_mul, twoTo_add 54]
  rw [bound, Nat.mul_lt_mul_right (twoTo_pos scale)]

/-- A decimal fraction is in range when it is rounded to a magnitude with a finite shift. -/
theorem isInRange_iff :
    value.IsInRange ↔
      (rounded (value.units * unitsPerOne) (tenTo value.places)).shift ≤ Binary64.maxShift := by
  have middle := lt_mul_iff_on_grid value.units (tenTo value.places) 970 1074
  simp only [Nat.reduceAdd] at middle
  have rounding := Binary64.shift_rounded_le_iff (value.units * unitsPerOne) 2044
    (tenTo_pos value.places)
  rw [IsInRange, middle, Binary64.maxShift, rounding, unitsPerOne]

/-- What a decimal fraction reads as is its nearest magnitude. -/
theorem Nearest.of_reads (reads : ofDecimal? value = some magnitude) : value.Nearest magnitude := by
  have places := tenTo_pos value.places
  obtain ⟨same, low⟩ := Binary64.nearest?_eq_some_iff.mp reads
  have nearer (other : Binary64) (finite : other.IsFinite) :=
    Binary64.dist_rounded_le places (value.units * unitsPerOne) finite.toIsNormal
  rw [same] at nearer
  refine ⟨isInRange_iff.mpr (same ▸ low), Binary64.isFinite_of_nearest? places reads, ?_, ?_⟩
  · exact fun other finite => (nearer other finite).1
  · exact fun other finite apart tie => (nearer other finite).2 tie apart

/-- A decimal fraction in range reads as some magnitude. -/
theorem IsInRange.exists_reads (inRange : value.IsInRange) :
    ∃ magnitude, ofDecimal? value = some magnitude :=
  ⟨_, Binary64.nearest?_eq_some_iff.mpr ⟨rfl, isInRange_iff.mp inRange⟩⟩

/-- A decimal fraction reads as its nearest magnitude. -/
theorem ofDecimal?_eq_some_iff : ofDecimal? value = some magnitude ↔ value.Nearest magnitude := by
  constructor
  · exact Nearest.of_reads
  · intro nearest
    obtain ⟨other, reads⟩ := nearest.inRange.exists_reads
    rw [reads, nearest.unique (.of_reads reads)]

end Decimal

end EnvTemplate
