import EnvTemplate.Decimal.Basic

/-!
# Binary64 numbers

The finite binary64 numbers of either sign, infinity and the result of no computation. A
magnitude is a whole multiple of the least positive binary64 number, `2 ^ -1074`, with at most
53 significant bits. Decimal fractions and ratios are rounded to the nearest magnitude, a half
to the even neighbour; what would need a larger exponent than binary64 has is refused.
-/
namespace EnvTemplate

/-- The magnitude `significand * 2 ^ shift * 2 ^ -1074`. -/
structure Binary64 where
  /-- The significant bits. -/
  significand : Nat
  /-- The binary exponent above the least one. -/
  shift : Nat
deriving DecidableEq, Repr

/-- A ratio rounded to the nearest whole number, a half to the even neighbour. -/
def roundHalfEven (numerator denominator : Nat) : Nat :=
  let floor := numerator / denominator
  let twice := 2 * (numerator % denominator)
  if twice < denominator then floor
  else if denominator < twice then floor + 1
  else if floor % 2 = 0 then floor
  else floor + 1

namespace Binary64

/-- The least positive magnitude is one over this. -/
def unitsPerOne : Nat := twoTo 1074

/-- The largest shift of a finite magnitude. -/
def maxShift : Nat := 2045

/-- The magnitude zero. -/
def zero : Binary64 := ⟨0, 0⟩

/-- How many times the least positive magnitude. -/
def units (value : Binary64) : Nat := value.significand * twoTo value.shift

/-- The nearest magnitude to a ratio, or none when it is too large. -/
def nearest? (numerator denominator : Nat) : Option Binary64 :=
  let scaled := numerator * unitsPerOne
  let shift := (scaled / denominator).log2 + 1 - 53
  let significand := roundHalfEven scaled (denominator * twoTo shift)
  let value : Binary64 :=
    if significand = twoTo 53 then ⟨twoTo 52, shift + 1⟩ else ⟨significand, shift⟩
  if value.shift ≤ maxShift then some value else none

/-- The nearest magnitude to a decimal fraction, or none when it is too large. -/
def ofDecimal? (value : Decimal) : Option Binary64 := nearest? value.units (tenTo value.places)

/-- The nearest magnitude to a whole number times a power of ten, or none when it is too large. An
exponent that no number of binary64 can need is decided without computing the power. -/
def ofScientific? (units : Nat) (exponent : Int) : Option Binary64 :=
  let digits : Int := (Nat.toDigits 10 units).length
  if units = 0 ∨ exponent + digits < -400 then some zero
  else if 400 < exponent + digits then none
  else if 0 ≤ exponent then nearest? (units * tenTo exponent.toNat) 1
  else nearest? units (tenTo (-exponent).toNat)

/-- The rounded product of two magnitudes. -/
def times? (left right : Binary64) : Option Binary64 :=
  nearest? (left.units * right.units) (unitsPerOne * unitsPerOne)

/-- The rounded quotient of two magnitudes. -/
def over? (left right : Binary64) : Option Binary64 := nearest? left.units right.units

end Binary64

/-- A binary64 value. -/
inductive Real64
  /-- A finite number: a sign, which zero has too, and a magnitude. -/
  | finite (negative : Bool) (magnitude : Binary64)
  /-- An infinity. -/
  | infinite (negative : Bool)
  /-- Not a number. -/
  | undefined
deriving DecidableEq, Repr

end EnvTemplate
