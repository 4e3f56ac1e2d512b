/-!
# Decimal fractions

A decimal fraction is a natural number over a power of ten. It is written in positional notation,
without an exponent: the whole part without leading zeros, then, when it has fraction places, a
point and exactly that many digits. The powers of ten and of two that all exact arithmetic here
rests on stand first.
-/
namespace EnvTemplate

/-- A power of ten. -/
def tenTo (exponent : Nat) : Nat := Nat.pow 10 exponent

/-- A power of two. -/
def twoTo (exponent : Nat) : Nat := Nat.pow 2 exponent

/-- The number `units / 10 ^ places`. -/
structure Decimal where
  /-- How many units of the last place. -/
  units : Nat
  /-- How many digits follow the point. -/
  places : Nat
deriving DecidableEq, Repr

namespace Decimal

/-- The number a list of ASCII digits spells. -/
def ofDigits (digits : List Char) : Nat := Nat.ofDigitChars 10 digits 0

/-- The decimal fraction with the given digits before and after the point. -/
def ofParts (whole fraction : List Char) : Decimal :=
  ⟨ofDigits (whole ++ fraction), fraction.length⟩

/-- The digits after the point, zeros on the left included. -/
def fractionDigits (value : Decimal) : List Char :=
  let digits := Nat.toDigits 10 (value.units % tenTo value.places)
  List.replicate (value.places - digits.length) '0' ++ digits

/-- The positional notation of a decimal fraction. -/
def digits (value : Decimal) : List Char :=
  let whole := Nat.toDigits 10 (value.units / tenTo value.places)
  if value.places = 0 then whole else whole ++ '.' :: value.fractionDigits

end Decimal

end EnvTemplate
