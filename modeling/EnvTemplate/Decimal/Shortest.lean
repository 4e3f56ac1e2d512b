import EnvTemplate.Decimal.Binary64

/-!
# The shortest decimal that reads back

A magnitude is written with the fewest digits that read back to it. The candidates lie on decimal
grids, from steps of a large power of ten down to steps of `10 ^ -1074`, on which every magnitude
lies itself. The first grid on which one of the two neighbours of the magnitude reads back to it
gives the digits; of two such neighbours the nearer is taken, and the upper one of two equally
near.
-/
namespace EnvTemplate.Binary64

/-- The magnitude as an exact decimal fraction. -/
def exact (value : Binary64) : Decimal := ⟨value.units * Nat.pow 5 1074, 1074⟩

/-- The steps of the decimal grids, coarsest first, from `10 ^ most` on. -/
def gridSteps (most : Nat) : List Decimal :=
  (List.range (most + 1)).reverse.map (fun exponent => ⟨tenTo exponent, 0⟩) ++
    (List.range 1073).map fun places => ⟨1, places + 1⟩

/-- The neighbour on the grid that reads back to the magnitude, if there is one; the nearer of two,
and the upper of two equally near. -/
def onGrid? (value : Binary64) (step : Decimal) : Option Decimal :=
  let scaled := value.units * tenTo step.places
  let stride := step.units * unitsPerOne
  let lower : Decimal := ⟨scaled / stride * step.units, step.places⟩
  let upper : Decimal := ⟨(scaled / stride + 1) * step.units, step.places⟩
  let lowerReads := ofDecimal? lower = some value
  let upperReads := ofDecimal? upper = some value
  if lowerReads ∧ (2 * (scaled % stride) < stride ∨ ¬upperReads) then some lower
  else if upperReads then some upper
  else none

/-- The shortest decimal fraction that reads back to the magnitude. -/
def shortest (value : Binary64) : Decimal :=
  let most := (Nat.toDigits 10 (value.units / unitsPerOne)).length
  ((gridSteps most).findSome? value.onGrid?).getD value.exact

/-- The positional notation of a magnitude with the fewest digits. -/
def digits (value : Binary64) : List Char :=
  if value = zero then ['0'] else value.shortest.digits

end EnvTemplate.Binary64

namespace EnvTemplate.Real64

/-- The text of a value: the sign, then the shortest digits, and a word for the values that are no
finite number. -/
def text : Real64 → String
  | finite negative magnitude =>
    (if negative then "-" else "") ++ String.ofList magnitude.digits
  | infinite negative => if negative then "-inf" else "inf"
  | undefined => "NaN"

end EnvTemplate.Real64
