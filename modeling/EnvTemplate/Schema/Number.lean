import EnvTemplate.Decimal.Shortest
import EnvTemplate.Text.Character

/-!
# Number samples

A number sample is an optional minus sign, digits, and optionally a point and more digits; the
digits may be of any script. When they are all ASCII and the number is in the range of binary64,
the default written for it is the shortest decimal of the nearest binary64 number, and zero has no
sign. Any other sample is written as it stands.
-/
namespace EnvTemplate.Schema

/-- The parts of a number sample. -/
structure NumberSample where
  /-- Whether a minus sign stands in front. -/
  negative : Bool
  /-- The digits before the point. -/
  whole : List Char
  /-- The digits after the point; none when there is no point. -/
  fraction : List Char
deriving DecidableEq, Repr

namespace NumberSample

/-- The parts of an unsigned number. -/
def ofUnsigned? (negative : Bool) (text : List Char) : Option NumberSample :=
  let whole := text.takeWhile Text.isDecimalDigit
  match text.dropWhile Text.isDecimalDigit with
  | [] => if whole = [] then none else some ⟨negative, whole, []⟩
  | '.' :: fraction =>
    if whole ≠ [] ∧ fraction ≠ [] ∧ fraction.all Text.isDecimalDigit then
      some ⟨negative, whole, fraction⟩
    else none
  | _ => none

/-- The parts of a number sample. -/
def ofText? : List Char → Option NumberSample
  | '-' :: text => ofUnsigned? true text
  | text => ofUnsigned? false text

/-- The number without its sign, when all its digits are ASCII and it is in range. -/
def magnitude? (sample : NumberSample) : Option Binary64 :=
  if sample.whole.all Char.isDigit ∧ sample.fraction.all Char.isDigit then
    Binary64.ofDecimal? (.ofParts sample.whole sample.fraction)
  else none

/-- The literal of a binary64 number; zero has no sign. -/
def literalOf (negative : Bool) (magnitude : Binary64) : List Char :=
  if negative ∧ magnitude ≠ .zero then '-' :: magnitude.digits else magnitude.digits

/-- The literal of a number sample with the given text. -/
def literal (text : List Char) (sample : NumberSample) : List Char :=
  match sample.magnitude? with
  | some magnitude => literalOf sample.negative magnitude
  | none => text

end NumberSample

end EnvTemplate.Schema
