import EnvTemplate.Decimal.Binary64

/-!
# Number literals

The plain literals of numbers that several notations share: an optional sign and digits, and for a
binary64 number also a point and an exponent.
-/
namespace EnvTemplate.Decimal

/-- A sign in front of a text, and the text after it. -/
def sign : List Char → Bool × List Char
  | '-' :: rest => (true, rest)
  | '+' :: rest => (false, rest)
  | text => (false, text)

/-- The value of one or more ASCII digits. -/
def natural? (text : List Char) : Option Nat :=
  if text ≠ [] ∧ text.all Char.isDigit then some (ofDigits text) else none

/-- The exponent after a decimal fraction: nothing, or a mark, an optional sign and digits. -/
def exponent? : List Char → Option Int
  | [] => some 0
  | mark :: rest =>
    if mark = 'e' ∨ mark = 'E' then
      let (negative, digits) := sign rest
      (natural? digits).map fun value => if negative then -(value : Int) else value
    else none

/-- The nearest binary64 number to a literal of digits, an optional point and an optional exponent;
at least one digit stands before or after the point. A number out of range is infinite. -/
def real? (text : List Char) : Option Real64 :=
  let (negative, unsigned) := sign text
  let whole := unsigned.takeWhile Char.isDigit
  let (fraction, after) :=
    match unsigned.dropWhile Char.isDigit with
    | '.' :: rest => (rest.takeWhile Char.isDigit, rest.dropWhile Char.isDigit)
    | rest => ([], rest)
  if whole ++ fraction = [] then none
  else
    (exponent? after).map fun exponent =>
      match Binary64.ofScientific? (ofDigits (whole ++ fraction))
          (exponent - fraction.length) with
      | some magnitude => .finite negative magnitude
      | none => .infinite negative

end EnvTemplate.Decimal
