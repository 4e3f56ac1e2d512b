import EnvTemplate.Settings.Value
import EnvTemplate.Text.Reader

/-!
# Settings in JSON

Reading a JSON document whose top is an object. Of equal names in an object the last counts. Whole
numbers stay whole as long as they fit into 64 bits. The value of any other number is computed in
two rounded steps: the digits in front, as many as fit into 64 bits, and the power of ten they are
multiplied with or divided by. A number too large for binary64 is refused, and so are values
nested more than 127 deep.
-/
namespace EnvTemplate.Settings.Json

open Text (Reader)
open Text.Reader

/-- How deep values may be nested. -/
def maxDepth : Nat := 127

/-- The largest number of 64 bits without a sign. -/
def maxUnsigned : Nat := twoTo 64 - 1

/-- The smallest number of 64 bits with a sign is the negative of this. -/
def maxNegated : Nat := twoTo 63

/-- The blanks between tokens. -/
def isSpace (c : Char) : Bool := c == ' ' || c == '\n' || c == '\t' || c == '\r'

/-- Drop blanks. -/
def skipSpace : Reader Unit := skipWhile isSpace

/-- The value of a hexadecimal digit. -/
def hexDigit? (c : Char) : Option Nat :=
  if c.isDigit then some (c.toNat - '0'.toNat)
  else if 'a' ≤ c ∧ c ≤ 'f' then some (c.toNat - 'a'.toNat + 10)
  else if 'A' ≤ c ∧ c ≤ 'F' then some (c.toNat - 'A'.toNat + 10)
  else none

/-- The number of the given count of hexadecimal digits. -/
def hexNumber : Nat → Nat → Reader Nat
  | 0, value => return value
  | count + 1, value => do
    match hexDigit? (← next) with
    | some digit => hexNumber count (16 * value + digit)
    | none => failure

/-- The character of an escape by number: one code unit, or a surrogate pair of two. -/
def numberedEscape : Reader Char := do
  let first ← hexNumber 4 0
  if 0xD800 ≤ first ∧ first < 0xDC00 then
    expect '\\'
    expect 'u'
    let second ← hexNumber 4 0
    if 0xDC00 ≤ second ∧ second < 0xE000 then
      return Char.ofNat (0x10000 + (first - 0xD800) * 0x400 + (second - 0xDC00))
    else failure
  else if 0xDC00 ≤ first ∧ first < 0xE000 then failure
  else return Char.ofNat first

/-- The character of the escape after a backslash. -/
def escape : Reader Char := do
  match ← next with
  | '"' => return '"'
  | '\\' => return '\\'
  | '/' => return '/'
  | 'b' => return '\x08'
  | 'f' => return '\x0c'
  | 'n' => return '\n'
  | 'r' => return '\r'
  | 't' => return '\t'
  | 'u' => numberedEscape
  | _ => failure

/-- The rest of a string after its opening quote. -/
def stringBody : Reader String :=
  repeatUntil (fun (taken : List Char) => do
    match ← next with
    | '"' => return .done (String.ofList taken.reverse)
    | '\\' => return .more ((← escape) :: taken)
    | c => if c.toNat < 0x20 then failure else return .more (c :: taken)) []

/-- The digits at the front that make a number of 64 bits, that number, and the digits after
them. -/
def fittingDigits (value : Nat) : List Char → Nat × List Char
  | [] => (value, [])
  | c :: rest =>
    let longer := 10 * value + (c.toNat - '0'.toNat)
    if longer ≤ maxUnsigned then fittingDigits longer rest else (value, c :: rest)

/-- A magnitude times a power of ten, both rounded, and then their product or quotient rounded. A
power below the range is applied in parts. -/
def scaled? : Nat → Binary64 → Int → Option Binary64
  | 0, _, _ => some .zero
  | rounds + 1, magnitude, exponent =>
    if exponent.natAbs ≤ 308 then do
      let power ← Binary64.nearest? (tenTo exponent.natAbs) 1
      if 0 ≤ exponent then magnitude.times? power else magnitude.over? power
    else if magnitude = .zero then some .zero
    else if 0 ≤ exponent then none
    else do
      let power ← Binary64.nearest? (tenTo 308) 1
      scaled? rounds (← magnitude.over? power) (exponent + 308)

/-- The value of a number with a fraction, an exponent or too many digits. Digits that do not fit
count as powers of ten in front of the point and as nothing after it. -/
def realOf? (whole fraction : List Char) (exponent : Int) : Option Binary64 := do
  let (front, dropped) := fittingDigits 0 whole
  let (units, unread) := fittingDigits front fraction
  let places := fraction.length - unread.length
  scaled? 4 (← Binary64.nearest? units 1) (dropped.length - places + exponent)

/-- The exponent of a number, if it has one. -/
def exponentPart : Reader (Option Int) := do
  match ← peek? with
  | some c =>
    if c = 'e' ∨ c = 'E' then
      let _ ← next
      let negative ← accept '-'
      if !negative then let _ ← accept '+'
      let value : Int := Decimal.ofDigits (← takeSome Char.isDigit)
      return some (if negative then -value else value)
    else return none
  | none => return none

/-- A number. -/
def number : Reader Value := do
  let negative ← accept '-'
  let whole ← takeSome Char.isDigit
  if whole.length > 1 ∧ whole.head? = some '0' then failure
  let fraction ← if ← accept '.' then takeSome Char.isDigit else pure []
  let exponent ← exponentPart
  let value := Decimal.ofDigits whole
  if fraction = [] ∧ exponent = none ∧ ¬negative ∧ value ≤ maxUnsigned then
    return .unsigned value
  else if fraction = [] ∧ exponent = none ∧ negative ∧ 0 < value ∧ value ≤ maxNegated then
    return .signed (-value)
  else
    match realOf? whole fraction (exponent.getD 0) with
    | some magnitude => return .real (.finite negative magnitude)
    | none => failure

mutual

/-- A value, with the given number of levels left for values inside it. -/
def value (depth : Nat) : Reader Value := do
  skipSpace
  match ← peek? with
  | some '"' =>
    let _ ← next
    return .text (← stringBody)
  | some '[' =>
    let _ ← next
    match depth with
    | 0 => failure
    | depth + 1 => return .sequence (← elements depth)
  | some '\x7b' =>
    let _ ← next
    match depth with
    | 0 => failure
    | depth + 1 =>
      match Value.ofMembers? (← members depth) with
      | some found => return found
      | none => failure
  | some 't' => if ← acceptText "true" then return .boolean true else failure
  | some 'f' => if ← acceptText "false" then return .boolean false else failure
  | some 'n' => if ← acceptText "null" then return .unit else failure
  | _ => number
termination_by (depth, 0)

/-- The rest of an array after its opening bracket. -/
def elements (depth : Nat) : Reader (List Value) := do
  skipSpace
  if ← accept ']' then return []
  repeatUntil (fun (taken : List Value) => do
    let element ← value depth
    skipSpace
    if ← accept ',' then return .more (element :: taken)
    else
      expect ']'
      return .done (element :: taken).reverse) []
termination_by (depth, 1)

/-- The rest of an object after its opening brace. -/
def members (depth : Nat) : Reader Members := do
  skipSpace
  if ← accept '\x7d' then return []
  repeatUntil (fun (taken : Members) => do
    skipSpace
    expect '"'
    let name ← stringBody
    skipSpace
    expect ':'
    let member := (name, ← value depth)
    skipSpace
    if ← accept ',' then return .more (member :: taken)
    else
      expect '\x7d'
      return .done (member :: taken).reverse) []
termination_by (depth, 1)

end

/-- The members of a JSON document. -/
def document? (text : List Char) : Option Members :=
  whole? (do
    skipSpace
    expect '\x7b'
    let found ← members (maxDepth - 1)
    skipSpace
    return found) text

end EnvTemplate.Settings.Json
