import EnvTemplate.Decimal.Literal
import EnvTemplate.Settings.Json
import EnvTemplate.Settings.Variable

/-!
# Scalars of TOML

Strings in their four forms, whole numbers in four bases, floating-point numbers and dates. A date
is kept only as a table with its text, since no setting is a date.
-/
namespace EnvTemplate.Settings.Toml

open Text (Reader)
open Text.Reader

/-- The blanks inside a line. -/
def isSpace (c : Char) : Bool := c == ' ' || c == '\t'

/-- The characters that a comment or a string may hold as they are. -/
def isPlain (c : Char) : Bool := c == '\t' || (0x20 ≤ c.toNat && c.toNat ≠ 0x7F)

/-- Drop blanks. -/
def skipSpace : Reader Unit := skipWhile isSpace

/-- Take a line break, if there is one. -/
def acceptBreak : Reader Bool := do
  if ← accept '\n' then return true
  else acceptText "\r\n"

/-- The character of the escape after a backslash. -/
def escape : Reader Char := do
  match ← next with
  | '"' => return '"'
  | '\\' => return '\\'
  | 'b' => return '\x08'
  | 'f' => return '\x0c'
  | 'n' => return '\n'
  | 'r' => return '\r'
  | 't' => return '\t'
  | 'u' => numbered 4
  | 'U' => numbered 8
  | _ => failure
where
  /-- The character of a number of so many hexadecimal digits. -/
  numbered (count : Nat) : Reader Char := do
    match Variable.character? (← Json.hexNumber count 0) with
    | some c => return c
    | none => failure

/-- The rest of a basic string after its opening quote. -/
def basicBody : Reader String :=
  repeatUntil (fun (taken : List Char) => do
    match ← next with
    | '"' => return .done (String.ofList taken.reverse)
    | '\\' => return .more ((← escape) :: taken)
    | c => if isPlain c then return .more (c :: taken) else failure) []

/-- The rest of a literal string after its opening quote. -/
def literalBody : Reader String := do
  let taken ← takeWhile fun c => isPlain c && c ≠ '\''
  expect '\''
  return String.ofList taken

/-- After a backslash at the end of a line: drop all blanks and line breaks up to the next
character. -/
def skipFold : Reader Unit := do
  skipSpace
  if !(← acceptBreak) then failure
  repeatUntil (fun () => do
    skipSpace
    if ← acceptBreak then return .more () else return .done ()) ()

/-- The end of a string of several lines: three quotes, before which one or two more belong to the
string. Returns the quotes that belong to it, or nothing when the string goes on. -/
def closing? (quote : Char) : Reader (Option (List Char)) := do
  let quotes := (← get).takeWhile (· = quote)
  if quotes.length < 3 then return none
  else if quotes.length ≤ 5 then
    modify (·.drop quotes.length)
    return some (quotes.drop 3)
  else failure

/-- The rest of a string of several lines after its opening quotes. -/
def longBody (quote : Char) : Reader String := do
  let _ ← acceptBreak
  repeatUntil (fun (taken : List Char) => do
    match ← closing? quote with
    | some last => return .done (String.ofList (taken.reverse ++ last))
    | none =>
      if ← acceptBreak then return .more ('\n' :: taken)
      else
        let c ← next
        if c = '\\' ∧ quote = '"' then
          match ← peek? with
          | some e =>
            if isSpace e ∨ e = '\n' ∨ e = '\r' then
              skipFold
              return .more taken
            else return .more ((← escape) :: taken)
          | none => failure
        else if isPlain c then return .more (c :: taken)
        else failure) []

/-- A string in any form. -/
def string : Reader String := do
  if ← acceptText "\"\"\"" then longBody '"'
  else if ← acceptText "'''" then longBody '\''
  else if ← accept '"' then basicBody
  else
    expect '\''
    literalBody

/-- Digits of a base, between which single underscores may stand. -/
def digitsOf (isDigit : Char → Bool) : Reader (List Char) := do
  let taken ← takeWhile fun c => isDigit c || c == '_'
  let grouped := Text.splitOn '_' taken
  if grouped.any (·.isEmpty) then failure else return grouped.flatten

/-- The value of digits of a base. -/
def valueIn (base : Nat) (digits : List Char) : Nat :=
  digits.foldl (fun value c => base * value + (Json.hexDigit? c).getD 0) 0

/-- A whole number in a base other than ten, after its mark. -/
def basedNumber (base : Nat) : Reader Value := do
  let digits ← digitsOf fun c =>
    match Json.hexDigit? c with
    | some digit => digit < base
    | none => false
  let value := valueIn base digits
  if value < twoTo 63 then return .signed value else failure

/-- The sign of a number, if it has one. -/
def signPart : Reader (Option Char) := do
  if ← accept '-' then return some '-'
  else if ← accept '+' then return some '+'
  else return none

/-- The fraction of a number after its whole part, if it has one. -/
def fractionPart : Reader (Option (List Char)) := do
  if ← accept '.' then return some (← digitsOf Char.isDigit) else return none

/-- The exponent of a number, if it has one. -/
def exponentPart : Reader (Option Int) := do
  match ← peek? with
  | some c =>
    if c = 'e' ∨ c = 'E' then
      let _ ← next
      let sign ← signPart
      let value : Int := Decimal.ofDigits (← digitsOf Char.isDigit)
      return some (if sign = some '-' then -value else value)
    else return none
  | none => return none

/-- The base that a mark in front of a whole number tells, if there is a mark. -/
def markedBase : Reader (Option Nat) := do
  if ← acceptText "0x" then return some 16
  else if ← acceptText "0o" then return some 8
  else if ← acceptText "0b" then return some 2
  else return none

/-- A number in base ten after its sign. A positive number too large for binary64 is refused, a
negative one is infinite. -/
def tenBasedNumber (negative : Bool) : Reader Value := do
  let whole ← digitsOf Char.isDigit
  if whole.length > 1 ∧ whole.head? = some '0' then failure
  let fraction ← fractionPart
  let exponent ← exponentPart
  let value : Int := Decimal.ofDigits whole
  match fraction, exponent with
  | none, none =>
    let signed := if negative then -value else value
    if -twoTo 63 ≤ signed ∧ signed < twoTo 63 then return .signed signed else failure
  | _, _ =>
    let digits := fraction.getD []
    match Binary64.ofScientific? (Decimal.ofDigits (whole ++ digits))
        (exponent.getD 0 - digits.length) with
    | some magnitude => return .real (.finite negative magnitude)
    | none => if negative then return .real (.infinite true) else failure

/-- A number. Only one without a sign may be in a base other than ten. -/
def number : Reader Value := do
  match ← signPart with
  | none =>
    match ← markedBase with
    | some base => basedNumber base
    | none => unmarked false
  | some sign => unmarked (sign == '-')
where
  /-- A number in base ten or a word for a number, after the sign. -/
  unmarked (negative : Bool) : Reader Value := do
    if ← acceptText "inf" then return .real (.infinite negative)
    else if ← acceptText "nan" then return .real .undefined
    else tenBasedNumber negative

/-- A number of exactly so many digits that lies in a range. -/
def field (count least most : Nat) : Reader Nat := do
  let digits := (← get).take count
  if digits.length = count ∧ digits.all Char.isDigit then
    let value := Decimal.ofDigits digits
    if least ≤ value ∧ value ≤ most then
      modify (·.drop count)
      return value
    else failure
  else failure

/-- How many days a month has. -/
def daysIn (year month : Nat) : Nat :=
  if month = 2 then
    if year % 4 = 0 ∧ (year % 100 ≠ 0 ∨ year % 400 = 0) then 29 else 28
  else if month = 4 ∨ month = 6 ∨ month = 9 ∨ month = 11 then 30
  else 31

/-- The date of a day. -/
def date : Reader Unit := do
  let year ← field 4 0 9999
  expect '-'
  let month ← field 2 1 12
  expect '-'
  let _ ← field 2 1 (daysIn year month)

/-- The time of a day. -/
def time : Reader Unit := do
  let _ ← field 2 0 23
  expect ':'
  let _ ← field 2 0 59
  expect ':'
  let _ ← field 2 0 60
  if ← accept '.' then
    let _ ← takeSome Char.isDigit

/-- The distance from universal time, if it is given. -/
def offset : Reader Unit := do
  match ← peek? with
  | some c =>
    if c = 'Z' ∨ c = 'z' then
      let _ ← next
    else if c = '+' ∨ c = '-' then
      let _ ← next
      let _ ← field 2 0 23
      expect ':'
      let _ ← field 2 0 59
  | none => return ()

/-- A time after a date. -/
def timeAfterDate : Reader Unit := do
  let c ← next
  if c = 'T' ∨ c = 't' ∨ c = ' ' then
    time
    offset
  else failure

/-- A date, a time, or both. -/
def moment : Reader Value := do
  let before ← get
  match ← attempt date with
  | some () =>
    let _ ← attempt timeAfterDate
  | none => time
  let taken := before.take (before.length - (← get).length)
  return .table [("datetime", .text (String.ofList taken))]

end EnvTemplate.Settings.Toml
