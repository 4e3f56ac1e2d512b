import EnvTemplate.Decimal.Literal
import EnvTemplate.Settings.Json
import EnvTemplate.Text.Blank

/-!
# Settings in environment variables

The name of a variable is a path of lower-case names between which it has two underscores or a
dot. The text of a variable is a boolean, a number, a quoted string, a character between
apostrophes, an array in brackets or a table in braces when it can be read as one completely; in
any other case it is a string, without the blanks around it unless it holds a comma, a bracket or
a brace.
-/
namespace EnvTemplate.Settings.Variable

open Text (Reader)
open Text.Reader

/-- The blanks between tokens. -/
def isSpace (c : Char) : Bool :=
  c == ' ' || c == '\t' || c == '\n' || c == '\x0c' || c == '\r'

/-- The characters of a bare word. -/
def isWordChar (c : Char) : Bool := c ≠ ',' && c ≠ '\x7b' && c ≠ '\x7d' && c ≠ '[' && c ≠ ']'

/-- The characters of a bare name. -/
def isNameChar (c : Char) : Bool := c.isAlphanum || c == '_' || c == '-'

/-- Drop blanks. -/
def skipSpace : Reader Unit := skipWhile isSpace

/-- The character of a number, unless that is no character. -/
def character? (code : Nat) : Option Char :=
  if code.isValidChar then some (Char.ofNat code) else none

/-- The character of the escape after a backslash. -/
def escape : Reader Char := do
  match ← next with
  | '"' => return '"'
  | '\\' => return '\\'
  | 'b' => return '\x08'
  | 'f' => return '\x0c'
  | 'n' => return '\n'
  | 'r' => return '\r'
  | 't' => return '\t'
  | 'u' => numbered 4
  | 'U' => numbered 8
  | _ => failure
where
  /-- The character of a number of so many hexadecimal digits. -/
  numbered (count : Nat) : Reader Char := do
    match character? (← Json.hexNumber count 0) with
    | some c => return c
    | none => failure

/-- The characters of a text that lie within so many of its first bytes. -/
def withinBytes : Nat → List Char → List Char
  | _, [] => []
  | bytes, c :: rest =>
    if c.utf8Size ≤ bytes then c :: withinBytes (bytes - c.utf8Size) rest else []

/-- A string between double quotes; of the controls it may hold only tabs. Of the text before the
first escape as many bytes count as that text has characters. -/
def string : Reader String := do
  expect '"'
  repeatUntil (fun ((escaped, taken) : Bool × List Char) => do
    match ← next with
    | '"' => return .done (String.ofList taken.reverse)
    | '\\' =>
      let before := if escaped then taken else (withinBytes taken.length taken.reverse).reverse
      return .more (true, (← escape) :: before)
    | c =>
      if (c.toNat < 0x20 ∧ c ≠ '\t') ∨ c.toNat = 0x7F then failure
      else return .more (escaped, c :: taken)) (false, [])

/-- The name of a member of a table. -/
def name : Reader String := do
  if (← peek?) = some '"' then string else return String.ofList (← takeSome isNameChar)

/-- The value of a bare word: a number with a point, a whole number of 64 bits, or a string. -/
def wordValue (word : List Char) : Value :=
  match if word.contains '.' then Decimal.real? word else none with
  | some value => .real value
  | none =>
    let (negative, digits) := Decimal.sign word
    match Decimal.natural? digits with
    | none => .text (String.ofList word)
    | some value =>
      if negative then
        if value ≤ Json.maxNegated then .signed (-value) else .text (String.ofList word)
      else if value ≤ Json.maxUnsigned then .unsigned value
      else .text (String.ofList word)

mutual

/-- A value, with the given number of levels left for values inside it. -/
def value (depth : Nat) : Reader Value := do
  skipSpace
  let found ←
    if ← acceptText "true" then pure (.boolean true)
    else if ← acceptText "false" then pure (.boolean false)
    else
      match ← peek? with
      | some '"' => pure (.text (← string))
      | some '\'' =>
        expect '\''
        let c ← next
        expect '\''
        pure (.text (String.ofList [c]))
      | some '[' =>
        expect '['
        match depth with
        | 0 => failure
        | depth + 1 => pure (.sequence (← elements depth))
      | some '\x7b' =>
        expect '\x7b'
        match depth with
        | 0 => failure
        | depth + 1 => pure (.table (← members depth))
      | _ => pure (wordValue (Text.trim (← takeWhile isWordChar)))
  skipSpace
  return found
termination_by (depth, 0)

/-- The rest of an array after its opening bracket. -/
def elements (depth : Nat) : Reader (List Value) := do
  repeatUntil (fun (taken : List Value) => do
    if ← accept ']' then return .done taken.reverse
    let element ← value depth
    if ← accept ',' then return .more (element :: taken)
    else
      expect ']'
      return .done (element :: taken).reverse) []
termination_by (depth, 1)

/-- The rest of a table after its opening brace. -/
def members (depth : Nat) : Reader Members := do
  repeatUntil (fun (taken : Members) => do
    if ← accept '\x7d' then return .done taken.reverse
    skipSpace
    let key ← name
    skipSpace
    expect '='
    let member := (key, ← value depth)
    if ← accept ',' then return .more (member :: taken)
    else
      expect '\x7d'
      return .done (member :: taken).reverse) []
termination_by (depth, 1)

end

/-- The value of the text of a variable. -/
def valueOf (text : String) : Value :=
  (whole? (value text.length) text.toList).getD (.text text)

/-- The lead of the names of all variables with settings, in upper case. -/
def lead : List Char := "ENVUS_".toList

/-- A name without the lead, which may be in any letter case. -/
def withoutLead? (name : List Char) : Option (List Char) :=
  if (name.take lead.length).map Char.toUpper = lead then some (name.drop lead.length) else none

/-- Two underscores as a dot, from the left. -/
def dotted : List Char → List Char
  | '_' :: '_' :: rest => '.' :: dotted rest
  | c :: rest => c :: dotted rest
  | [] => []

/-- The path that a variable names, if it has the lead and no part of the path is empty. -/
def path? (name : String) : Option (List String) := do
  let parts := Text.splitOn '.' (Text.trim (dotted (← withoutLead? (Text.trim name.toList))))
  if parts.any (·.isEmpty) then none
  else some (parts.map fun part => String.ofList (part.map Char.toLower))

end EnvTemplate.Settings.Variable
