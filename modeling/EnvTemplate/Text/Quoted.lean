/-!
# Quoted literals

A quoted literal stands between two apostrophes. Inside, a backslash makes the next character
literal, so each apostrophe and each backslash of the value is written after a backslash and
every other character as it is. Main statement: reading a literal from the front of a text
returns the value and the text after the literal.

A JSON string literal stands between two double quotes. The quote, the backslash and the control
characters below the space are written as escapes, with the short escape where JSON has one; all
other characters are written as they are.
-/
namespace EnvTemplate.Text

/-- Whether a character is written after a backslash. -/
def needsBackslash (c : Char) : Bool := c == '\\' || c == '\''

/-- The inside of the literal of a value. -/
def escapeQuoted (value : List Char) : List Char :=
  value.flatMap fun c => if needsBackslash c then ['\\', c] else [c]

/-- The literal of a value. -/
def quoted (value : String) : String :=
  String.ofList ('\'' :: escapeQuoted value.toList ++ ['\''])

/-- Read the inside of a literal up to its closing apostrophe, returning the value and the text
after that apostrophe. -/
def readQuotedBody : List Char → Option (List Char × List Char)
  | [] => none
  | '\\' :: c :: rest => (readQuotedBody rest).map fun (value, after) => (c :: value, after)
  | c :: rest =>
    if c = '\'' then some ([], rest)
    else if c = '\\' then none
    else (readQuotedBody rest).map fun (value, after) => (c :: value, after)

/-- Read a literal from the front of a text. -/
def readQuoted : List Char → Option (List Char × List Char)
  | '\'' :: rest => readQuotedBody rest
  | _ => none

/-- Reading the inside of a literal stops at its closing apostrophe with the value. -/
theorem readQuotedBody_escapeQuoted (value rest : List Char) :
    readQuotedBody (escapeQuoted value ++ '\'' :: rest) = some (value, rest) := by
  induction value with
  | nil => simp [escapeQuoted, readQuotedBody]
  | cons c value ih =>
    simp only [escapeQuoted] at ih
    by_cases special : needsBackslash c
    · simp [escapeQuoted, special, readQuotedBody, ih]
    · have plain : c ≠ '\\' ∧ c ≠ '\'' := by simpa [needsBackslash] using special
      simp [escapeQuoted, special, readQuotedBody, plain.1, plain.2, ih]

/-- Reading the literal of a value stops at its end, whatever text follows. -/
theorem readQuoted_append (value : String) (rest : List Char) :
    readQuoted ((quoted value).toList ++ rest) = some (value.toList, rest) := by
  simp [quoted, readQuoted, readQuotedBody_escapeQuoted]

/-- A hexadecimal number in lower case, padded with zeros to four digits. -/
def hexFour (value : Nat) : List Char :=
  let digits := Nat.toDigits 16 value
  List.replicate (4 - digits.length) '0' ++ digits

/-- A character inside a JSON string literal. -/
def jsonEscape (c : Char) : List Char :=
  if c = '"' then ['\\', '"']
  else if c = '\\' then ['\\', '\\']
  else if c = '\n' then ['\\', 'n']
  else if c = '\r' then ['\\', 'r']
  else if c = '\t' then ['\\', 't']
  else if c.toNat = 8 then ['\\', 'b']
  else if c.toNat = 12 then ['\\', 'f']
  else if c.toNat < 0x20 then '\\' :: 'u' :: hexFour c.toNat
  else [c]

/-- The JSON string literal of a value. -/
def jsonString (value : String) : String :=
  String.ofList ('"' :: value.toList.flatMap jsonEscape ++ ['"'])

end EnvTemplate.Text
