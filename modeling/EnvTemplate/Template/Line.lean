import EnvTemplate.Text.Blank

/-!
# The lines of a template

A trimmed line is blank, a comment, a group directive, an assignment, or malformed. A comment
starts with a hash; a group directive is a comment whose text starts with `@group:` in any letter
case and goes on to an argument; an assignment is a key of at least two characters, an equals
sign and any text without a line feed.
-/
namespace EnvTemplate.Template

/-- The characters a key starts with. -/
def startsKey (c : Char) : Bool := 'A' ≤ c && c ≤ 'Z'

/-- The characters of a key after the first. -/
def continuesKey (c : Char) : Bool := startsKey c || c.isDigit || c == '_'

/-- Whether a key has the form of an environment key. -/
def isKey : List Char → Bool
  | first :: second :: rest => startsKey first && (second :: rest).all continuesKey
  | _ => false

/-- The key and the value of an assignment. -/
def assignment? (line : List Char) : Option (List Char × List Char) :=
  let key := line.takeWhile continuesKey
  match line.dropWhile continuesKey with
  | '=' :: value => if isKey key && !value.contains '\n' then some (key, value) else none
  | _ => none

/-- The rest of a line that goes on with a word, which is given in small letters. -/
def afterWord? : List Char → List Char → Option (List Char)
  | [], line => some line
  | _ :: _, [] => none
  | w :: word, c :: line => if c.toLower = w then afterWord? word line else none

/-- What a directive goes on to: the text after its leading blanks, or only the last of these
blanks when nothing else follows. It must not be empty nor hold a line feed. -/
def argument? (text : List Char) : Option (List Char) :=
  let argument :=
    match Text.trimStart text with
    | [] => text.getLast?.toList
    | trimmed => trimmed
  if argument = [] ∨ '\n' ∈ argument then none else some argument

/-- The argument of a group directive. -/
def directive? : List Char → Option (List Char)
  | '#' :: rest =>
    match afterWord? ['@', 'g', 'r', 'o', 'u', 'p', ':'] (Text.trimStart rest) with
    | some text => argument? text
    | none => none
  | _ => none

/-- The characters of a choice. -/
def isChoiceChar (c : Char) : Bool := c.isAlphanum || c == '_' || c == '-'

/-- The choices a sample lists: two or more words with a bar between each two of them. -/
def choices? (sample : List Char) : Option (List String) :=
  let words := Text.splitOn '|' (Text.trim sample)
  if 2 ≤ words.length ∧ words.all (fun word => word ≠ [] ∧ word.all isChoiceChar) then
    some (words.map String.ofList)
  else none

/-- A classified line. -/
inductive Line
  /-- Nothing but blanks. -/
  | blank
  /-- A group directive with its argument. -/
  | directive (argument : List Char)
  /-- Any other comment. -/
  | comment
  /-- A key and its value. -/
  | assignment (key value : List Char)
  /-- Anything else. -/
  | malformed (text : List Char)
deriving DecidableEq, Repr

/-- The class of a trimmed line. -/
def Line.ofTrimmed (text : List Char) : Line :=
  match text with
  | [] => .blank
  | '#' :: _ =>
    match directive? text with
    | some argument => .directive argument
    | none => .comment
  | _ =>
    match assignment? text with
    | some (key, value) => .assignment key value
    | none => .malformed text

/-- The classified lines of a template. -/
def linesOf (text : List Char) : List Line :=
  (Text.lines text).map fun line => .ofTrimmed (Text.trim line)

end EnvTemplate.Template
