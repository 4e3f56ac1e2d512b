import EnvTemplate.Settings.Yaml.Token
import EnvTemplate.Text.Reader

/-!
# The place in a YAML text

What reading a YAML text keeps besides the rest of the text: the place in it, the indentations of
the blocks that are open, the places where a key may have begun, and the tokens so far. Inside
brackets and braces indentation does not count.
-/
namespace EnvTemplate.Settings.Yaml

open Text.Reader (Step)

/-- A place where a key may have begun, to be known by the colon after it. -/
structure KeyStart where
  /-- Whether nothing but a key can stand there. -/
  needed : Bool
  /-- The number of tokens before it. -/
  tokens : Nat
  /-- How many bytes stand before it. -/
  index : Nat
  /-- Its line. -/
  line : Nat
  /-- Its column. -/
  column : Nat

/-- The state of reading a YAML text. -/
structure Cursor where
  /-- The text from here on. -/
  rest : List Char
  /-- How many bytes were read. -/
  index : Nat
  /-- How many lines were read. -/
  line : Nat
  /-- How many characters of this line were read. -/
  column : Nat
  /-- The column of the innermost open block, or minus one. -/
  indent : Int
  /-- The columns of the blocks around it. -/
  outer : List Int
  /-- Whether a key may begin here. -/
  keyAllowed : Bool
  /-- The place of a possible key on each level of brackets, the innermost first. -/
  keys : List (Option KeyStart)
  /-- The tokens so far. -/
  tokens : Array Token
  /-- A bound on the rounds of a repetition: more than the text has characters. -/
  bound : Nat

/-- The start of a text. -/
def Cursor.start (text : List Char) : Cursor where
  rest := text
  index := 0
  line := 0
  column := 0
  indent := -1
  outer := []
  keyAllowed := true
  keys := [none]
  tokens := #[]
  bound := text.length + 2

/-- A step of reading a YAML text. -/
abbrev Scan (α : Type) : Type := StateT Cursor Option α

/-- Whether the character breaks a line. -/
def isBreak (c : Char) : Bool :=
  c == '\n' || c == '\r' || c.toNat == 0x85 || c.toNat == 0x2028 || c.toNat == 0x2029

/-- Whether the character is a blank inside a line. -/
def isGap (c : Char) : Bool := c == ' ' || c == '\t'

/-- Whether a token cannot go on here: the text ends, or a blank or a line break follows. -/
def isStop : Option Char → Bool
  | none => true
  | some c => isGap c || isBreak c

/-- Whether the line ends here. -/
def isLineEnd : Option Char → Bool
  | none => true
  | some c => isBreak c

namespace Scan

/-- The character so many places further on. -/
def peekAt (offset : Nat) : Scan (Option Char) := do return (← get).rest[offset]?

/-- The next character. -/
def peek : Scan (Option Char) := peekAt 0

/-- Drop so many characters inside a line. -/
def skipMany (count : Nat) : Scan Unit :=
  modify fun cursor =>
    { cursor with
      rest := cursor.rest.drop count
      index := (cursor.rest.take count).foldl (fun index c => index + c.utf8Size) cursor.index
      column := cursor.column + count }

/-- Drop a character inside a line. -/
def skip : Scan Unit := skipMany 1

/-- Take a line break, which counts as a line feed unless it separates lines or paragraphs. -/
def takeBreak : Scan (List Char) := do
  let cursor ← get
  let after (rest : List Char) (bytes : Nat) : Cursor :=
    { cursor with rest, index := cursor.index + bytes, line := cursor.line + 1, column := 0 }
  match cursor.rest with
  | '\r' :: '\n' :: rest =>
    set (after rest 2)
    return ['\n']
  | c :: rest =>
    if isBreak c then
      set (after rest c.utf8Size)
      return [if c.toNat = 0x2028 ∨ c.toNat = 0x2029 then c else '\n']
    else return []
  | [] => return []

/-- Take the characters of this line up to the first that fails the test. -/
def takeWhile (test : Char → Bool) : Scan (List Char) := do
  let taken := (← get).rest.takeWhile fun c => test c && !isBreak c
  skipMany taken.length
  return taken

/-- Repeat a step until it ends. -/
def repeatUntil {α β : Type} (step : α → Scan (Step α β)) (start : α) : Scan β := do
  Text.Reader.repeatAtMost step (← get).bound start

/-- Whether the place is inside brackets or braces. -/
def inFlow : Scan Bool := do return (← get).keys.length > 1

/-- Add a token. -/
def emit (token : Token) : Scan Unit :=
  modify fun cursor => { cursor with tokens := cursor.tokens.push token }

/-- Put a token in front of all but so many tokens. -/
def emitAt (count : Nat) (token : Token) : Scan Unit :=
  modify fun cursor => { cursor with tokens := cursor.tokens.insertIdxIfInBounds count token }

/-- Set whether a key may begin here. -/
def allowKey (allowed : Bool) : Scan Unit :=
  modify fun cursor => { cursor with keyAllowed := allowed }

/-- Give up the place of a possible key on this level; fails when only a key can stand there. -/
def dropKey : Scan Unit := do
  match (← get).keys with
  | some start :: outer =>
    if start.needed then failure
    modify fun cursor => { cursor with keys := none :: outer }
  | _ => return ()

/-- Note that a key may begin here, if that is allowed. -/
def noteKey : Scan Unit := do
  let cursor ← get
  if cursor.keyAllowed then
    let needed := cursor.keys.length ≤ 1 && cursor.indent == cursor.column
    dropKey
    modify fun later =>
      { later with
        keys := some ⟨needed, cursor.tokens.size, cursor.index, cursor.line, cursor.column⟩ ::
          later.keys.drop 1 }

/-- Give up the places of possible keys on earlier lines and those more than 1024 bytes back. -/
def dropStaleKeys : Scan Unit := do
  let cursor ← get
  let stale (start : KeyStart) : Bool :=
    start.line < cursor.line || start.index + 1024 < cursor.index
  if cursor.keys.any (fun place => place.any fun start => stale start && start.needed) then failure
  set { cursor with
    keys := cursor.keys.map fun (place : Option KeyStart) => place.filter fun start => !stale start }

/-- Open a block at a column, if no block is open there; its token goes to the given place. -/
def openBlock (column : Nat) (place : Option Nat) (token : Token) : Scan Unit := do
  let cursor ← get
  if cursor.keys.length ≤ 1 ∧ cursor.indent < column then
    set { cursor with indent := column, outer := cursor.indent :: cursor.outer }
    match place with
    | some count => emitAt count token
    | none => emit token

/-- Close the blocks that begin after a column. -/
def closeBlocks (column : Int) : Scan Unit := do
  let cursor ← get
  if cursor.keys.length ≤ 1 then
    let closed := (cursor.indent :: cursor.outer).takeWhile (column < ·)
    match (cursor.indent :: cursor.outer).drop closed.length with
    | indent :: outer =>
      set { cursor with
        indent, outer, tokens := cursor.tokens ++ closed.map fun _ => Token.blockEnd }
    | [] => failure

end Scan

end EnvTemplate.Settings.Yaml
