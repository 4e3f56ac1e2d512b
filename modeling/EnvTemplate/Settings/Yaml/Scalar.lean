import EnvTemplate.Settings.Json
import EnvTemplate.Settings.Variable
import EnvTemplate.Settings.Yaml.Cursor

/-!
# Scalars of YAML

The four kinds of scalars: plain text, text between apostrophes or double quotes, and text of whole
lines after a block mark. A line break inside plain or quoted text counts as a space, and each
further one as itself.
-/
namespace EnvTemplate.Settings.Yaml

open Scan
open Text.Reader (Step)

/-- Whether a document mark stands here, at the start of a line. -/
def atDocumentMark : Scan Bool := do
  let cursor ← get
  return cursor.column == 0 &&
    (cursor.rest.take 3 == ['-', '-', '-'] || cursor.rest.take 3 == ['.', '.', '.']) &&
    isStop cursor.rest[3]?

/-- The blanks and line breaks between two pieces of a scalar. -/
structure Between where
  /-- The blanks, the last first, when there is no line break. -/
  gaps : List Char
  /-- The first line break, when there is one; an escaped one is empty. -/
  first? : Option (List Char)
  /-- The line breaks after the first, the last first. -/
  more : List Char

/-- What stands for the blanks and line breaks between two pieces, the last character first. -/
def Between.folded (between : Between) : List Char :=
  match between.first? with
  | none => between.gaps
  | some ['\n'] => if between.more = [] then [' '] else between.more
  | some first => between.more ++ first

/-- Nothing between two pieces. -/
def Between.nothing : Between := ⟨[], none, []⟩

/-- Take the blanks and line breaks at this place. A tab after a line break and before the given
column is refused. -/
def takeBetween (start : Between) (indent : Option Int) : Scan Between :=
  repeatUntil (fun (between : Between) => do
    match ← peek with
    | none => return .done between
    | some c =>
      if isGap c then
        match between.first? with
        | none =>
          skip
          return .more { between with gaps := c :: between.gaps }
        | some _ =>
          let column : Int := (← get).column
          if c = '\t' ∧ indent.any (column < ·) then failure
          skip
          return .more between
      else if isBreak c then
        let taken ← takeBreak
        match between.first? with
        | none => return .more ⟨[], some taken, []⟩
        | some _ => return .more { between with more := taken ++ between.more }
      else return .done between) start

/-- The number of so many hexadecimal digits. -/
def hexNumber : Nat → Nat → Scan Nat
  | 0, value => return value
  | count + 1, value => do
    match (← peek).bind Json.hexDigit? with
    | some digit =>
      skip
      hexNumber count (16 * value + digit)
    | none => failure

/-- The character of the escape after a backslash. -/
def escape : Scan Char := do
  let c ← peek
  skip
  match c with
  | some '0' => return '\x00'
  | some 'a' => return '\x07'
  | some 'b' => return '\x08'
  | some 't' => return '\t'
  | some '\t' => return '\t'
  | some 'n' => return '\n'
  | some 'v' => return '\x0b'
  | some 'f' => return '\x0c'
  | some 'r' => return '\r'
  | some 'e' => return '\x1b'
  | some ' ' => return ' '
  | some '"' => return '"'
  | some '/' => return '/'
  | some '\\' => return '\\'
  | some 'N' => return '\u0085'
  | some '_' => return '\u00a0'
  | some 'L' => return '\u2028'
  | some 'P' => return '\u2029'
  | some 'x' => numbered 2
  | some 'u' => numbered 4
  | some 'U' => numbered 8
  | _ => failure
where
  /-- The character of a number of so many hexadecimal digits. -/
  numbered (count : Nat) : Scan Char := do
    match Variable.character? (← hexNumber count 0) with
    | some c => return c
    | none => failure

/-- Whether the text goes on with so many given characters. -/
def follows (wanted : List Char) : Scan Bool := do
  return (← get).rest.take wanted.length == wanted

/-- Take quoted text up to a blank, a line break or the closing quote. The text is kept with the last
character first; the flag tells whether an escaped line break ended it. -/
def quotedPiece (single : Bool) (text : List Char) : Scan (List Char × Bool) :=
  repeatUntil (fun (taken : List Char) => do
    match ← peek with
    | none => return .done (taken, false)
    | some c =>
      if isGap c ∨ isBreak c then return .done (taken, false)
      else if single ∧ (← follows ['\'', '\'']) then
        skipMany 2
        return .more ('\'' :: taken)
      else if c = (if single then '\'' else '"') then return .done (taken, false)
      else if c = '\\' ∧ ¬single then
        skip
        if (← peek).any isBreak then
          let _ ← takeBreak
          return .done (taken, true)
        else return .more ((← escape) :: taken)
      else
        skip
        return .more (c :: taken)) text

/-- Quoted text. -/
def quotedScalar (single : Bool) : Scan String := do
  let quote := if single then '\'' else '"'
  skip
  repeatUntil (fun (text : List Char) => do
    if ← atDocumentMark then failure
    if (← peek) = none then failure
    let (text, escapedBreak) ← quotedPiece single text
    if (← peek) = some quote then
      skip
      return .done (String.ofList text.reverse)
    else
      let start : Between := if escapedBreak then ⟨[], some [], []⟩ else .nothing
      return .more ((← takeBetween start none).folded ++ text)) []

/-- The characters that end plain text inside brackets and braces. -/
def isFlowMark (c : Char) : Bool :=
  c == ',' || c == '[' || c == ']' || c == '\x7b' || c == '\x7d'

/-- The next piece of plain text, up to a blank, a line break or a mark, the last character first. -/
def plainPiece : Scan (List Char) := do
  let flow ← inFlow
  repeatUntil (fun (taken : List Char) => do
    match ← peek with
    | none => return .done taken
    | some c =>
      let second ← peekAt 1
      if isGap c ∨ isBreak c then return .done taken
      else if flow ∧ c = ':' ∧ second.any (fun d => d == '?' || isFlowMark d) then failure
      else if (c = ':' ∧ isStop second) ∨ (flow ∧ isFlowMark c) then return .done taken
      else
        skip
        return .more (c :: taken)) []

/-- Plain text. A line break at its end lets a key begin after it. -/
def plainScalar : Scan String := do
  let indent := (← get).indent + 1
  let (text, between) ← repeatUntil (fun ((text, between) : List Char × Between) => do
    if (← atDocumentMark) ∨ (← peek) = some '#' then return .done (text, between)
    let piece ← plainPiece
    let joined := if piece = [] then text else piece ++ (between.folded ++ text)
    let pending := if piece = [] then between else .nothing
    match ← peek with
    | none => return .done (joined, pending)
    | some c =>
      if isGap c ∨ isBreak c then
        let later ← takeBetween pending (some indent)
        if !(← inFlow) ∧ ((← get).column : Int) < indent then return .done (joined, later)
        else return .more (joined, later)
      else return .done (joined, pending)) ([], .nothing)
  if between.first?.isSome then allowKey true
  return String.ofList text.reverse

/-- What becomes of the line breaks at the end of a block scalar. -/
inductive Chomping
  /-- One is kept. -/
  | clip
  /-- None is kept. -/
  | strip
  /-- All are kept. -/
  | keep
deriving DecidableEq

/-- The sign after a block mark that tells about the line breaks at the end. -/
def chompingMark? : Scan (Option Chomping) := do
  match ← peek with
  | some '+' =>
    skip
    return some .keep
  | some '-' =>
    skip
    return some .strip
  | _ => return none

/-- The digit after a block mark that tells the indentation. -/
def indentMark? : Scan (Option Nat) := do
  match ← peek with
  | some c =>
    if c = '0' then failure
    else if c.isDigit then
      skip
      return some (c.toNat - '0'.toNat)
    else return none
  | none => return none

/-- Drop the indentation of the next lines of a block scalar and take the breaks of empty lines, the
last first. The indentation is found from these lines when it is not known; returns it with the
breaks. -/
def blockBreaks (known : Option Nat) : Scan (Nat × List Char) := do
  let least := ((← get).indent + 1).toNat
  let (deepest, breaks) ← repeatUntil (fun ((deepest, breaks) : Nat × List Char) => do
    let _ ← repeatUntil (fun () => do
      let column := (← get).column
      if (← peek) = some ' ' ∧ known.all (column < ·) then
        skip
        return .more ()
      else return .done ()) ()
    let column := (← get).column
    let deepest := max deepest column
    if (← peek) = some '\t' ∧ known.all (column < ·) then failure
    if (← peek).any isBreak then return .more (deepest, (← takeBreak) ++ breaks)
    else return .done (deepest, breaks)) (0, [])
  return (known.getD (max (max deepest least) 1), breaks)

/-- The lines read of a block scalar, with the last character first. -/
structure BlockText where
  /-- The text before the last line break. -/
  text : List Char
  /-- The last line break. -/
  last : List Char
  /-- The breaks of the empty lines after it. -/
  breaks : List Char
  /-- Whether the last line began with a blank. -/
  indented : Bool

/-- Text of whole lines. -/
def blockScalar (literal : Bool) : Scan String := do
  skip
  let (chomping?, digit?) ← do
    match ← chompingMark? with
    | some chomping => pure (some chomping, ← indentMark?)
    | none =>
      let digit? ← indentMark?
      let chomping? ← if digit?.isSome then chompingMark? else pure none
      pure (chomping?, digit?)
  let _ ← takeWhile isGap
  if (← peek) = some '#' then
    let _ ← takeWhile fun _ => true
  if !isLineEnd (← peek) then failure
  let _ ← takeBreak
  let base := (← get).indent
  let (indent, breaks) ← blockBreaks (digit?.map fun digit => (max base 0).toNat + digit)
  let final ← repeatUntil (fun (block : BlockText) => do
    if (← get).column ≠ indent ∨ (← peek) = none then return .done block
    let indented := (← peek).any isGap
    let lead :=
      if !literal ∧ block.last = ['\n'] ∧ !block.indented ∧ !indented then
        if block.breaks = [] then [' '] else []
      else block.last
    let content ← takeWhile fun _ => true
    let last ← takeBreak
    let (_, later) ← blockBreaks (some indent)
    return .more
      ⟨content.reverse ++ (block.breaks ++ (lead ++ block.text)), last, later, indented⟩)
    ⟨[], [], breaks, false⟩
  return String.ofList <| List.reverse <|
    match chomping?.getD .clip with
    | .strip => final.text
    | .clip => final.last ++ final.text
    | .keep => final.breaks ++ (final.last ++ final.text)

end EnvTemplate.Settings.Yaml
