import EnvTemplate.Settings.Toml.Scalar
import EnvTemplate.Settings.Toml.Table

/-!
# Settings in TOML

Reading a TOML document. A document that gives a name twice, or extends a table that is closed, is
refused like one that breaks the grammar; so are values nested 80 deep.
-/
namespace EnvTemplate.Settings.Toml

open Text (Reader)
open Text.Reader

/-- How deep arrays, inline tables and dotted names may be nested, plus one. -/
def depthLimit : Nat := 80

/-- The characters of a bare name. -/
def isBareChar (c : Char) : Bool := c.isAlphanum || c == '_' || c == '-'

/-- One part of a dotted name. -/
def namePart : Reader String := do
  if ← accept '"' then basicBody
  else if ← accept '\'' then literalBody
  else return String.ofList (← takeSome isBareChar)

/-- A dotted name: the parts before the last, and the last. -/
def dottedName : Reader (List String × String) := do
  repeatUntil (fun (taken : List String) => do
    skipSpace
    let part ← namePart
    skipSpace
    if ← accept '.' then return .more (part :: taken)
    else if taken.length + 1 < depthLimit then return .done (taken.reverse, part)
    else failure) []

/-- Drop a comment, if there is one. -/
def skipComment : Reader Unit := do
  if ← accept '#' then skipWhile isPlain

/-- Drop blanks, comments and line breaks inside an array. -/
def skipLines : Reader Unit :=
  repeatUntil (fun () => do
    skipSpace
    skipComment
    if ← acceptBreak then return .more () else return .done ()) ()

mutual

/-- A value, with the given number of levels left for values inside it. -/
def value (depth : Nat) : Reader Value := do
  match ← peek? with
  | some '"' => return .text (← string)
  | some '\'' => return .text (← string)
  | some '[' =>
    expect '['
    match depth with
    | 0 => failure
    | depth + 1 => return .sequence (← elements depth)
  | some '\x7b' =>
    expect '\x7b'
    match depth with
    | 0 => failure
    | depth + 1 =>
      match finishTable? (← inlineMembers depth) with
      | some found => return found
      | none => failure
  | some 't' => if ← acceptText "true" then return .boolean true else failure
  | some 'f' => if ← acceptText "false" then return .boolean false else failure
  | _ =>
    match ← attempt moment with
    | some found => return found
    | none => number
termination_by (depth, 0)

/-- The rest of an array after its opening bracket. -/
def elements (depth : Nat) : Reader (List Value) := do
  repeatUntil (fun (taken : List Value) => do
    skipLines
    if ← accept ']' then return .done taken.reverse
    let element ← value depth
    skipLines
    if ← accept ',' then return .more (element :: taken)
    else
      expect ']'
      return .done (element :: taken).reverse) []
termination_by (depth, 1)

/-- The rest of an inline table after its opening brace. -/
def inlineMembers (depth : Nat) : Reader Nodes := do
  skipSpace
  if ← accept '\x7d' then return []
  repeatUntil (fun (taken : Nodes) => do
    let (path, name) ← dottedName
    expect '='
    skipSpace
    let found ← value depth
    skipSpace
    match taken.assign name found path with
    | none => failure
    | some nodes =>
      if ← accept ',' then return .more nodes
      else
        expect '\x7d'
        return .done nodes) []
termination_by (depth, 1)

end

/-- The document so far: its tables and the path of the table that is open. -/
structure Progress where
  /-- The tables and values. -/
  nodes : Nodes
  /-- The path of the last header. -/
  header : List String

/-- One line that is a header. -/
def headerLine (progress : Progress) : Reader Progress := do
  expect '['
  let isElement ← accept '['
  let (path, name) ← dottedName
  expect ']'
  if isElement then expect ']'
  let opened := if isElement then Nodes.openElement name else Nodes.openTable name
  match progress.nodes.descend opened path with
  | some nodes => return ⟨nodes, path ++ [name]⟩
  | none => failure

/-- One line that gives a value. -/
def valueLine (progress : Progress) : Reader Progress := do
  let (path, name) ← dottedName
  expect '='
  skipSpace
  let found ← value (depthLimit - 1)
  match progress.nodes.descend (Nodes.assign name found path) progress.header with
  | some nodes => return { progress with nodes }
  | none => failure

/-- One line. -/
def line (progress : Progress) : Reader Progress := do
  skipSpace
  match ← peek? with
  | some '[' => headerLine progress
  | some '#' => return progress
  | some '\n' => return progress
  | some '\r' => return progress
  | none => return progress
  | _ => valueLine progress

/-- All lines. -/
def lines : Reader Nodes :=
  repeatUntil (fun (progress : Progress) => do
    let progress ← line progress
    skipSpace
    skipComment
    if ← acceptBreak then return .more progress
    else if ← atEnd then return .done progress.nodes
    else failure) ⟨[], []⟩

/-- A document without the mark of its byte order. -/
def withoutMark : List Char → List Char
  | '\uFEFF' :: rest => rest
  | text => text

/-- The members of a TOML document. -/
def document? (text : List Char) : Option Members :=
  (whole? lines (withoutMark text)).bind finishMembers?

end EnvTemplate.Settings.Toml
