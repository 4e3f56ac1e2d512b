import EnvTemplate.Settings.Yaml.Scalar

/-!
# The tokens of a YAML text

Cutting a YAML text into tokens. A block begins where an entry or a key stands further right than
the block around it, and ends where a line stands further left. A key is known only by its colon,
so its token is put in front of tokens that were taken before the colon was met.
-/
namespace EnvTemplate.Settings.Yaml

open Scan
open Text.Reader (Step)

/-- The characters of names of anchors, handles and directives. -/
def isWordChar (c : Char) : Bool := c.isAlphanum || c == '_' || c == '-'

/-- The mark of the order of bytes. -/
def orderMark : Char := '\uFEFF'

/-- Drop blanks, comments and line breaks up to the next token. A tab may not stand where a key
may begin, and the mark of the order of bytes may stand at the start of a line, where it takes up a
column. -/
def skipToToken : Scan Unit :=
  repeatUntil (fun () => do
    let flow ← inFlow
    let keyAllowed := (← get).keyAllowed
    let column := (← get).column
    match ← peek with
    | none => return .done ()
    | some c =>
      if c = ' ' ∨ (c = '\t' ∧ (flow ∨ !keyAllowed)) ∨ (c = orderMark ∧ column = 0) then
        skip
        return .more ()
      else if c = '#' then
        let _ ← takeWhile fun _ => true
        return .more ()
      else if isBreak c then
        let _ ← takeBreak
        if !flow then allowKey true
        return .more ()
      else return .done ()) ()

/-- A mark of so many characters outside all blocks. -/
def documentToken (length : Nat) (token : Token) : Scan Unit := do
  closeBlocks (-1)
  dropKey
  allowKey false
  skipMany length
  emit token

/-- The rest of a line that holds nothing but a comment. -/
def finishLine : Scan Unit := do
  let _ ← takeWhile isGap
  if (← peek) = some '#' then
    let _ ← takeWhile fun _ => true
  if !isLineEnd (← peek) then failure
  let _ ← takeBreak

/-- A number of a version, of at most nine digits. -/
def versionNumber : Scan Nat := do
  let digits ← takeWhile Char.isDigit
  if digits = [] ∨ 9 < digits.length then failure
  return Decimal.ofDigits digits

/-- The byte of an escape: a percent sign and two hexadecimal digits. -/
def escapedByte : Scan UInt8 := do
  if (← peek) ≠ some '%' then failure
  skip
  return (← hexNumber 2 0).toUInt8

/-- How many bytes go together, by the highest bits of the first. -/
def groupLength? (first : UInt8) : Option Nat :=
  if first < 0x80 then some 1
  else if first < 0xC0 then none
  else if first < 0xE0 then some 2
  else if first < 0xF0 then some 3
  else if first < 0xF8 then some 4
  else none

/-- The bytes of the escapes that go together. -/
def escapedGroup : Scan (List UInt8) := do
  let first ← escapedByte
  match groupLength? first with
  | none => failure
  | some length =>
    let later ← (List.replicate (length - 1) ()).mapM fun () => do
      let byte ← escapedByte
      if byte < 0x80 ∨ 0xC0 ≤ byte then failure
      return byte
    return first :: later

/-- The characters of a tag that stand for themselves. -/
def isTagChar (verbatim : Bool) (c : Char) : Bool :=
  isWordChar c || ";/?:@&=+$.!~*'()".toList.contains c ||
    (verbatim && ",[]".toList.contains c)

/-- The bytes of a piece of a tag. -/
def tagBytes (verbatim : Bool) : Scan (List UInt8) :=
  repeatUntil (fun (taken : List UInt8) => do
    match ← peek with
    | none => return .done taken
    | some c =>
      if c = '%' then return .more (taken ++ (← escapedGroup))
      else if isTagChar verbatim c then
        skip
        return .more (taken ++ [c.toNat.toUInt8])
      else return .done taken) []

/-- The handle of a tag: one or two exclamation marks, with a word between two. -/
def tagHandle : Scan String := do
  if (← peek) ≠ some '!' then failure
  skip
  let word ← takeWhile isWordChar
  if (← peek) = some '!' then
    skip
    return "!" ++ String.ofList word ++ "!"
  else return "!" ++ String.ofList word

/-- A directive, which stands on a line of its own outside all blocks. -/
def directive : Scan Unit := do
  closeBlocks (-1)
  dropKey
  allowKey false
  skip
  let name := String.ofList (← takeWhile isWordChar)
  if !isStop (← peek) then failure
  let _ ← takeWhile isGap
  if name = "YAML" then
    let major ← versionNumber
    if (← peek) ≠ some '.' then failure
    skip
    let minor ← versionNumber
    if major ≠ 1 ∨ (minor ≠ 1 ∧ minor ≠ 2) then failure
    finishLine
    emit .version
  else if name = "TAG" then
    let handle ← tagHandle
    if handle ≠ "!" ∧ handle.toList.getLast? ≠ some '!' then failure
    if !(← peek).any isGap then failure
    let _ ← takeWhile isGap
    let value ← tagBytes true
    if value = [] ∨ !isStop (← peek) then failure
    finishLine
    emit (.handle handle (.ofBytes value))
  else failure

/-- The tag of a node. -/
def tag : Scan Unit := do
  noteKey
  allowKey false
  if ← follows ['!', '<'] then
    skipMany 2
    let suffix ← tagBytes true
    if suffix = [] ∨ (← peek) ≠ some '>' then failure
    skip
    emit (.tag "" (.ofBytes suffix))
  else
    let handle ← tagHandle
    if handle.length > 1 ∧ handle.toList.getLast? = some '!' then
      let suffix ← tagBytes false
      if suffix = [] then failure
      emit (.tag handle (.ofBytes suffix))
    else
      let suffix := Tag.ofBytes ((Tag.ofText handle).bytes.drop 1 ++ (← tagBytes false))
      emit (if suffix.bytes = [] then .tag "" (.ofText "!") else .tag "!" suffix)
  let after ← peek
  if !isStop after ∧ !((← inFlow) ∧ after = some ',') then failure

/-- The name after the mark of an anchor or of a reference to one. -/
def anchorName : Scan String := do
  noteKey
  allowKey false
  skip
  let name ← takeWhile isWordChar
  let after ← peek
  if name = [] ∨ !(isStop after ∨ after.any "?:,]\x7d%@\x60".toList.contains) then failure
  return String.ofList name

/-- An opening bracket or brace. -/
def openFlow (token : Token) : Scan Unit := do
  noteKey
  modify fun cursor => { cursor with keys := none :: cursor.keys }
  allowKey true
  skip
  emit token

/-- A closing bracket or brace. -/
def closeFlow (token : Token) : Scan Unit := do
  dropKey
  modify fun cursor =>
    { cursor with keys := if cursor.keys.length > 1 then cursor.keys.drop 1 else cursor.keys }
  allowKey false
  skip
  emit token

/-- A comma. -/
def flowEntry : Scan Unit := do
  dropKey
  allowKey true
  skip
  emit .flowEntry

/-- A hyphen before an entry, which begins a block sequence if none is open there. -/
def blockEntry : Scan Unit := do
  if !(← inFlow) then
    if !(← get).keyAllowed then failure
    openBlock (← get).column none .blockSequence
  dropKey
  allowKey true
  skip
  emit .blockEntry

/-- A question mark before a key, which begins a block mapping if none is open there. -/
def keyMark : Scan Unit := do
  let flow ← inFlow
  if !flow then
    if !(← get).keyAllowed then failure
    openBlock (← get).column none .blockMapping
  dropKey
  allowKey (!flow)
  skip
  emit .key

/-- A colon before a value. If a key may have begun before it, that was a key, and a block mapping
begins there if none is open. -/
def valueMark : Scan Unit := do
  match (← get).keys with
  | some start :: outer =>
    emitAt start.tokens .key
    openBlock start.column (some start.tokens) .blockMapping
    modify fun cursor => { cursor with keys := none :: outer }
    allowKey false
  | _ =>
    let flow ← inFlow
    if !flow then
      if !(← get).keyAllowed then failure
      openBlock (← get).column none .blockMapping
    allowKey (!flow)
  skip
  emit .value

/-- A scalar that may be a key. -/
def scalar (plain : Bool) (text : Scan String) : Scan Unit := do
  noteKey
  allowKey false
  emit (.scalar plain (← text))

/-- Text of whole lines, after which a key may begin. -/
def blockText (literal : Bool) : Scan Unit := do
  dropKey
  allowKey true
  emit (.scalar false (← blockScalar literal))

/-- The end of the text, outside all blocks. -/
def endOfText : Scan Unit := do
  closeBlocks (-1)
  dropKey
  emit .streamEnd

/-- The marks that cannot begin plain text. -/
def isIndicator (c : Char) : Bool := "-?:,[]\x7b\x7d#&*!|>'\"%@\x60".toList.contains c

/-- The token at a place where the text goes on with the given character. -/
def tokenAt (c : Char) : Scan Unit := do
  let flow ← inFlow
  let second ← peekAt 1
  if c = '%' ∧ (← get).column = 0 then directive
  else if (← atDocumentMark) ∧ c = '-' then documentToken 3 .documentStart
  else if ← atDocumentMark then documentToken 3 .documentEnd
  else if c = '[' then openFlow .sequenceStart
  else if c = '\x7b' then openFlow .mappingStart
  else if c = ']' then closeFlow .sequenceEnd
  else if c = '\x7d' then closeFlow .mappingEnd
  else if c = ',' then flowEntry
  else if c = '-' ∧ isStop second then blockEntry
  else if c = '?' ∧ (flow ∨ isStop second) then keyMark
  else if c = ':' ∧ (flow ∨ isStop second) then valueMark
  else if c = '*' then emit (.alias (← anchorName))
  else if c = '&' then emit (.anchor (← anchorName))
  else if c = '!' then tag
  else if c = '|' ∧ !flow then blockText true
  else if c = '>' ∧ !flow then blockText false
  else if c = '\'' then scalar false (quotedScalar true)
  else if c = '"' then scalar false (quotedScalar false)
  else if (!isIndicator c ∧ !isStop (some c)) ∨ (c = '-' ∧ !second.any isGap) ∨
      (!flow ∧ (c = '?' ∨ c = ':') ∧ !isStop second) then
    scalar true plainScalar
  else failure

/-- The characters that a YAML text may hold. -/
def isAllowed (c : Char) : Bool :=
  let n := c.toNat
  n == 9 || n == 10 || n == 13 || (0x20 ≤ n && n ≤ 0x7E) || n == 0x85 ||
    (0xA0 ≤ n && n ≤ 0xFFFD) || 0x10000 ≤ n

/-- The tokens of a text. -/
def tokens? (text : List Char) : Option (List Token) :=
  if !text.all isAllowed then none
  else
    let all : Scan Unit := repeatUntil (fun () => do
      skipToToken
      dropStaleKeys
      closeBlocks (← get).column
      match ← peek with
      | none =>
        endOfText
        return .done ()
      | some c =>
        tokenAt c
        return .more ()) ()
    match all.run (.start text) with
    | some ((), cursor) => some cursor.tokens.toList
    | none => none

end EnvTemplate.Settings.Yaml
