import EnvTemplate.Settings.Yaml.Lexer

/-!
# The nodes of a YAML document

Building the one document of a YAML text from its tokens; there may be no second document. An anchor
gets a number when it is met: that of the different names of anchors before it. A reference takes
the number that its name has at that point, and leads to the last node of the document whose anchor
has that number.
-/
namespace EnvTemplate.Settings.Yaml

open Text.Reader (Step)

/-- A node of a document. -/
inductive Node
  /-- A scalar with its tag, if it has one. -/
  | scalar (tag : Option Tag) (plain : Bool) (text : String)
  /-- A sequence. -/
  | sequence (tag : Option Tag) (nodes : List Node)
  /-- A mapping. -/
  | mapping (tag : Option Tag) (pairs : List (Node × Node))
  /-- A reference to the number of an anchor. -/
  | alias (number : Nat)

/-- The node that stands where nothing is written. -/
def Node.empty : Node := .scalar none true ""

/-- The state of building nodes. -/
structure Building where
  /-- The tokens not used yet. -/
  tokens : List Token
  /-- What the handles of tags stand for. -/
  handles : List (String × Tag)
  /-- The different names of anchors with their numbers. -/
  names : List (String × Nat)
  /-- The numbers of the anchors in order with their nodes; none while a node is not finished. -/
  anchors : Array (Nat × Option Node)
  /-- A bound on the rounds of a repetition: more than there are tokens. -/
  bound : Nat

/-- The start of building nodes. -/
def Building.start (tokens : List Token) : Building where
  tokens := tokens
  handles := []
  names := []
  anchors := #[]
  bound := tokens.length + 2

/-- A step of building nodes. -/
abbrev Build (α : Type) : Type := StateT Building Option α

namespace Build

/-- The next token. -/
def peek : Build Token := do return (← get).tokens.head?.getD .streamEnd

/-- Drop the next token. -/
def skip : Build Unit := modify fun state => { state with tokens := state.tokens.drop 1 }

/-- Take the given token when it is the next one. -/
def accept (wanted : Token) : Build Bool := do
  if (← peek) = wanted then
    skip
    return true
  else return false

/-- Take the given token or fail. -/
def expect (wanted : Token) : Build Unit := do
  if !(← accept wanted) then failure

/-- Repeat a step until it ends. -/
def repeatUntil {α β : Type} (step : α → Build (Step α β)) (start : α) : Build β := do
  Text.Reader.repeatAtMost step (← get).bound start

end Build

open Build

/-- The tag that a handle and a suffix make. -/
def resolveTag (handle : String) (suffix : Tag) : Build Tag := do
  if handle.isEmpty then return suffix
  match (← get).handles.lookup handle with
  | some value => return value.append suffix
  | none =>
    if handle = "!" then return (Tag.ofText "!").append suffix
    else if handle = "!!" then return (Tag.ofText "tag:yaml.org,2002:").append suffix
    else failure

/-- The anchor and the tag in front of a node, in either order. -/
def properties : Build (Option String × Option Tag) := do
  match ← peek with
  | .anchor name =>
    skip
    match ← peek with
    | .tag handle suffix =>
      skip
      return (some name, some (← resolveTag handle suffix))
    | _ => return (some name, none)
  | .tag handle suffix =>
    skip
    let tag ← resolveTag handle suffix
    match ← peek with
    | .anchor name =>
      skip
      return (some name, some tag)
    | _ => return (none, some tag)
  | _ => return (none, none)

/-- The entries of a block sequence; the test tells which tokens mean that an entry is empty. -/
def blockEntries (node : Build Node) (isEmpty : Token → Bool) : Build (List Node) :=
  repeatUntil (fun (taken : List Node) => do
    if ← accept .blockEntry then
      let entry ← if isEmpty (← peek) then pure Node.empty else node
      return .more (entry :: taken)
    else return .done taken.reverse) []

/-- Whether a block sequence with an end of its own has no entry at this place. -/
def noEntry (token : Token) : Bool := token = .blockEntry || token = .blockEnd

/-- Whether a block mapping has nothing at this place. -/
def noBlockNode (token : Token) : Bool :=
  token = .key || token = .value || token = .blockEnd

/-- The pairs of a block mapping up to its end. -/
def blockPairs (node : Build Node) : Build (List (Node × Node)) :=
  repeatUntil (fun (taken : List (Node × Node)) => do
    if ← accept .key then
      let key ← if noBlockNode (← peek) then pure Node.empty else node
      if ← accept .value then
        let value ← if noBlockNode (← peek) then pure Node.empty else node
        return .more ((key, value) :: taken)
      else return .more ((key, Node.empty) :: taken)
    else
      expect .blockEnd
      return .done taken.reverse) []

/-- A value inside brackets or braces, if it is given. -/
def flowValue (node : Build Node) (close : Token) : Build Node := do
  if ← accept .value then
    let after ← peek
    if after = .flowEntry ∨ after = close then return .empty else node
  else return .empty

/-- A pair that is an entry of a sequence in brackets, after the token of its key. -/
def flowPair (node : Build Node) : Build Node := do
  let after ← peek
  if after = .value ∨ after = .flowEntry ∨ after = .sequenceEnd then
    skip
    return .mapping none [(.empty, ← flowValue node .sequenceEnd)]
  else
    let key ← node
    return .mapping none [(key, ← flowValue node .sequenceEnd)]

/-- The entries of a sequence in brackets, after the opening one. -/
def flowEntries (node : Build Node) : Build (List Node) :=
  repeatUntil (fun (taken : List Node) => do
    if ← accept .sequenceEnd then return .done taken.reverse
    if !taken.isEmpty then
      expect .flowEntry
    if ← accept .sequenceEnd then return .done taken.reverse
    if ← accept .key then return .more ((← flowPair node) :: taken)
    else return .more ((← node) :: taken)) []

/-- The pairs of a mapping in braces, after the opening one. -/
def flowPairs (node : Build Node) : Build (List (Node × Node)) :=
  repeatUntil (fun (taken : List (Node × Node)) => do
    if ← accept .mappingEnd then return .done taken.reverse
    if !taken.isEmpty then
      expect .flowEntry
    if ← accept .mappingEnd then return .done taken.reverse
    if ← accept .key then
      let after ← peek
      let key ←
        if after = .value ∨ after = .flowEntry ∨ after = .mappingEnd then pure Node.empty
        else node
      return .more ((key, ← flowValue node .mappingEnd) :: taken)
    else return .more ((← node, Node.empty) :: taken)) []

/-- The reference to the anchor that has a name at this point. -/
def reference (name : String) : Build Node := do
  match (← get).names.lookup name with
  | some number => return .alias number
  | none => failure

/-- Give an anchor its number, and return its place in the order of the anchors. -/
def numberAnchor (name : String) : Build Nat := do
  let state ← get
  let number := state.names.length
  set { state with
    names := (name, number) :: state.names.filter (·.1 ≠ name)
    anchors := state.anchors.push (number, none) }
  return state.anchors.size

/-- Note the node of the anchor at a place in the order of the anchors. -/
def finishAnchor (place : Nat) (found : Node) : Build Unit :=
  modify fun state =>
    { state with anchors := state.anchors.modify place fun anchor => (anchor.1, some found) }

/-- Whether a sequence without an end of its own, in a block mapping, has no entry at this
place. -/
def noNestedEntry (token : Token) : Bool := token = .blockEntry || noBlockNode token

/-- What stands after the properties of a node. In brackets and braces there are no blocks; the
value of a block mapping may be a sequence that is not further right. -/
def content (node : Bool → Bool → Build Node) (block nested given : Bool) (tag : Option Tag) :
    Build Node := do
  match ← peek with
  | .scalar plain text =>
    skip
    return .scalar tag plain text
  | .sequenceStart =>
    skip
    return .sequence tag (← flowEntries (node false false))
  | .mappingStart =>
    skip
    return .mapping tag (← flowPairs (node false false))
  | .blockEntry =>
    if nested then return .sequence tag (← blockEntries (node true false) noNestedEntry)
    else if given then return .scalar tag true ""
    else failure
  | .blockSequence =>
    if block then
      skip
      let nodes ← blockEntries (node true false) noEntry
      expect .blockEnd
      return .sequence tag nodes
    else if given then return .scalar tag true ""
    else failure
  | .blockMapping =>
    if block then
      skip
      return .mapping tag (← blockPairs (node true true))
    else if given then return .scalar tag true ""
    else failure
  | _ => if given then return .scalar tag true "" else failure

/-- A node with at most the given number of levels. -/
def node : Nat → Bool → Bool → Build Node
  | 0, _, _ => failure
  | depth + 1, block, nested => do
    match ← peek with
    | .alias name =>
      skip
      reference name
    | _ =>
      let (anchor, tag) ← properties
      match anchor with
      | none => content (node depth) block nested tag.isSome tag
      | some name =>
        let place ← numberAnchor name
        let found ← content (node depth) block nested true tag
        finishAnchor place found
        return found

/-- The directives in front of a document: at most one version, and handles of different names. -/
def directives : Build Unit :=
  repeatUntil (fun (versions : Nat) => do
    match ← peek with
    | .version =>
      skip
      if versions = 0 then return .more 1 else failure
    | .handle name value =>
      skip
      if ((← get).handles.lookup name).isSome then failure
      modify fun state => { state with handles := (name, value) :: state.handles }
      return .more versions
    | _ => return .done ()) 0

/-- Whether an explicit document has nothing after its mark. -/
def noContent (token : Token) : Bool :=
  match token with
  | .version => true
  | .handle _ _ => true
  | .documentStart => true
  | .documentEnd => true
  | .streamEnd => true
  | _ => false

/-- How many levels a document may have. -/
def maxLevels : Nat := 129

/-- The only document of a text; an empty text has an empty one. -/
def onlyDocument : Build Node := do
  let explicit := match ← peek with
    | .version => true
    | .handle _ _ => true
    | .documentStart => true
    | _ => false
  let found ←
    if (← peek) = .streamEnd then pure Node.empty
    else if explicit then
      directives
      expect .documentStart
      if noContent (← peek) then pure Node.empty else node maxLevels true false
    else node maxLevels true false
  repeatUntil (fun () => do
    if ← accept .documentEnd then return .more () else return .done ()) ()
  expect .streamEnd
  return found

/-- A document: its top, and the nodes of the anchors by their numbers. -/
structure Graph where
  /-- The top of the document. -/
  top : Node
  /-- The nodes of the anchors, the last first. -/
  anchored : List (Nat × Node)

/-- The only document of a text. -/
def Graph.ofText? (text : List Char) : Option Graph := do
  let (top, state) ← onlyDocument.run (.start (← tokens? text))
  let anchored := state.anchors.toList.filterMap fun (number, found) => found.map (number, ·)
  return ⟨top, anchored.reverse⟩

end EnvTemplate.Settings.Yaml
