import EnvTemplate.Decimal.Literal
import EnvTemplate.Settings.Value
import EnvTemplate.Settings.Yaml.Node

/-!
# Settings in YAML

The values of the nodes of a YAML document. A plain scalar is nothing, a boolean, a number or a
string by its text; any other scalar is a string. The common tags ask for a type, and a tag of an
application puts the value into the tables that it names. The names in a mapping are scalars, taken
as text; of equal names the last counts. Sequences and mappings may be nested 128 deep, and how
often references are followed is limited by the size of the document.
-/
namespace EnvTemplate.Settings.Yaml

/-- Whether the text stands for nothing. -/
def isNull (text : String) : Bool :=
  text == "~" || text == "null" || text == "Null" || text == "NULL"

/-- The boolean of a text. -/
def boolean? (text : String) : Option Bool :=
  if text == "true" || text == "True" || text == "TRUE" then some true
  else if text == "false" || text == "False" || text == "FALSE" then some false
  else none

/-- Whether a text is digits with a zero in front, which make no number. -/
def isZeroLed (text : List Char) : Bool :=
  match (Decimal.sign text).2 with
  | '0' :: c :: rest => (c :: rest).all Char.isDigit
  | _ => false

/-- The value of one or more digits of a base. -/
def digitsIn? (base : Nat) (text : List Char) : Option Nat :=
  if text = [] then none
  else text.foldlM (fun value c =>
    match Json.hexDigit? c with
    | some digit => if digit < base then some (base * value + digit) else none
    | none => none) 0

/-- The value of digits in the base of the mark in front of them. -/
def marked? (text : List Char) : Option Nat :=
  match text with
  | '0' :: 'x' :: rest => digitsIn? 16 rest
  | '0' :: 'o' :: rest => digitsIn? 8 rest
  | '0' :: 'b' :: rest => digitsIn? 2 rest
  | _ => none

/-- The whole number of a text. -/
def integer? (text : List Char) : Option Int :=
  let (negative, unsigned) := Decimal.sign text
  let magnitude :=
    match marked? unsigned with
    | some value => some value
    | none => if isZeroLed text then none else digitsIn? 10 unsigned
  magnitude.map fun value => if negative then -(value : Int) else value

/-- The value of a whole number, by the number of bits that it needs; one that needs more than 128
is none. -/
def integerValue? (value : Int) : Option Value :=
  if value < 0 then
    if -twoTo 63 ≤ value then some (.signed value)
    else if -twoTo 127 ≤ value then some (.wide value)
    else none
  else if value < twoTo 64 then some (.unsigned value.toNat)
  else if value < twoTo 128 then some (.wide value)
  else none

/-- The value of a text that is a whole number. A minus sign before a zero is kept apart. -/
def wholeValue? (text : List Char) : Option Value := do
  let value ← integer? text
  if value = 0 ∧ text.head? = some '-' then some (.signed 0) else integerValue? value

/-- The binary64 number of a text. -/
def real? (text : String) : Option Real64 :=
  match text with
  | ".inf" | ".Inf" | ".INF" | "+.inf" | "+.Inf" | "+.INF" => some (.infinite false)
  | "-.inf" | "-.Inf" | "-.INF" => some (.infinite true)
  | ".nan" | ".NaN" | ".NAN" => some .undefined
  | _ =>
    match Decimal.real? text.toList with
    | some (.finite negative magnitude) => some (.finite negative magnitude)
    | _ => none

/-- The value of a plain scalar without a tag. -/
def plainValue (text : String) : Value :=
  if text.isEmpty || isNull text then .unit
  else
    match boolean? text with
    | some value => .boolean value
    | none =>
      match wholeValue? text.toList with
      | some value => value
      | none =>
        match if isZeroLed text.toList then none else real? text with
        | some value => .real value
        | none => .text text

/-- The value of a scalar inside the tables that its tag names. -/
def scalarValue? (tag : Option Tag) (plain : Bool) (text : String) : Option Value :=
  let bare : Value := if plain then plainValue text else .text text
  match tag with
  | none => some bare
  | some tag =>
    if tag.isOwn then some (bare.nested tag.path)
    else
      match tag.text? with
      | some "tag:yaml.org,2002:bool" => (boolean? text).map .boolean
      | some "tag:yaml.org,2002:int" => wholeValue? text.toList
      | some "tag:yaml.org,2002:float" => (real? text).map .real
      | some "tag:yaml.org,2002:null" => if isNull text then some .unit else none
      | _ => some (.text text)

/-- A value inside the tables that its tag names. -/
def tagged (tag : Option Tag) (value : Value) : Value :=
  match tag with
  | none => value
  | some tag => value.nested tag.path

mutual

/-- How many parts a node has: one for a scalar or a reference, and two for the ends of a sequence
or a mapping besides the parts of what is in it. -/
def Node.size : Node → Nat
  | .scalar _ _ _ => 1
  | .alias _ => 1
  | .sequence _ nodes => 2 + nodesSize nodes
  | .mapping _ pairs => 2 + pairsSize pairs

/-- How many parts nodes have. -/
def nodesSize : List Node → Nat
  | [] => 0
  | node :: rest => node.size + nodesSize rest

/-- How many parts pairs of nodes have. -/
def pairsSize : List (Node × Node) → Nat
  | [] => 0
  | (key, node) :: rest => key.size + node.size + pairsSize rest

end

/-- A step of taking values from nodes, with the number of references that may still be followed. -/
abbrev Take (α : Type) : Type := StateT Nat Option α

namespace Graph

/-- The node that a node stands for: the one that a reference leads to, or the node itself. -/
def follow (graph : Graph) : Node → Take Node
  | .alias number => do
    match ← get, graph.anchored.lookup number with
    | left + 1, some node =>
      set left
      return node
    | _, _ => failure
  | node => return node

/-- The name that a node gives to a member. -/
def name (graph : Graph) (node : Node) : Take String := do
  match ← graph.follow node with
  | .scalar _ _ text => return text
  | _ => failure

/-- The members that pairs of nodes give, when the values of nodes are known. -/
def members (graph : Graph) (value : Node → Take Value) (pairs : List (Node × Node)) :
    Take Members :=
  pairs.mapM fun (key, node) => do return (← graph.name key, ← value node)

/-- The value of a node, with the given number of levels left for sequences and mappings. -/
def value (graph : Graph) : Nat → Node → Take Value
  | levels, node => do
    match ← graph.follow node, levels with
    | .scalar tag plain text, _ => (scalarValue? tag plain text : Option Value)
    | .sequence tag nodes, levels + 1 =>
      return tagged tag (.sequence (← nodes.mapM (graph.value levels)))
    | .mapping tag pairs, levels + 1 =>
      let found ← (Value.ofMembers? (← graph.members (graph.value levels) pairs) : Option Value)
      return tagged tag found
    | _, _ => failure

/-- How deep sequences and mappings may be nested. -/
def maxLevels : Nat := 128

/-- How many references may be followed: a hundred for each part of the document. -/
def maxReferences (graph : Graph) : Nat := 100 * graph.top.size

/-- The members of a document whose top is a mapping or empty. -/
def members? (graph : Graph) : Option Members :=
  match graph.top with
  | .mapping _ pairs =>
    (graph.members (graph.value (maxLevels - 1)) pairs).run' graph.maxReferences
  | .scalar _ plain text => if plain && text.isEmpty then some [] else none
  | _ => none

end Graph

/-- The members of a YAML document. -/
def document? (text : List Char) : Option Members := (Graph.ofText? text).bind Graph.members?

end EnvTemplate.Settings.Yaml
