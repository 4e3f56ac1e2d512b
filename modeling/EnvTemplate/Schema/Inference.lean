import EnvTemplate.Schema.Number
import EnvTemplate.Template.Basic
import EnvTemplate.Text.Blank
import EnvTemplate.Text.Quoted

/-!
# Schemas from samples

The type of a value is inferred from its trimmed sample. An empty sample is a required string;
`true` and `false` in any letter case are booleans; a number sample is a number; anything else is
a string with the sample as its default.

The value of an item in the generated module is a chain of builder calls. It starts with the key;
an item with choices goes on with the list of them, any other item with the type inferred from its
sample and then with the requirement or the default.
-/
namespace EnvTemplate.Schema

/-- The types of a value. -/
inductive ValueType
  /-- A string. -/
  | string
  /-- A boolean. -/
  | boolean
  /-- A number. -/
  | number
deriving DecidableEq, Repr

/-- The name of a type, which is also the name of its builder. -/
def ValueType.name : ValueType → String
  | string => "string"
  | boolean => "boolean"
  | number => "number"

/-- What a sample tells about a value. -/
inductive Inference
  /-- A string that must be given. -/
  | required
  /-- A boolean with a default. -/
  | boolean (value : Bool)
  /-- A number with the literal of its default. -/
  | number (literal : String)
  /-- A string with a default. -/
  | text (value : String)
deriving DecidableEq, Repr

namespace Inference

/-- The type of the value. -/
def valueType : Inference → ValueType
  | required => .string
  | boolean _ => .boolean
  | number _ => .number
  | text _ => .string

/-- Whether the value must be given. -/
def isRequired : Inference → Bool
  | required => true
  | _ => false

/-- The literal of the default, if there is one. -/
def default? : Inference → Option String
  | required => none
  | boolean value => some (if value then "true" else "false")
  | number literal => some literal
  | text value => some (Text.quoted value)

/-- The inference from a trimmed sample. -/
def ofTrimmed (sample : List Char) : Inference :=
  if sample = [] then required
  else if sample.map Char.toLower = ['t', 'r', 'u', 'e'] then boolean true
  else if sample.map Char.toLower = ['f', 'a', 'l', 's', 'e'] then boolean false
  else
    match NumberSample.ofText? sample with
    | some parts => number (String.ofList (parts.literal sample))
    | none => text (String.ofList sample)

/-- The inference from a sample. -/
def ofSample (sample : String) : Inference := ofTrimmed (Text.trim sample.toList)

end Inference

/-- The calls after the key of an item with choices. -/
def choiceCalls (choices : List String) : String :=
  ".string().enum([" ++ ", ".intercalate (choices.map Text.quoted) ++ "])"

/-- The calls after the key of an item whose type is inferred. -/
def inferredCalls (inference : Inference) : String :=
  "." ++ inference.valueType.name ++ "()" ++
    match inference.default? with
    | none => ".required()"
    | some literal => ".default(" ++ literal ++ ")"

/-- The builder chain of an item. -/
def chain (item : Template.Item) : String :=
  "schema(\"" ++ item.key ++ "\")" ++
    match item.choices with
    | some (choice :: choices) => choiceCalls (choice :: choices)
    | _ => inferredCalls (.ofSample item.sample)

end EnvTemplate.Schema
