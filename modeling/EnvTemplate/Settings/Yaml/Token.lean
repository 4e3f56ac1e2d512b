import EnvTemplate.Settings.Yaml.Tag

/-!
# Tokens of YAML

The marks and scalars that the layout of a YAML document comes down to. Indentation is told by
tokens for the start and the end of blocks, and a key that only its colon reveals is told by a
token in front of it.
-/
namespace EnvTemplate.Settings.Yaml

/-- A token. -/
inductive Token
  /-- A version directive. -/
  | version
  /-- A tag directive with its handle and what the handle stands for. -/
  | handle (name : String) (value : Tag)
  /-- Three hyphens. -/
  | documentStart
  /-- Three dots. -/
  | documentEnd
  /-- The first entry of a block sequence follows. -/
  | blockSequence
  /-- The first key of a block mapping follows. -/
  | blockMapping
  /-- A block ends. -/
  | blockEnd
  /-- An opening bracket. -/
  | sequenceStart
  /-- A closing bracket. -/
  | sequenceEnd
  /-- An opening brace. -/
  | mappingStart
  /-- A closing brace. -/
  | mappingEnd
  /-- A hyphen before an entry. -/
  | blockEntry
  /-- A comma. -/
  | flowEntry
  /-- A key follows. -/
  | key
  /-- A value follows. -/
  | value
  /-- A reference to an anchored node. -/
  | alias (name : String)
  /-- The name of the node that follows. -/
  | anchor (name : String)
  /-- The tag of the node that follows: a handle and a suffix. -/
  | tag (handle : String) (suffix : Tag)
  /-- A scalar; a plain one stands without quotes and without a block mark. -/
  | scalar (plain : Bool) (text : String)
  /-- The end of the text. -/
  | streamEnd
deriving DecidableEq, Repr

end EnvTemplate.Settings.Yaml
