import EnvTemplate.Text.Blank

/-!
# Tags of YAML

A tag is kept as its bytes, because an escape in it may give any byte, also one that is part of no
character. The tags of an application begin with an exclamation mark, and such a tag names a path
of tables around the value that has it.
-/
namespace EnvTemplate.Settings.Yaml

/-- A tag. -/
structure Tag where
  /-- The bytes of the tag. -/
  bytes : List UInt8
deriving DecidableEq, Repr

namespace Tag

/-- The tag that bytes give: those before the first zero. -/
def ofBytes (bytes : List UInt8) : Tag := ⟨bytes.takeWhile (· ≠ 0)⟩

/-- The tag of a text. -/
def ofText (text : String) : Tag := ofBytes text.toUTF8.toList

/-- A tag with another after it. -/
def append (tag suffix : Tag) : Tag := ⟨tag.bytes ++ suffix.bytes⟩

/-- The text of a tag, if its bytes make one. -/
def text? (tag : Tag) : Option String := String.fromUTF8? ⟨tag.bytes.toArray⟩

/-- The bytes of an exclamation mark. -/
def mark : List UInt8 := [0x21]

/-- Whether a tag belongs to an application. -/
def isOwn (tag : Tag) : Bool := tag.bytes.take 1 == mark

/-- The name of a tag of an application: what follows the mark, or the mark when it stands alone. -/
def name? (tag : Tag) : Option String :=
  if tag.bytes = mark then some "!"
  else if tag.isOwn then text? ⟨tag.bytes.drop 1⟩
  else none

/-- The names of the tables around a value with the tag: the parts of its name between dots, up to
the first that is empty. -/
def path (tag : Tag) : List String :=
  match tag.name? with
  | some name => ((Text.splitOn '.' name.toList).takeWhile (· ≠ [])).map String.ofList
  | none => []

end Tag

end EnvTemplate.Settings.Yaml
