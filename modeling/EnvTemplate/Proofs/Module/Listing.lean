import EnvTemplate.Module.Source

/-!
# What a module says

The source of a module says less than the items it was made of: of an item, the name under which
it stands, its key, and either its choices or what its sample tells about its type. A listing
holds just that, in the order and the nesting of the module, and the source can be written from it.
-/
namespace EnvTemplate.Module

open Template (Item)

/-- What a module says about a value besides its key. -/
inductive Content
  /-- The values allowed, in order. -/
  | choices (values : List String)
  /-- The type, and the requirement or the default. -/
  | inferred (inference : Schema.Inference)
deriving DecidableEq, Repr

/-- What a module says about a value. -/
structure Entry where
  /-- The environment key. -/
  key : String
  /-- The choices or the type. -/
  content : Content
deriving DecidableEq, Repr

/-- The builder calls after the key. -/
def Content.calls : Content → String
  | .choices values => Schema.choiceCalls values
  | .inferred inference => Schema.inferredCalls inference

/-- What a module says about an item besides its key. -/
def Content.ofItem (item : Item) : Content :=
  match item.choices with
  | some (first :: others) => .choices (first :: others)
  | _ => .inferred (.ofSample item.sample)

/-- What a module says about an item. -/
def Entry.ofItem (item : Item) : Entry := ⟨item.key, .ofItem item⟩

/-- The builder chain of an entry. -/
def Entry.chain (entry : Entry) : String := "schema(\"" ++ entry.key ++ "\")" ++ entry.content.calls

/-- The builder chain of an item says what there is to say about the item. -/
theorem Entry.chain_ofItem (item : Item) : (Entry.ofItem item).chain = Schema.chain item := by
  rcases item with ⟨key, sample, property, path, _ | _ | ⟨choice, choices⟩⟩ <;> rfl

/-- The members of an object, in order. -/
inductive Outline
  /-- No members. -/
  | empty
  /-- A value, then the members after it. -/
  | entry (name : String) (value : Entry) (rest : Outline)
  /-- An object with its members, then the members after it. -/
  | group (name : String) (members : Outline) (rest : Outline)
deriving DecidableEq, Repr

namespace Outline

/-- The lines of the members. -/
def source (depth : Nat) : Outline → String
  | empty => ""
  | entry name value rest => indent depth ++ name ++ ": " ++ value.chain ++ ",\n" ++ rest.source depth
  | group name members rest =>
    indent depth ++ name ++ ": \x7b\n" ++ members.source (depth + 1) ++
      indent depth ++ "\x7d,\n" ++ rest.source depth

/-- Members followed by more members. -/
def append : Outline → Outline → Outline
  | empty, later => later
  | entry name value rest, later => entry name value (rest.append later)
  | group name members rest, later => group name members (rest.append later)

/-- Values as members. -/
def ofEntries : List (String × Entry) → Outline
  | [] => empty
  | (name, value) :: rest => entry name value (ofEntries rest)

/-- The groups in front of the first value. -/
def groups : Outline → Outline
  | group name members rest => group name members rest.groups
  | _ => empty

/-- The values that are members themselves. -/
def entries : Outline → List (String × Entry)
  | empty => []
  | entry name value rest => (name, value) :: rest.entries
  | group _ _ rest => rest.entries

/-- No value is a member itself. -/
def OnlyGroups : Outline → Prop
  | empty => True
  | entry _ _ _ => False
  | group _ _ rest => rest.OnlyGroups

variable {outline : Outline}

/-- The lines of members follow the lines of those before them. -/
theorem source_append (depth : Nat) (outline later : Outline) :
    (outline.append later).source depth = outline.source depth ++ later.source depth := by
  induction outline with
  | empty => simp [append, source]
  | entry name value rest ih => simp [append, source, ih, String.append_assoc]
  | group name members rest _ ih => simp [append, source, ih, String.append_assoc]

/-- Values are no groups. -/
theorem groups_ofEntries (values : List (String × Entry)) : (ofEntries values).groups = empty := by
  cases values <;> rfl

/-- All values are members. -/
theorem entries_ofEntries (values : List (String × Entry)) :
    (ofEntries values).entries = values := by
  induction values with
  | nil => rfl
  | cons value values ih => exact congrArg (value :: ·) ih

/-- Groups in front of values can be told from them. -/
theorem groups_append_ofEntries (nested : outline.OnlyGroups) (values : List (String × Entry)) :
    (outline.append (ofEntries values)).groups = outline := by
  induction outline with
  | empty => exact groups_ofEntries values
  | entry => exact nested.elim
  | group name members rest _ ih => exact congrArg (group name members) (ih nested)

/-- Values behind groups can be told from them. -/
theorem entries_append_ofEntries (nested : outline.OnlyGroups) (values : List (String × Entry)) :
    (outline.append (ofEntries values)).entries = values := by
  induction outline with
  | empty => exact entries_ofEntries values
  | entry => exact nested.elim
  | group name members rest _ ih => exact ih nested

end Outline

/-- What a module says about a tree. -/
def Tree.outline : Tree → Outline
  | .empty => .empty
  | .leaf name item rest => .entry name (.ofItem item) rest.outline
  | .group name members rest => .group name members.outline rest.outline

/-- The lines of a tree are those of what it says. -/
theorem Tree.source_outline (depth : Nat) (tree : Tree) :
    tree.outline.source depth = tree.source depth := by
  induction tree generalizing depth with
  | empty => rfl
  | leaf name item rest ih => simp [outline, Outline.source, source, itemLine, ih, Entry.chain_ofItem]
  | group name members rest inner outer => simp [outline, Outline.source, source, inner, outer]

/-- How a module imports and exports. -/
inductive Convention
  /-- With the statements of modules. -/
  | esModule
  /-- With calls and assignments. -/
  | commonJs
deriving DecidableEq, Repr

/-- The convention of a dialect; the sources of two dialects with one convention are the same. -/
def Dialect.convention : Dialect → Convention
  | js | ts => .esModule
  | cjs => .commonJs

namespace Convention

/-- The import at the top. -/
def header : Convention → String
  | esModule => Dialect.js.header
  | commonJs => Dialect.cjs.header

/-- What stands between the import and the members. -/
def lead : Convention → String
  | esModule => "loadEnv();\n\n" ++ Dialect.js.exportLead ++ "\x7b\n"
  | commonJs => "loadEnv();\n\n" ++ Dialect.cjs.exportLead ++ "\x7b\n"

end Convention

/-- The import depends on the convention only. -/
theorem Dialect.header_convention (dialect : Dialect) :
    dialect.convention.header = dialect.header := by
  cases dialect <;> rfl

/-- What follows the import depends on the convention only. -/
theorem Dialect.lead_convention (dialect : Dialect) :
    dialect.convention.lead = "loadEnv();\n\n" ++ dialect.exportLead ++ "\x7b\n" := by
  cases dialect <;> rfl

/-- What a module says. -/
structure Listing where
  /-- How it imports and exports. -/
  convention : Convention
  /-- The groups, nested and in order. -/
  groups : Outline
  /-- The values after the groups, in order. -/
  topLevel : List (String × Entry)
deriving DecidableEq, Repr

namespace Listing

/-- What the module for a list of items says. -/
def ofItems (dialect : Dialect) (items : List Item) : Listing where
  convention := dialect.convention
  groups := (Tree.ofItems items).outline
  topLevel := (Module.topLevel items).map fun item => (item.property, .ofItem item)

/-- The source of a module that says this. -/
def source (listing : Listing) : String :=
  listing.convention.header ++ listing.convention.lead ++
    (listing.groups.append (.ofEntries listing.topLevel)).source 1 ++ "\x7d);\n"

/-- The lines of the items outside all groups are those of their values. -/
theorem source_ofEntries (items : List Item) :
    (Outline.ofEntries (items.map fun item => (item.property, Entry.ofItem item))).source 1 =
      String.join (items.map fun item => itemLine 1 item.property item) := by
  induction items with
  | nil => rfl
  | cons item items ih =>
    simp [Outline.ofEntries, Outline.source, itemLine, Entry.chain_ofItem, ih]

/-- The source of the module for a list of items is written from what it says. -/
theorem source_ofItems (dialect : Dialect) (items : List Item) :
    (ofItems dialect items).source = Module.source dialect items := by
  have lines : ((Tree.ofItems items).outline.append (.ofEntries ((Module.topLevel items).map
      fun item => (item.property, .ofItem item)))).source 1 =
      (Tree.ofItems items).source 1 ++ topLevelSource items := by
    rw [Outline.source_append, Tree.source_outline, source_ofEntries, topLevelSource]
  rw [source, ofItems, lines, Dialect.header_convention, Dialect.lead_convention, Module.source]
  simp only [String.append_assoc]

end Listing

end EnvTemplate.Module
