import EnvTemplate.Module.Dialect
import EnvTemplate.Module.Tree
import EnvTemplate.Schema.Inference

/-!
# The source of a module

A module imports the builders, loads the environment and exports one configuration object. The
object holds the groups first, each as a nested object, and after them the items without a group,
one line each.
-/
namespace EnvTemplate.Module

open Template (Item)

/-- The blanks before a line at a depth. -/
def indent (depth : Nat) : String := String.ofList (List.replicate (2 * depth) ' ')

/-- The line of an item. -/
def itemLine (depth : Nat) (name : String) (item : Item) : String :=
  indent depth ++ name ++ ": " ++ Schema.chain item ++ ",\n"

/-- The lines of the members of a group. -/
def Tree.source (depth : Nat) : Tree → String
  | .empty => ""
  | .leaf name item rest => itemLine depth name item ++ rest.source depth
  | .group name members rest =>
    indent depth ++ name ++ ": \x7b\n" ++ members.source (depth + 1) ++
      indent depth ++ "\x7d,\n" ++ rest.source depth

/-- The items outside all groups. -/
def topLevel (items : List Item) : List Item := items.filter (!·.isGrouped)

/-- The lines of the items outside all groups. -/
def topLevelSource (items : List Item) : String :=
  String.join ((topLevel items).map fun item => itemLine 1 item.property item)

/-- The source of the module for a list of items. -/
def source (dialect : Dialect) (items : List Item) : String :=
  dialect.header ++ "loadEnv();\n\n" ++ dialect.exportLead ++ "\x7b\n" ++
    (Tree.ofItems items).source 1 ++ topLevelSource items ++ "\x7d);\n"

end EnvTemplate.Module
