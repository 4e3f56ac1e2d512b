import EnvTemplate.Template.Basic

/-!
# Trees of groups

The members of a group are kept in the order in which their names were first inserted. A member
is an item or a group with members of its own, and its name stands at most once in its group: an
item inserted under a taken name replaces the member of that name where it stands, and a group
inserted under the name of an item replaces that item.
-/
namespace EnvTemplate.Module

open Template (Item)

/-- The members of a group, in order. -/
inductive Tree
  /-- No members. -/
  | empty
  /-- An item, then the members after it. -/
  | leaf (name : String) (item : Item) (rest : Tree)
  /-- A group with its members, then the members after it. -/
  | group (name : String) (members : Tree) (rest : Tree)
deriving DecidableEq, Repr

namespace Tree

/-- Put an item under a name: in the place of the member of that name, or at the end. -/
def put (name : String) (item : Item) : Tree → Tree
  | empty => leaf name item empty
  | leaf other held rest =>
    if other = name then leaf name item rest else leaf other held (put name item rest)
  | group other members rest =>
    if other = name then leaf name item rest else group other members (put name item rest)

/-- Change the members of the group of a name, which is empty before the change when it has to be
created; a new group takes the place of the item of that name or the end. -/
def alter (name : String) (change : Tree → Tree) : Tree → Tree
  | empty => group name (change empty) empty
  | leaf other held rest =>
    if other = name then group name (change empty) rest
    else leaf other held (alter name change rest)
  | group other members rest =>
    if other = name then group name (change members) rest
    else group other members (alter name change rest)

/-- Insert an item under its property name into the group at the end of a path. -/
def insert (item : Item) : List String → Tree → Tree
  | [] => put item.property item
  | name :: path => alter name (insert item path)

/-- Insert the grouped items of a list, in order. -/
def ofItems (items : List Item) : Tree :=
  (items.filter (·.isGrouped)).foldl (fun tree item => tree.insert item (item.group.getD [])) empty

end Tree

end EnvTemplate.Module
