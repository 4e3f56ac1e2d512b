import EnvTemplate.Proofs.Module.Filled
import EnvTemplate.Proofs.Module.Lasting
import EnvTemplate.Proofs.Module.ReadBack

/-!
# The members of a module

The object of a module has the groups as members and after them the items without a group. Which
names and which values stand in it, at all depths, can be told from the items that stay: a grouped
item whose place no later grouped item takes, and every item without a group.
-/
namespace EnvTemplate.Template

/-- Only the name of an item without a group leads to it. -/
theorem Item.place_of_ungrouped {item : Item} (ungrouped : item.isGrouped = false) :
    item.place = [item.property] := by
  rcases item with ⟨key, sample, property, _ | _ | ⟨name, path⟩, choices⟩
  · rfl
  · rfl
  · contradiction

/-- All names that lead to a legible item are made of characters of names. -/
theorem Item.Legible.place {item : Item} (legible : item.Legible) :
    ∀ name ∈ item.place, Name.IsName name.toList := by
  intro name leads
  rcases Item.mem_place_iff.mp leads with listed | rfl
  · cases inside : item.group with
    | none => simp [inside] at listed
    | some path => exact legible.groups path inside name (by simpa [inside] using listed)
  · exact legible.property

end EnvTemplate.Template

namespace EnvTemplate.Module

open Template (Item Options read)

namespace Outline

/-- The names of the members themselves, in order. -/
def names : Outline → List String
  | empty => []
  | entry name _ rest => name :: rest.names
  | group name _ rest => name :: rest.names

/-- The names of the members at all depths. -/
def keys : Outline → List String
  | empty => []
  | entry name _ rest => name :: rest.keys
  | group name members rest => name :: (members.keys ++ rest.keys)

/-- The values at all depths, in order. -/
def values : Outline → List Entry
  | empty => []
  | entry _ value rest => value :: rest.values
  | group _ members rest => members.values ++ rest.values

/-- No object has two members of one name, at any depth. -/
def Distinct : Outline → Prop
  | empty => True
  | entry name _ rest => name ∉ rest.names ∧ rest.Distinct
  | group name members rest => name ∉ rest.names ∧ members.Distinct ∧ rest.Distinct

variable {outline later : Outline}

/-- Members after others have their names after those of the others. -/
@[simp] theorem names_append (outline later : Outline) :
    (outline.append later).names = outline.names ++ later.names := by
  induction outline with
  | empty => rfl
  | entry name value rest ih => simp [append, names, ih]
  | group name members rest _ ih => simp [append, names, ih]

/-- At all depths, members after others have their names after those of the others. -/
@[simp] theorem keys_append (outline later : Outline) :
    (outline.append later).keys = outline.keys ++ later.keys := by
  induction outline with
  | empty => rfl
  | entry name value rest ih => simp [append, keys, ih]
  | group name members rest _ ih => simp [append, keys, ih]

/-- Members after others have their values after those of the others. -/
@[simp] theorem values_append (outline later : Outline) :
    (outline.append later).values = outline.values ++ later.values := by
  induction outline with
  | empty => rfl
  | entry name value rest ih => simp [append, values, ih]
  | group name members rest _ ih => simp [append, values, ih]

/-- Values that are the members of an object have the names that they stand under. -/
@[simp] theorem names_ofEntries (entries : List (String × Entry)) :
    (ofEntries entries).names = entries.map (·.1) := by
  induction entries with
  | nil => rfl
  | cons first entries ih => simp [ofEntries, names, ih]

/-- Beside values there are no groups, so there are no names at greater depths. -/
@[simp] theorem keys_ofEntries (entries : List (String × Entry)) :
    (ofEntries entries).keys = entries.map (·.1) := by
  induction entries with
  | nil => rfl
  | cons first entries ih => simp [ofEntries, keys, ih]

/-- Values that are the members of an object are all the values in it. -/
@[simp] theorem values_ofEntries (entries : List (String × Entry)) :
    (ofEntries entries).values = entries.map (·.2) := by
  induction entries with
  | nil => rfl
  | cons first entries ih => simp [ofEntries, values, ih]

/-- Members followed by others are distinct when both are and share no name. -/
theorem distinct_append_iff :
    (outline.append later).Distinct ↔
      outline.Distinct ∧ later.Distinct ∧ ∀ name ∈ outline.names, name ∉ later.names := by
  induction outline with
  | empty => simp [append, Distinct, names]
  | entry name value rest ih =>
    simp only [append, Distinct, names, names_append, List.mem_append, List.forall_mem_cons, ih]
    grind
  | group name members rest _ ih =>
    simp only [append, Distinct, names, names_append, List.mem_append, List.forall_mem_cons, ih]
    grind

/-- Values are distinct members when no two of them stand under one name. -/
theorem distinct_ofEntries_iff (entries : List (String × Entry)) :
    (ofEntries entries).Distinct ↔ (entries.map (·.1)).Nodup := by
  induction entries with
  | nil => simp [ofEntries, Distinct]
  | cons first entries ih =>
    rw [ofEntries, Distinct, ih, names_ofEntries, List.map_cons, List.nodup_cons]

end Outline

namespace Tree

variable {name : String} {tree : Tree}

/-- What a tree says has the members of its root, under the same names. -/
theorem names_outline (tree : Tree) : tree.outline.names = tree.names := by
  induction tree with
  | empty => rfl
  | leaf name item rest ih => simp [outline, Outline.names, names, ih]
  | group name members rest _ ih => simp [outline, Outline.names, names, ih]

/-- What a tree says has no two members of one name where the tree has none. -/
theorem distinct_outline_iff : tree.outline.Distinct ↔ tree.Distinct := by
  induction tree with
  | empty => exact Iff.rfl
  | leaf name item rest ih => simp [outline, Outline.Distinct, Distinct, names_outline, ih]
  | group name members rest inner outer =>
    simp [outline, Outline.Distinct, Distinct, names_outline, inner, outer]

/-- The values in a tree are those of its leaves. -/
theorem values_outline (tree : Tree) :
    tree.outline.values = tree.leaves.map fun leaf => Entry.ofItem leaf.2 := by
  induction tree with
  | empty => rfl
  | leaf name item rest ih => simp [outline, Outline.values, leaves, ih]
  | group name members rest inner outer =>
    simp [outline, Outline.values, leaves, inner, outer, below, Function.comp_def]

/-- The names in a filled tree are those on the paths of its leaves. -/
theorem mem_keys_outline_iff (filled : tree.Filled) :
    name ∈ tree.outline.keys ↔ ∃ leaf ∈ tree.leaves, name ∈ leaf.1 := by
  induction tree with
  | empty => simp [outline, Outline.keys, leaves]
  | leaf held item rest ih => simp [outline, Outline.keys, leaves, ih filled]
  | group held members rest inner outer =>
    obtain ⟨nonempty, inside, after⟩ := filled
    -- A member stands in the group, so that the name of the group is on its path.
    obtain ⟨first, member⟩ := List.exists_mem_of_ne_nil _ (leaves_ne_nil inside nonempty)
    simp only [outline, Outline.keys, leaves, List.mem_cons, List.mem_append, List.mem_map,
      inner inside, outer after, below]
    constructor
    · rintro (rfl | ⟨leaf, listed, held⟩ | ⟨leaf, listed, held⟩)
      · exact ⟨_, .inl ⟨first, member, rfl⟩, List.mem_cons_self⟩
      · exact ⟨_, .inl ⟨leaf, listed, rfl⟩, List.mem_cons_of_mem _ held⟩
      · exact ⟨leaf, .inr listed, held⟩
    · rintro ⟨_, ⟨leaf, listed, rfl⟩ | listed, held⟩
      · rcases List.mem_cons.mp held with same | deeper
        · exact .inl same
        · exact .inr (.inl ⟨leaf, listed, deeper⟩)
      · exact .inr (.inr ⟨_, listed, held⟩)

/-- The groups at the root are those that the path of some item begins with. -/
theorem mem_names_ofItems_iff {items : List Item} :
    name ∈ (ofItems items).names ↔ ∃ item ∈ items, ∃ path, item.group = some (name :: path) := by
  induction items using List.reverseRecOn with
  | nil => simp [ofItems, names]
  | append_singleton items item ih =>
    rw [ofItems_append_singleton]
    simp only [List.mem_append, List.mem_singleton, or_and_right, exists_or, exists_eq_left, ← ih]
    by_cases grouped : item.isGrouped
    · obtain ⟨first, path, inside⟩ := Template.Item.isGrouped_iff.mp grouped
      simp [grouped, inside, insert, names_alter, mem_withName, or_comm, eq_comm]
    · have outside : ¬∃ path, item.group = some (name :: path) := by
        rintro ⟨path, inside⟩
        exact grouped (Template.Item.isGrouped_iff.mpr ⟨name, path, inside⟩)
      simp [grouped, outside]

end Tree

variable {items : List Item}

namespace Listing

/-- The members of the object of the module. -/
def members (listing : Listing) : Outline := listing.groups.append (.ofEntries listing.topLevel)

/-- The values of the module are those of the items that stay. -/
theorem values_members_perm (dialect : Dialect) (items : List Item) :
    (ofItems dialect items).members.values.Perm ((staying items).map Entry.ofItem) := by
  have leaves := (leaves_perm_lasting items).map fun leaf => Entry.ofItem leaf.2
  rw [members, ofItems, Outline.values_append, Outline.values_ofEntries, Tree.values_outline]
  refine .trans ?_ ((perm_staying items).map Entry.ofItem)
  rw [List.map_append]
  simpa [Function.comp_def] using leaves.append_right _

/-- The names in the module are those that lead to the items that stay. -/
theorem mem_keys_members_iff {dialect : Dialect} {name : String} :
    name ∈ (ofItems dialect items).members.keys ↔ ∃ item ∈ staying items, name ∈ item.place := by
  rw [members, ofItems, Outline.keys_append, Outline.keys_ofEntries, List.mem_append,
    Tree.mem_keys_outline_iff (Tree.ofItems_filled items)]
  simp only [← (perm_staying items).mem_iff, List.mem_append, or_and_right, exists_or]
  refine or_congr ?_ ?_
  · simp [(leaves_perm_lasting items).mem_iff]
  · simp only [List.map_map, List.mem_map, Function.comp_apply]
    refine exists_congr fun item => and_congr_right fun outside => ?_
    have ungrouped : item.isGrouped = false := by simpa [topLevel] using (List.mem_filter.mp outside).2
    rw [Item.place_of_ungrouped ungrouped, List.mem_singleton, eq_comm]

end Listing

end EnvTemplate.Module
