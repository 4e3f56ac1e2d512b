import EnvTemplate.Proofs.Module.Distinct
import EnvTemplate.Proofs.Module.ListingReader
import EnvTemplate.Proofs.Schema.Literal
import EnvTemplate.Proofs.Template.Alphabet

/-!
# Modules of templates can be read back

Names stand in a module as they are and no value is checked, so it rests on the characters of
names, and on the form of literals, that the source of a module can be read. The items of a
template have names the reader expects, each insertion of an item keeps the members of a tree
readable, and the root has groups only; hence a module holds what its listing says and no less.
-/
namespace EnvTemplate.Module

open Name (IsName)
open Template (Item Options read)

variable {item : Item} {items : List Item} {name : String} {change : Tree → Tree} {tree : Tree}
  {outline later : Outline} {listing : Listing}

/-- What a module says about a value ends where it should, whatever its sample holds. -/
theorem Content.legible_ofItem (item : Item) : (Content.ofItem item).Legible := by
  unfold Content.ofItem
  split
  · exact List.cons_ne_nil _ _
  · cases inferred : Schema.Inference.ofSample item.sample with
    | number literal =>
      intro member
      exact absurd (Schema.isNumeric_of_ofSample inferred _ member) (by decide)
    | _ => trivial

/-- A key has no quote. -/
theorem Entry.legible_ofItem (legible : item.Legible) : (Entry.ofItem item).Legible where
  key member := absurd (legible.key _ member) (by decide)
  content := Content.legible_ofItem item

namespace Tree

/-- An item that is put under a name can be told from what follows it. -/
theorem legible_put (named : IsName name.toList) (legible : item.Legible)
    (held : tree.outline.Legible) : (put name item tree).outline.Legible := by
  have entry := Entry.legible_ofItem legible
  induction tree with
  | empty => exact ⟨named, entry, trivial⟩
  | leaf other _ rest ih =>
    obtain ⟨other_named, other_entry, rest_legible⟩ := held
    by_cases same : other = name
    · simp only [put, same, ↓reduceIte]
      exact ⟨named, entry, rest_legible⟩
    · simp only [put, same, ↓reduceIte]
      exact ⟨other_named, other_entry, ih rest_legible⟩
  | group other members rest _ ih =>
    obtain ⟨other_named, members_legible, rest_legible⟩ := held
    by_cases same : other = name
    · simp only [put, same, ↓reduceIte]
      exact ⟨named, entry, rest_legible⟩
    · simp only [put, same, ↓reduceIte]
      exact ⟨other_named, members_legible, ih rest_legible⟩

/-- The members of a changed group can be told apart when the change sees to that. -/
theorem legible_alter (named : IsName name.toList)
    (kept : ∀ members : Tree, members.outline.Legible → (change members).outline.Legible)
    (held : tree.outline.Legible) : (alter name change tree).outline.Legible := by
  induction tree with
  | empty => exact ⟨named, kept empty trivial, trivial⟩
  | leaf other _ rest ih =>
    obtain ⟨other_named, other_entry, rest_legible⟩ := held
    by_cases same : other = name
    · simp only [alter, same, ↓reduceIte]
      exact ⟨named, kept empty trivial, rest_legible⟩
    · simp only [alter, same, ↓reduceIte]
      exact ⟨other_named, other_entry, ih rest_legible⟩
  | group other members rest _ ih =>
    obtain ⟨other_named, members_legible, rest_legible⟩ := held
    by_cases same : other = name
    · simp only [alter, same, ↓reduceIte]
      exact ⟨named, kept members members_legible, rest_legible⟩
    · simp only [alter, same, ↓reduceIte]
      exact ⟨other_named, members_legible, ih rest_legible⟩

/-- An item that is inserted in groups with names can be told from what follows it. -/
theorem legible_insert {path : List String} (groups : ∀ name ∈ path, IsName name.toList)
    (legible : item.Legible) (held : tree.outline.Legible) :
    (insert item path tree).outline.Legible := by
  induction path generalizing tree with
  | nil => exact legible_put legible.property legible held
  | cons name path ih =>
    obtain ⟨named, others⟩ := List.forall_mem_cons.mp groups
    exact legible_alter named (fun _ inner => ih others inner) held

/-- The members of the tree of legible items can be told apart. -/
theorem legible_ofItems (legible : ∀ item ∈ items, item.Legible) :
    (ofItems items).outline.Legible :=
  ofItems_induction (motive := fun tree => tree.outline.Legible) trivial
    fun item member _ _ group _ held =>
      legible_insert ((legible item member).groups _ group) (legible item member) held

/-- Changing a group puts no value next to the groups. -/
theorem onlyGroups_alter (nested : tree.outline.OnlyGroups) :
    (alter name change tree).outline.OnlyGroups := by
  induction tree with
  | empty => trivial
  | leaf => exact nested.elim
  | group other members rest _ ih =>
    by_cases same : other = name
    · simp only [alter, same, ↓reduceIte]
      exact nested
    · simp only [alter, same, ↓reduceIte]
      exact ih nested

/-- The root of the tree of a list of items has groups only. -/
theorem onlyGroups_ofItems (items : List Item) : (ofItems items).outline.OnlyGroups :=
  ofItems_induction (motive := fun tree => tree.outline.OnlyGroups) trivial
    fun _ _ _ _ _ _ nested => onlyGroups_alter nested

end Tree

namespace Outline

/-- Members followed by more members can be told apart when both can. -/
theorem legible_append (front : outline.Legible) (back : later.Legible) :
    (outline.append later).Legible := by
  induction outline with
  | empty => exact back
  | entry name value rest ih => exact ⟨front.1, front.2.1, ih front.2.2⟩
  | group name members rest _ ih => exact ⟨front.1, front.2.1, ih front.2.2⟩

/-- Values can be told apart when each can be told from what follows. -/
theorem legible_ofEntries {values : List (String × Entry)}
    (each : ∀ value ∈ values, IsName value.1.toList ∧ value.2.Legible) :
    (ofEntries values).Legible := by
  induction values with
  | nil => trivial
  | cons value values ih =>
    obtain ⟨⟨named, entry⟩, others⟩ := List.forall_mem_cons.mp each
    exact ⟨named, entry, ih others⟩

end Outline

/-- The members of a module can be told apart, and its groups from its other values. -/
structure Listing.Legible (listing : Listing) : Prop where
  /-- The members of the groups can be told apart. -/
  groups : listing.groups.Legible
  /-- No value stands between the groups. -/
  nested : listing.groups.OnlyGroups
  /-- The values outside all groups can be told apart. -/
  topLevel : ∀ value ∈ listing.topLevel, IsName value.1.toList ∧ value.2.Legible

/-- Reading the source of a legible listing returns the listing. -/
theorem readModule_source_listing (legible : listing.Legible) :
    readModule listing.source.toList = some listing := by
  have members := Outline.legible_append legible.groups (Outline.legible_ofEntries legible.topLevel)
  have groups := Outline.groups_append_ofEntries legible.nested listing.topLevel
  have entries := Outline.entries_append_ofEntries legible.nested listing.topLevel
  have shape : listing.source.toList = listing.convention.header.toList ++
      (listing.convention.lead.toList ++
        (((listing.groups.append (.ofEntries listing.topLevel)).source 1).toList ++
          '\x7d' :: ");\n".toList)) := by
    have closing : "\x7d);\n".toList = '\x7d' :: ");\n".toList := rfl
    simp only [Listing.source, String.toList_append, List.append_assoc, closing]
  rw [shape, readModule, readHeader_append]
  generalize listing.groups.append (.ofEntries listing.topLevel) = outline at *
  have enough : outline.size ≤ ((outline.source 1).toList ++ '\x7d' :: ");\n".toList).length := by
    rw [List.length_append, List.length_cons]
    exact Nat.le_trans (outline.size_le_length 1) (Nat.add_le_add_left (Nat.le_add_left 1 _) _)
  have reads := readMembers_source members enough 1 0 ");\n".toList
  rw [List.replicate_zero, List.nil_append] at reads
  simp only [Option.bind_eq_bind, Option.bind_some, afterLead?_append, reads, ↓reduceIte, groups,
    entries]

/-- What the module for legible items says can be read back. -/
theorem Listing.legible_ofItems (dialect : Dialect) (legible : ∀ item ∈ items, item.Legible) :
    (Listing.ofItems dialect items).Legible where
  groups := Tree.legible_ofItems legible
  nested := Tree.onlyGroups_ofItems items
  topLevel := by
    intro value member
    obtain ⟨item, held, rfl⟩ := List.mem_map.mp member
    have listed := (List.mem_filter.mp held).1
    exact ⟨(legible item listed).property, Entry.legible_ofItem (legible item listed)⟩

/-- The module of a template is read back with the members that its items give. -/
theorem readModule_source_read (dialect : Dialect) (options : Options) (text : String) :
    readModule (source dialect (read options text).items).toList =
      some (.ofItems dialect (read options text).items) := by
  rw [← Listing.source_ofItems]
  exact readModule_source_listing
    (Listing.legible_ofItems dialect fun _ member => Template.legible_of_mem_items member)

end EnvTemplate.Module
