import EnvTemplate.Proofs.Module.Members

/-!
# Siblings

Inside groups an insertion replaces the member of the same name, so the members of a group have
different names, and so have the groups of the outermost object. The items without a group follow
there as they come, and nothing keeps two of them from having one name, or one of them from having
the name of a group.
-/
namespace EnvTemplate.Module

open Template (Item Options read)

/-- The members of the outermost object differ when those without a group do, and none of these has
the name with which the path of an item begins. -/
theorem distinct_members_ofItems_iff (dialect : Dialect) (items : List Item) :
    (Listing.ofItems dialect items).members.Distinct ↔
      ((topLevel items).map (·.property)).Nodup ∧
        ∀ outer ∈ topLevel items, ∀ inner ∈ items, ∀ path,
          inner.group ≠ some (outer.property :: path) := by
  have groups : (Tree.ofItems items).outline.Distinct :=
    Tree.distinct_outline_iff.mpr (Tree.ofItems_distinct items)
  have apart : (∀ name ∈ (Tree.ofItems items).outline.names,
        name ∉ (topLevel items).map (·.property)) ↔
      ∀ outer ∈ topLevel items, ∀ inner ∈ items, ∀ path,
        inner.group ≠ some (outer.property :: path) := by
    simp only [Tree.names_outline, Tree.mem_names_ofItems_iff, List.mem_map]
    constructor
    · intro apart outer listed inner member path begins
      exact apart outer.property ⟨inner, member, path, begins⟩ ⟨outer, listed, rfl⟩
    · rintro apart name ⟨inner, member, path, begins⟩ ⟨outer, listed, rfl⟩
      exact apart outer listed inner member path begins
  rw [Listing.members, Outline.distinct_append_iff, Outline.distinct_ofEntries_iff,
    Outline.names_ofEntries]
  simp only [Listing.ofItems, List.map_map, Function.comp_def]
  rw [apart]
  exact ⟨fun distinct => distinct.2, fun distinct => ⟨groups, distinct⟩⟩

/-- The members of all groups have different names, and so have the groups of the outermost object.
All members of that object have different names exactly when no two items without a group have one
name and none of them has the name with which the path of some item begins. -/
theorem distinct_members_iff (dialect : Dialect) (options : Options) (text : String) :
    let items := (read options text).items
    ∃ listing, readModule (source dialect items).toList = some listing ∧
      listing.groups.Distinct ∧
      (listing.members.Distinct ↔
        ((topLevel items).map (·.property)).Nodup ∧
          ∀ outer ∈ topLevel items, ∀ inner ∈ items, ∀ path,
            inner.group ≠ some (outer.property :: path)) := by
  intro items
  have reads : readModule (source dialect items).toList = some (.ofItems dialect items) :=
    readModule_source_read dialect options text
  -- The rest holds of any items, whatever they were read from.
  clear_value items
  exact ⟨_, reads, Tree.distinct_outline_iff.mpr (Tree.ofItems_distinct items),
    distinct_members_ofItems_iff dialect items⟩

/-- A key that is taken as it comes twice names two members of the outermost object. -/
theorem repeated_member :
    ∃ listing, readModule (source .js (read .flattened "FOO=a\nFOO=b\n").items).toList =
        some listing ∧
      ¬listing.members.Distinct := by
  have repeated : ¬((topLevel (read .flattened "FOO=a\nFOO=b\n").items).map (·.property)).Nodup := by
    decide
  refine ⟨_, readModule_source_read .js .flattened "FOO=a\nFOO=b\n", ?_⟩
  rw [distinct_members_ofItems_iff]
  exact fun distinct => repeated distinct.1

end EnvTemplate.Module
