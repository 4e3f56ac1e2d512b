import EnvTemplate.Proofs.Module.Distinct
import Mathlib.Data.List.Perm.Basic

/-!
# The leaves of a tree

The leaves of a tree are its items with the names that lead to them. Inserting an item clears its
place: whatever stood at that path, on the way to it or below it is gone afterwards, and the item
is the only leaf that comes.
-/
namespace EnvTemplate.Template

/-- The names that lead to a grouped item, its own name at the end. -/
def Item.place (item : Item) : List String := item.group.getD [] ++ [item.property]

/-- The names that lead to an item are those of its groups and its own. -/
theorem Item.mem_place_iff {item : Item} {name : String} :
    name ∈ item.place ↔ name ∈ item.group.getD [] ∨ name = item.property := by
  simp [place]

end EnvTemplate.Template

namespace EnvTemplate.Module

open Template (Item)

/-- One path is the other one or goes on from it. -/
def Overlap (left right : List String) : Prop := left <+: right ∨ right <+: left

instance : DecidableRel Overlap := fun _ _ => inferInstanceAs (Decidable (_ ∨ _))

/-- Paths that begin with a name overlap when the names agree and what follows overlaps. -/
theorem overlap_cons_iff {first second : String} {left right : List String} :
    Overlap (first :: left) (second :: right) ↔ first = second ∧ Overlap left right := by
  simp only [Overlap, List.cons_prefix_cons]
  grind

/-- The empty path overlaps with every path. -/
theorem overlap_nil (path : List String) : Overlap path [] := .inr List.nil_prefix

/-- Overlapping does not depend on the order. -/
theorem Overlap.symm {left right : List String} (overlap : Overlap left right) :
    Overlap right left := Or.symm overlap

/-- Leaves with their paths, without those whose paths overlap with the given one. -/
def clear (path : List String) (leaves : List (List String × Item)) : List (List String × Item) :=
  leaves.filter fun leaf => ¬Overlap leaf.1 path

/-- A leaf below a group of the given name. -/
def below (name : String) (leaf : List String × Item) : List String × Item :=
  (name :: leaf.1, leaf.2)

/-- Below the group that a path begins with, clearing the path clears the rest of it. -/
theorem clear_map_below (name : String) (path : List String)
    (leaves : List (List String × Item)) :
    clear (name :: path) (leaves.map (below name)) = (clear path leaves).map (below name) := by
  simp [clear, List.filter_map, Function.comp_def, below, overlap_cons_iff]

namespace Tree

variable {name : String} {item : Item} {change : Tree → Tree} {path : List String} {tree : Tree}

/-- The items of a tree with their paths, each path ending with the name of its item. -/
def leaves : Tree → List (List String × Item)
  | empty => []
  | leaf name item rest => ([name], item) :: rest.leaves
  | group name members rest => members.leaves.map (below name) ++ rest.leaves

/-- The path of a leaf begins with the name of a member. -/
theorem exists_of_mem_leaves {found : List String × Item} (member : found ∈ tree.leaves) :
    ∃ name ∈ tree.names, ∃ path, found.1 = name :: path := by
  induction tree with
  | empty => simp [leaves] at member
  | leaf held item rest ih =>
    rcases List.mem_cons.mp member with rfl | later
    · exact ⟨held, by simp [names], [], rfl⟩
    · obtain ⟨name, listed, path, begins⟩ := ih later
      exact ⟨name, by simp [names, listed], path, begins⟩
  | group held members rest _ ih =>
    rcases List.mem_append.mp member with inside | later
    · obtain ⟨inner, _, rfl⟩ := List.mem_map.mp inside
      exact ⟨held, by simp [names], inner.1, rfl⟩
    · obtain ⟨name, listed, path, begins⟩ := ih later
      exact ⟨name, by simp [names, listed], path, begins⟩

/-- Clearing a path leaves a tree alone that has no member of the path's first name. -/
theorem clear_leaves_of_notMem (absent : name ∉ tree.names) :
    clear (name :: path) tree.leaves = tree.leaves := by
  refine List.filter_eq_self.mpr fun found member => ?_
  obtain ⟨first, listed, later, begins⟩ := exists_of_mem_leaves member
  have other : first ≠ name := fun same => absent (same ▸ listed)
  simp [begins, overlap_cons_iff, other]

/-- An item of another name stays when a path is cleared. -/
theorem clear_leaf_of_ne {held : String} {found : Item} (different : held ≠ name) :
    clear (name :: path) (leaf held found tree).leaves =
      ([held], found) :: clear (name :: path) tree.leaves := by
  rw [leaves, clear, List.filter_cons_of_pos (by simp [overlap_cons_iff, different]), ← clear]

/-- An item on the way goes when a path is cleared, and nothing after it. -/
theorem clear_leaf_same {found : Item} (absent : name ∉ tree.names) :
    clear (name :: path) (leaf name found tree).leaves = tree.leaves := by
  rw [leaves, clear, List.filter_cons_of_neg (by simp [Overlap]), ← clear,
    clear_leaves_of_notMem absent]

/-- A group of another name stays when a path is cleared. -/
theorem clear_group_of_ne {held : String} {members : Tree} (different : held ≠ name) :
    clear (name :: path) (group held members tree).leaves =
      members.leaves.map (below held) ++ clear (name :: path) tree.leaves := by
  have stays : clear (name :: path) (members.leaves.map (below held)) =
      members.leaves.map (below held) := by
    refine List.filter_eq_self.mpr fun found member => ?_
    obtain ⟨inner, _, rfl⟩ := List.mem_map.mp member
    simp [below, overlap_cons_iff, different]
  rw [leaves, clear, List.filter_append, ← clear, ← clear, stays]

/-- In a group on the way, clearing a path clears the rest of it. -/
theorem clear_group_same {members : Tree} (absent : name ∉ tree.names) :
    clear (name :: path) (group name members tree).leaves =
      (clear path members.leaves).map (below name) ++ tree.leaves := by
  rw [leaves, clear, List.filter_append, ← clear, ← clear, clear_map_below,
    clear_leaves_of_notMem absent]

/-- Putting an item clears its name and adds the item. -/
theorem leaves_put_perm (distinct : tree.Distinct) :
    (put name item tree).leaves.Perm (([name], item) :: clear [name] tree.leaves) := by
  induction tree with
  | empty => exact .refl _
  | leaf held found rest ih =>
    by_cases same : held = name
    · subst same
      rw [put, if_pos rfl, clear_leaf_same distinct.1, leaves]
    · rw [put, if_neg same, clear_leaf_of_ne same, leaves]
      exact ((ih distinct.2).cons _).trans (.swap _ _ _)
  | group held members rest _ ih =>
    obtain ⟨fresh, _, outer⟩ := distinct
    by_cases same : held = name
    · subst same
      -- The whole group is below the name, so nothing of its members stays.
      have gone : clear [] members.leaves = [] := by simp [clear, overlap_nil]
      rw [put, if_pos rfl, clear_group_same fresh, gone, leaves, List.map_nil, List.nil_append]
    · rw [put, if_neg same, clear_group_of_ne same, leaves]
      exact ((ih outer).append_left _).trans List.perm_middle

/-- Changing a group clears a path through the group and adds an item at its end, when the change
does so with the rest of the path inside the group. -/
theorem leaves_alter_perm
    (changed : ∀ members : Tree, members.Distinct →
      (change members).leaves.Perm ((path, item) :: clear path members.leaves))
    (distinct : tree.Distinct) :
    (alter name change tree).leaves.Perm
      ((name :: path, item) :: clear (name :: path) tree.leaves) := by
  -- A group that has to be created holds the new item alone.
  have created : (change empty).leaves = [(path, item)] :=
    List.perm_singleton.mp (changed empty trivial)
  induction tree with
  | empty => simp [alter, leaves, created, below, clear]
  | leaf held found rest ih =>
    by_cases same : held = name
    · subst same
      rw [alter, if_pos rfl, clear_leaf_same distinct.1, leaves, created]
      exact .refl _
    · rw [alter, if_neg same, clear_leaf_of_ne same, leaves]
      exact ((ih distinct.2).cons _).trans (.swap _ _ _)
  | group held members rest _ ih =>
    obtain ⟨fresh, inner, outer⟩ := distinct
    by_cases same : held = name
    · subst same
      rw [alter, if_pos rfl, clear_group_same fresh, leaves]
      exact ((changed members inner).map (below held)).append_right _
    · rw [alter, if_neg same, clear_group_of_ne same, leaves]
      exact ((ih outer).append_left _).trans List.perm_middle

/-- An insertion clears the place of its item and adds the item there. -/
theorem leaves_insert_perm (path : List String) (distinct : tree.Distinct) :
    (insert item path tree).leaves.Perm
      ((path ++ [item.property], item) :: clear (path ++ [item.property]) tree.leaves) := by
  induction path generalizing tree with
  | nil => exact leaves_put_perm distinct
  | cons name path ih => exact leaves_alter_perm (fun _ inner => ih inner) distinct

/-- Inserting a list goes on from the tree of all its items but the last. -/
theorem ofItems_append_singleton (items : List Item) (item : Item) :
    ofItems (items ++ [item]) =
      if item.isGrouped then insert item (item.group.getD []) (ofItems items)
      else ofItems items := by
  by_cases grouped : item.isGrouped <;> simp [ofItems, List.filter_append, grouped]

end Tree

end EnvTemplate.Module
