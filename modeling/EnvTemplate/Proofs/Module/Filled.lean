import EnvTemplate.Proofs.Module.Leaves

/-!
# Groups have members

A group is only created to insert an item into it, and a member is replaced but never removed. So
no group of a tree is without members, at any depth, and each group leads to an item.
-/
namespace EnvTemplate.Module.Tree

open Template (Item)

variable {name : String} {item : Item} {change : Tree → Tree} {tree : Tree} {path : List String}

/-- Every group has a member, at any depth. -/
def Filled : Tree → Prop
  | empty => True
  | leaf _ _ rest => rest.Filled
  | group _ members rest => members ≠ empty ∧ members.Filled ∧ rest.Filled

/-- A tree into which an item is put is not empty. -/
theorem put_ne_empty (name : String) (item : Item) (tree : Tree) : put name item tree ≠ empty := by
  cases tree with
  | empty => simp [put]
  | leaf => unfold put; split <;> simp
  | group => unfold put; split <;> simp

/-- A tree in which a group is changed is not empty, as it has that group. -/
theorem alter_ne_empty (name : String) (change : Tree → Tree) (tree : Tree) :
    alter name change tree ≠ empty := by
  cases tree with
  | empty => simp [alter]
  | leaf => unfold alter; split <;> simp
  | group => unfold alter; split <;> simp

/-- A tree into which an item is inserted is not empty. -/
theorem insert_ne_empty (item : Item) (path : List String) (tree : Tree) :
    insert item path tree ≠ empty := by
  cases path with
  | nil => exact put_ne_empty _ _ _
  | cons name path => exact alter_ne_empty _ _ _

/-- Putting an item under a name keeps the groups filled. -/
theorem put_filled (filled : tree.Filled) : (put name item tree).Filled := by
  induction tree with
  | empty => trivial
  | leaf held _ rest ih =>
    by_cases same : held = name
    · simpa only [put, same, ↓reduceIte, Filled] using filled
    · simpa only [put, same, ↓reduceIte, Filled] using ih filled
  | group held members rest _ ih =>
    obtain ⟨nonempty, inner, outer⟩ := filled
    by_cases same : held = name
    · simpa only [put, same, ↓reduceIte, Filled] using outer
    · simp only [put, same, ↓reduceIte, Filled]
      exact ⟨nonempty, inner, ih outer⟩

/-- Changing a group keeps the groups filled when the change fills that group. -/
theorem alter_filled (kept : ∀ members : Tree, members.Filled → (change members).Filled)
    (fills : ∀ members, change members ≠ empty) (filled : tree.Filled) :
    (alter name change tree).Filled := by
  induction tree with
  | empty => exact ⟨fills empty, kept empty trivial, trivial⟩
  | leaf held _ rest ih =>
    by_cases same : held = name
    · simp only [alter, same, ↓reduceIte, Filled]
      exact ⟨fills empty, kept empty trivial, filled⟩
    · simpa only [alter, same, ↓reduceIte, Filled] using ih filled
  | group held members rest _ ih =>
    obtain ⟨nonempty, inner, outer⟩ := filled
    by_cases same : held = name
    · simp only [alter, same, ↓reduceIte, Filled]
      exact ⟨fills members, kept members inner, outer⟩
    · simp only [alter, same, ↓reduceIte, Filled]
      exact ⟨nonempty, inner, ih outer⟩

/-- Inserting an item keeps the groups filled: those that are created for it lead to it. -/
theorem insert_filled (path : List String) (filled : tree.Filled) :
    (insert item path tree).Filled := by
  induction path generalizing tree with
  | nil => exact put_filled filled
  | cons name path ih => exact alter_filled (fun _ => ih) (insert_ne_empty item path) filled

/-- The tree of a list of items has no group without members. -/
theorem ofItems_filled (items : List Item) : (ofItems items).Filled :=
  ofItems_induction trivial fun _ _ _ _ _ _ filled => insert_filled _ filled

/-- Members that are filled hold an item somewhere. -/
theorem leaves_ne_nil (filled : tree.Filled) (nonempty : tree ≠ empty) : tree.leaves ≠ [] := by
  induction tree with
  | empty => contradiction
  | leaf => exact List.cons_ne_nil _ _
  | group held members rest ih _ =>
    have inside : members.leaves ≠ [] := ih filled.2.1 filled.1
    rw [leaves]
    exact List.append_ne_nil_of_left_ne_nil (mt List.map_eq_nil_iff.mp inside) _

end EnvTemplate.Module.Tree
