import EnvTemplate.Module.Tree

/-!
# Names in a group

A tree is built by inserting items one after another, and an insertion changes the first member of
each name on its way. That a name stands at most once in its group is therefore not a matter of
course: it holds of the empty tree, and each insertion keeps it at every depth.
-/
namespace EnvTemplate.Template

/-- An item is grouped when its group path names at least one group. -/
theorem Item.isGrouped_iff {item : Item} :
    item.isGrouped = true ↔ ∃ name path, item.group = some (name :: path) := by
  rcases item with ⟨key, sample, property, _ | _ | ⟨name, path⟩, choices⟩ <;> simp [isGrouped]

end EnvTemplate.Template

namespace EnvTemplate.Module.Tree

open Template (Item)

variable {name other : String} {item : Item} {change : Tree → Tree} {tree : Tree}

/-- The names of the members of a group, in order. -/
def names : Tree → List String
  | empty => []
  | leaf name _ rest => name :: rest.names
  | group name _ rest => name :: rest.names

/-- No group has two members of one name, at any depth. -/
def Distinct : Tree → Prop
  | empty => True
  | leaf name _ rest => name ∉ rest.names ∧ rest.Distinct
  | group name members rest => name ∉ rest.names ∧ members.Distinct ∧ rest.Distinct

/-- The names of a group after one of them was set: a taken name keeps its position, and a new one
comes last. -/
def withName (name : String) (names : List String) : List String :=
  if name ∈ names then names else names ++ [name]

/-- The name of the first member is taken. -/
theorem withName_cons_same (name : String) (names : List String) :
    withName name (name :: names) = name :: names := if_pos List.mem_cons_self

/-- A name that the first member does not have is set among the names after it. -/
theorem withName_cons_of_ne (different : other ≠ name) (names : List String) :
    withName name (other :: names) = other :: withName name names := by
  by_cases taken : name ∈ names
  · rw [withName, if_pos (List.mem_cons_of_mem _ taken), withName, if_pos taken]
  · have untaken : name ∉ other :: names := List.not_mem_cons_of_ne_of_not_mem different.symm taken
    rw [withName, if_neg untaken, withName, if_neg taken, List.cons_append]

/-- Setting a name adds that name at most. -/
theorem mem_withName {names : List String} :
    other ∈ withName name names ↔ other = name ∨ other ∈ names := by
  by_cases taken : name ∈ names
  · rw [withName, if_pos taken]
    constructor
    · exact .inr
    · rintro (rfl | member)
      · exact taken
      · exact member
  · rw [withName, if_neg taken, List.mem_append, List.mem_singleton, or_comm]

/-- Putting an item sets its name. -/
theorem names_put : (put name item tree).names = withName name tree.names := by
  induction tree with
  | empty => rfl
  | leaf held _ rest ih =>
    by_cases same : held = name
    · subst same
      rw [put, if_pos rfl, names, names, withName_cons_same]
    · rw [put, if_neg same, names, names, withName_cons_of_ne same, ih]
  | group held _ rest _ ih =>
    by_cases same : held = name
    · subst same
      rw [put, if_pos rfl, names, names, withName_cons_same]
    · rw [put, if_neg same, names, names, withName_cons_of_ne same, ih]

/-- Changing a group sets its name. -/
theorem names_alter : (alter name change tree).names = withName name tree.names := by
  induction tree with
  | empty => rfl
  | leaf held _ rest ih =>
    by_cases same : held = name
    · subst same
      rw [alter, if_pos rfl, names, names, withName_cons_same]
    · rw [alter, if_neg same, names, names, withName_cons_of_ne same, ih]
  | group held _ rest _ ih =>
    by_cases same : held = name
    · subst same
      rw [alter, if_pos rfl, names, names, withName_cons_same]
    · rw [alter, if_neg same, names, names, withName_cons_of_ne same, ih]

/-- Putting an item keeps the names distinct. -/
theorem put_distinct (distinct : tree.Distinct) : (put name item tree).Distinct := by
  induction tree with
  | empty => simp [put, Distinct, names]
  | leaf held _ rest ih =>
    by_cases same : held = name
    · simpa [put, same, Distinct] using distinct
    · simp only [put, same, ↓reduceIte, Distinct, names_put, mem_withName, false_or]
      exact ⟨distinct.1, ih distinct.2⟩
  | group held members rest _ ih =>
    obtain ⟨fresh, inner, outer⟩ := distinct
    by_cases same : held = name
    · simp only [put, same, ↓reduceIte, Distinct]
      exact ⟨same ▸ fresh, outer⟩
    · simp only [put, same, ↓reduceIte, Distinct, names_put, mem_withName, false_or]
      exact ⟨fresh, inner, ih outer⟩

/-- Changing a group keeps the names distinct when the change does so inside the group. -/
theorem alter_distinct (kept : ∀ members : Tree, members.Distinct → (change members).Distinct)
    (distinct : tree.Distinct) : (alter name change tree).Distinct := by
  induction tree with
  | empty => exact ⟨by simp [names], kept empty trivial, trivial⟩
  | leaf held _ rest ih =>
    by_cases same : held = name
    · simp only [alter, same, ↓reduceIte, Distinct]
      exact ⟨same ▸ distinct.1, kept empty trivial, distinct.2⟩
    · simp only [alter, same, ↓reduceIte, Distinct, names_alter, mem_withName, false_or]
      exact ⟨distinct.1, ih distinct.2⟩
  | group held members rest _ ih =>
    obtain ⟨fresh, inner, outer⟩ := distinct
    by_cases same : held = name
    · simp only [alter, same, ↓reduceIte, Distinct]
      exact ⟨same ▸ fresh, kept members inner, outer⟩
    · simp only [alter, same, ↓reduceIte, Distinct, names_alter, mem_withName, false_or]
      exact ⟨fresh, inner, ih outer⟩

/-- An insertion keeps the names distinct. -/
theorem insert_distinct (path : List String) (distinct : tree.Distinct) :
    (insert item path tree).Distinct := by
  induction path generalizing tree with
  | nil => exact put_distinct distinct
  | cons name path ih => exact alter_distinct (fun _ inner => ih inner) distinct

/-- What holds of the empty tree, and is kept by the insertion of each grouped item of a list,
holds of the tree of the list. -/
theorem ofItems_induction {motive : Tree → Prop} {items : List Item} (start : motive empty)
    (step : ∀ item ∈ items, ∀ name path, item.group = some (name :: path) →
      ∀ tree, motive tree → motive (insert item (name :: path) tree)) :
    motive (ofItems items) := by
  refine List.foldlRecOn _ _ start fun tree held item member => ?_
  obtain ⟨listed, grouped⟩ := List.mem_filter.mp member
  obtain ⟨name, path, group⟩ := Item.isGrouped_iff.mp grouped
  simpa only [group, Option.getD_some] using step item listed name path group tree held

/-- The tree of a list of items has distinct names in every group. -/
theorem ofItems_distinct (items : List Item) : (ofItems items).Distinct :=
  ofItems_induction trivial fun _ _ _ _ _ _ distinct => insert_distinct _ distinct

end EnvTemplate.Module.Tree
