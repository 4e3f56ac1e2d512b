import EnvTemplate.Module.Source
import EnvTemplate.Proofs.Module.Filled
import Mathlib.Data.List.Induction

/-!
# The nodes of a tree

The nodes of a tree are its root and the groups in it, at all depths. A group is without members for
a moment when it is created, or when it takes the place of an item, so that what holds of the nodes
holds only before and after a whole insertion. Main statement: whatever is inserted, and wherever, the
members of each node have different names, each group has a member and leads to the line of an item,
and each item stands under its own name at the node that it was inserted into.
-/
namespace EnvTemplate.Module.Tree

open Template (Item)

variable {tree : Tree} {item : Item} {path : List String} {insertions : List (List String × Item)}

/-- A node below a group of the given name. -/
def under (name : String) (node : List String × Tree) : List String × Tree :=
  (name :: node.1, node.2)

/-- The groups in a tree, at all depths, each with the names that lead to it. -/
def groups : Tree → List (List String × Tree)
  | empty => []
  | leaf _ _ rest => rest.groups
  | group name members rest => (([], members) :: members.groups).map (under name) ++ rest.groups

/-- The root of a tree, to which no names lead, and the groups in it. -/
def nodes (tree : Tree) : List (List String × Tree) := ([], tree) :: tree.groups

/-- The items among the members themselves, with their names. -/
def entries : Tree → List (String × Item)
  | empty => []
  | leaf name item rest => (name, item) :: rest.entries
  | group _ _ rest => rest.entries

/-- What a tree hands down to the members of its groups holds in all groups. -/
theorem forall_groups {p q : Tree → Prop}
    (later : ∀ {name item rest}, p (leaf name item rest) → p rest)
    (inside : ∀ {name members rest}, p (group name members rest) → q members ∧ p members ∧ p rest)
    (holds : p tree) : ∀ node ∈ tree.groups, q node.2 ∧ p node.2 := by
  induction tree with
  | empty => simp [groups]
  | leaf name item rest ih => exact ih (later holds)
  | group name members rest inner outer =>
    obtain ⟨first, within, behind⟩ := inside holds
    rw [groups, List.forall_mem_append, List.forall_mem_map, List.forall_mem_cons]
    exact ⟨⟨⟨first, within⟩, inner within⟩, outer behind⟩

/-- The names of the members themselves are distinct when all names are. -/
theorem Distinct.nodup_names (distinct : tree.Distinct) : tree.names.Nodup := by
  induction tree with
  | empty => exact List.nodup_nil
  | leaf name item rest ih => exact List.nodup_cons.mpr ⟨distinct.1, ih distinct.2⟩
  | group name members rest _ ih => exact List.nodup_cons.mpr ⟨distinct.1, ih distinct.2.2⟩

/-- Distinct names are distinct at each node. -/
theorem Distinct.nodup_of_node (distinct : tree.Distinct) :
    ∀ node ∈ tree.nodes, node.2.names.Nodup := by
  have inside : ∀ node ∈ tree.groups, True ∧ node.2.Distinct :=
    forall_groups (fun distinct => distinct.2) (fun distinct => ⟨trivial, distinct.2⟩) distinct
  exact List.forall_mem_cons.mpr ⟨distinct.nodup_names, fun node listed =>
    (inside node listed).2.nodup_names⟩

/-- In a filled tree each group has members and is filled. -/
theorem Filled.of_group (filled : tree.Filled) :
    ∀ node ∈ tree.groups, node.2 ≠ empty ∧ node.2.Filled :=
  forall_groups (fun filled => filled) (fun filled => filled) filled

/-- What a group leads to, the tree leads to. -/
theorem mem_leaves_of_group {node : List String × Tree} (listed : node ∈ tree.groups)
    {found : List String × Item} (member : found ∈ node.2.leaves) :
    (node.1 ++ found.1, found.2) ∈ tree.leaves := by
  induction tree generalizing node with
  | empty => simp [groups] at listed
  | leaf name item rest ih => exact List.mem_cons_of_mem _ (ih listed member)
  | group name members rest inner outer =>
    rw [leaves]
    rcases List.mem_append.mp listed with inside | behind
    · refine List.mem_append_left _ (List.mem_map.mpr ?_)
      obtain ⟨node, within, rfl⟩ := List.mem_map.mp inside
      rcases List.mem_cons.mp within with rfl | deeper
      · exact ⟨found, member, rfl⟩
      · exact ⟨_, inner deeper member, rfl⟩
    · exact List.mem_append_right _ (outer behind member)

/-- What a node leads to, the tree leads to. -/
theorem mem_leaves_of_node {node : List String × Tree} (listed : node ∈ tree.nodes)
    {found : List String × Item} (member : found ∈ node.2.leaves) :
    (node.1 ++ found.1, found.2) ∈ tree.leaves := by
  rcases List.mem_cons.mp listed with rfl | inside
  · exact member
  · exact mem_leaves_of_group inside member

/-- A node leads to the items among its members. -/
theorem mem_leaves_of_entry {entry : String × Item} (member : entry ∈ tree.entries) :
    ([entry.1], entry.2) ∈ tree.leaves := by
  induction tree with
  | empty => simp [entries] at member
  | leaf name item rest ih =>
    rcases List.mem_cons.mp member with rfl | later
    · exact List.mem_cons_self
    · exact List.mem_cons_of_mem _ (ih later)
  | group name members rest _ ih => exact List.mem_append_right _ (ih member)

/-- The source of a tree has a line for each item that it leads to, as deep as the item. -/
theorem itemLine_infix_source {found : List String × Item} (member : found ∈ tree.leaves)
    (depth : Nat) :
    ∃ front name, found.1 = front ++ [name] ∧
      (itemLine (depth + front.length) name found.2).toList <:+: (tree.source depth).toList := by
  induction tree generalizing depth found with
  | empty => simp [leaves] at member
  | leaf name item rest ih =>
    rw [source, String.toList_append]
    rcases List.mem_cons.mp member with rfl | later
    · exact ⟨[], name, rfl, (List.prefix_append _ _).isInfix⟩
    · obtain ⟨front, last, split, line⟩ := ih later depth
      exact ⟨front, last, split, line.trans (List.suffix_append _ _).isInfix⟩
  | group name members rest inner outer =>
    rcases List.mem_append.mp member with inside | later
    · obtain ⟨found, within, rfl⟩ := List.mem_map.mp inside
      obtain ⟨front, last, split, line⟩ := inner within (depth + 1)
      refine ⟨name :: front, last, by rw [below, split]; rfl, ?_⟩
      have deeper : depth + (name :: front).length = depth + 1 + front.length := by
        rw [List.length_cons]
        omega
      rw [deeper]
      refine line.trans ⟨(indent depth ++ name ++ ": \x7b\n").toList,
        (indent depth ++ "\x7d,\n" ++ rest.source depth).toList, ?_⟩
      simp [source]
    · obtain ⟨front, last, split, line⟩ := outer later depth
      refine ⟨front, last, split, line.trans ?_⟩
      rw [source, String.toList_append]
      exact (List.suffix_append _ _).isInfix

/-- The tree of insertions, each at a path. -/
def ofInsertions (insertions : List (List String × Item)) : Tree :=
  insertions.foldl (fun tree insertion => insert insertion.2 insertion.1 tree) empty

/-- What holds of a tree between two insertions. -/
structure Sound (insertions : List (List String × Item)) (tree : Tree) : Prop where
  /-- No group has two members of one name. -/
  distinct : tree.Distinct
  /-- Every group has a member. -/
  filled : tree.Filled
  /-- Each item is where it was inserted, under its own name. -/
  placed : ∀ found ∈ tree.leaves, ∃ insertion ∈ insertions,
    found = (insertion.1 ++ [insertion.2.property], insertion.2)

/-- An insertion leaves a tree sound. -/
theorem Sound.insert (sound : tree.Sound insertions) (path : List String) (item : Item) :
    (tree.insert item path).Sound (insertions ++ [(path, item)]) where
  distinct := insert_distinct path sound.distinct
  filled := insert_filled path sound.filled
  placed found member := by
    have cleared := (leaves_insert_perm path sound.distinct).mem_iff.mp member
    rcases List.mem_cons.mp cleared with rfl | stayed
    · exact ⟨(path, item), by simp, rfl⟩
    · obtain ⟨insertion, listed, same⟩ := sound.placed found (List.mem_of_mem_filter stayed)
      exact ⟨insertion, List.mem_append_left _ listed, same⟩

/-- Any insertions give a sound tree. -/
theorem sound_ofInsertions (insertions : List (List String × Item)) :
    (ofInsertions insertions).Sound insertions := by
  induction insertions using List.reverseRecOn with
  | nil => exact ⟨trivial, trivial, fun found member => by simp [ofInsertions, leaves] at member⟩
  | append_singleton insertions insertion ih =>
    rw [ofInsertions, List.foldl_append, ← ofInsertions]
    exact ih.insert insertion.1 insertion.2

/-- In a sound tree the last name that leads to an item is its own, and those before it are those of
the group that it was inserted into. -/
theorem Sound.of_leaf (sound : tree.Sound insertions) {name : String}
    (member : (path ++ [name], item) ∈ tree.leaves) :
    name = item.property ∧ (path, item) ∈ insertions := by
  obtain ⟨⟨place, _⟩, inserted, same⟩ := sound.placed _ member
  obtain ⟨split, rfl⟩ := Prod.mk.inj same
  obtain ⟨rfl, last⟩ := List.append_inj' split rfl
  exact ⟨List.singleton_inj.mp last, inserted⟩

/-- In a sound tree an item among the members of a node was inserted there. -/
theorem Sound.of_entry (sound : tree.Sound insertions) {node : List String × Tree}
    (listed : node ∈ tree.nodes) {entry : String × Item} (member : entry ∈ node.2.entries) :
    entry.1 = entry.2.property ∧ (node.1, entry.2) ∈ insertions :=
  sound.of_leaf (mem_leaves_of_node listed (mem_leaves_of_entry member))

/-- In a sound tree a group leads to the line of an item that was inserted into it or deeper. -/
theorem Sound.exists_line (sound : tree.Sound insertions) {node : List String × Tree}
    (listed : node ∈ tree.groups) (depth : Nat) :
    ∃ deeper item, (node.1 ++ deeper, item) ∈ insertions ∧
      (itemLine (depth + deeper.length) item.property item).toList <:+:
        (node.2.source depth).toList := by
  obtain ⟨nonempty, filled⟩ := sound.filled.of_group node listed
  obtain ⟨⟨_, item⟩, member⟩ := List.exists_mem_of_ne_nil _ (leaves_ne_nil filled nonempty)
  obtain ⟨deeper, name, rfl, line⟩ := itemLine_infix_source member depth
  have reached : ((node.1 ++ deeper) ++ [name], item) ∈ tree.leaves := by
    rw [List.append_assoc]
    exact mem_leaves_of_group listed member
  obtain ⟨rfl, inserted⟩ := sound.of_leaf reached
  exact ⟨deeper, item, inserted, line⟩

/-- The tree of a list of items is that of their insertions, each into its own group. -/
theorem ofItems_eq_ofInsertions (items : List Item) :
    ofItems items =
      ofInsertions ((items.filter (·.isGrouped)).map fun item => (item.group.getD [], item)) := by
  rw [ofInsertions, List.foldl_map, ofItems]

/-- Each item in the tree of a list is in its own group. -/
theorem group_of_entry_ofItems (items : List Item) :
    ∀ node ∈ (ofItems items).nodes, ∀ entry ∈ node.2.entries,
      entry.2 ∈ items ∧ entry.2.group = some node.1 := by
  rw [ofItems_eq_ofInsertions]
  intro node listed entry member
  obtain ⟨_, inserted⟩ := (sound_ofInsertions _).of_entry listed member
  obtain ⟨item, listed, same⟩ := List.mem_map.mp inserted
  obtain ⟨place, rfl⟩ := Prod.mk.inj same
  obtain ⟨among, grouped⟩ := List.mem_filter.mp listed
  obtain ⟨name, path, inside⟩ := Template.Item.isGrouped_iff.mp grouped
  rw [inside, Option.getD_some] at place
  exact ⟨among, by rw [inside, place]⟩

/-- Whatever is inserted, one after another, and into whatever groups: at each node the names of the
members are distinct; each group has a member, and among the lines that are written for it is that of
an item, which was inserted into it or deeper; and each item among the members of a node stands there
under its own name, and the names that lead to the node are those of the group that it was inserted
into, which is the group of the item when all items are inserted into their own. -/
theorem nodes_ofInsertions (insertions : List (List String × Item)) :
    (∀ node ∈ (ofInsertions insertions).nodes, node.2.names.Nodup) ∧
    (∀ node ∈ (ofInsertions insertions).groups, node.2 ≠ empty ∧
      ∀ depth, ∃ deeper item, (node.1 ++ deeper, item) ∈ insertions ∧
        (itemLine (depth + deeper.length) item.property item).toList <:+:
          (node.2.source depth).toList) ∧
    ∀ node ∈ (ofInsertions insertions).nodes, ∀ entry ∈ node.2.entries,
      entry.1 = entry.2.property ∧ (node.1, entry.2) ∈ insertions ∧
        ((∀ insertion ∈ insertions, insertion.2.group = some insertion.1) →
          entry.2.group = some node.1) := by
  have sound : (ofInsertions insertions).Sound insertions := sound_ofInsertions insertions
  refine ⟨sound.distinct.nodup_of_node, fun node listed => ?_, fun node listed entry member => ?_⟩
  · exact ⟨(sound.filled.of_group node listed).1, sound.exists_line listed⟩
  · obtain ⟨own, inserted⟩ := sound.of_entry listed member
    exact ⟨own, inserted, fun grouped => grouped _ inserted⟩

/-- A group takes the place of an item, and an item the place of a group with what was in it. -/
theorem nodes_ofInsertions_replaced :
    let host : Item := ⟨"DB_HOST", "h", "host", some ["app", "db"], none⟩
    let log : Item := ⟨"LOG", "l", "log", some ["app"], none⟩
    let insertions : List (List String × Item) :=
      [(["app"], ⟨"DB", "d", "db", some ["app"], none⟩),
        (["app", "log"], ⟨"LOG_FILE", "f", "file", some ["app", "log"], none⟩),
        (["app", "db"], host), (["app"], log)]
    let database : Tree := leaf "host" host empty
    (["app", "db"], database) ∈ (ofInsertions insertions).groups ∧
      (["app"], group "db" database (leaf "log" log empty)) ∈ (ofInsertions insertions).nodes ∧
      (group "db" database (leaf "log" log empty)).names.Nodup ∧ database ≠ empty ∧
      (∀ insertion ∈ insertions, insertion.2.group = some insertion.1) ∧
      (log.property = "log" ∧ log.group = some ["app"]) := by
  intro host log insertions database
  obtain ⟨distinct, filled, own⟩ := nodes_ofInsertions insertions
  have inside : (["app", "db"], database) ∈ (ofInsertions insertions).groups := by decide
  have outside : (["app"], group "db" database (leaf "log" log empty)) ∈
      (ofInsertions insertions).nodes := by decide
  have grouped : ∀ insertion ∈ insertions, insertion.2.group = some insertion.1 := by decide
  obtain ⟨named, _, placed⟩ := own _ outside ("log", log) (by decide)
  exact ⟨inside, outside, distinct _ outside, (filled _ inside).1, grouped, named.symm,
    placed grouped⟩

end EnvTemplate.Module.Tree
