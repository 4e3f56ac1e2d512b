import EnvTemplate.Module.Source
import EnvTemplate.Proofs.Module.Leaves
import Mathlib.Data.List.Induction

/-!
# The order in a tree

A tree is entered along a path, group by group. One insertion sets the next name of its path in
each group on the way, puts its item at the end, and leaves all other groups alone; what was below
the item is gone. When no place of a grouped item lies inside another one nothing is ever lost in
this way, and the names of a group are those that the items of the list mention there, in the order
in which they are first mentioned.
-/
namespace EnvTemplate.Module

open Template (Item)

/-- The name that a path goes on with behind another path, if it does. -/
def nameAfter? (path place : List String) : Option String :=
  if path <+: place then place[path.length]? else none

/-- A path goes on with a name behind another one when that one and the name lead it. -/
theorem nameAfter?_eq_some_iff {path place : List String} {name : String} :
    nameAfter? path place = some name ↔ path ++ [name] <+: place := by
  by_cases leads : path <+: place
  · obtain ⟨rest, rfl⟩ := leads
    rw [List.prefix_append_right_inj, nameAfter?, if_pos (List.prefix_append path rest)]
    cases rest <;> simp [eq_comm]
  · have longer : ¬path ++ [name] <+: place := fun whole =>
      leads ((List.prefix_append path [name]).trans whole)
    simp [nameAfter?, leads, longer]

/-- Behind the empty path a path goes on with its first name. -/
theorem nameAfter?_nil (name : String) (place : List String) :
    nameAfter? [] (name :: place) = some name := by
  simp [nameAfter?]

/-- No path goes on behind a path with another first name. -/
theorem nameAfter?_cons (first name : String) (path place : List String) :
    nameAfter? (first :: path) (name :: place) =
      if first = name then nameAfter? path place else none := by
  by_cases same : first = name <;> simp [nameAfter?, List.cons_prefix_cons, same]

namespace Tree

variable {name other : String} {item : Item} {change : Tree → Tree} {tree : Tree}

/-- The members of the group of a name, or none when it names no group. -/
def membersOf (name : String) : Tree → Tree
  | empty => empty
  | leaf other _ rest => if other = name then empty else rest.membersOf name
  | group other members rest => if other = name then members else rest.membersOf name

/-- The item of a name, unless it names a group or nothing. -/
def itemOf? (name : String) : Tree → Option Item
  | empty => none
  | leaf other item rest => if other = name then some item else rest.itemOf? name
  | group other _ rest => if other = name then none else rest.itemOf? name

/-- The members of the group at the end of a path, or none when there is no such group. -/
def within : List String → Tree → Tree
  | [], tree => tree
  | name :: path, tree => within path (tree.membersOf name)

/-- There is nothing in an empty tree. -/
theorem within_empty (path : List String) : within path empty = empty := by
  induction path with
  | nil => rfl
  | cons name path ih => exact ih

/-- A group at the end of a longer path is a group of the group before it. -/
theorem within_append_singleton (path : List String) (name : String) (tree : Tree) :
    within (path ++ [name]) tree = (within path tree).membersOf name := by
  induction path generalizing tree with
  | nil => rfl
  | cons first path ih => exact ih (tree.membersOf first)

/-- Putting an item ends the group of its name and changes no other. -/
theorem membersOf_put :
    (put name item tree).membersOf other =
      if other = name then empty else tree.membersOf other := by
  induction tree with
  | empty => grind [put, membersOf]
  | leaf held _ rest ih => unfold put; grind [membersOf]
  | group held members rest _ ih => unfold put; grind [membersOf]

/-- Putting an item changes what its name stands for, and nothing else. -/
theorem itemOf?_put :
    (put name item tree).itemOf? other =
      if other = name then some item else tree.itemOf? other := by
  induction tree with
  | empty => grind [put, itemOf?]
  | leaf held _ rest ih => unfold put; grind [itemOf?]
  | group held members rest _ ih => unfold put; grind [itemOf?]

/-- Changing a group changes its members, which were none when it had to be created. -/
theorem membersOf_alter :
    (alter name change tree).membersOf other =
      if other = name then change (tree.membersOf name) else tree.membersOf other := by
  induction tree with
  | empty => grind [alter, membersOf]
  | leaf held _ rest ih => unfold alter; grind [membersOf]
  | group held members rest _ ih => unfold alter; grind [membersOf]

/-- The name of a changed group is that of no item. -/
theorem itemOf?_alter :
    (alter name change tree).itemOf? other = if other = name then none else tree.itemOf? other := by
  induction tree with
  | empty => grind [alter, itemOf?]
  | leaf held _ rest ih => unfold alter; grind [itemOf?]
  | group held members rest _ ih => unfold alter; grind [itemOf?]

/-- An insertion sets the next name of its path in each group on its way, leaves nothing below its
item, and changes no other group. -/
theorem names_within_insert (path place : List String) (item : Item) (tree : Tree) :
    (within path (insert item place tree)).names =
      if place ++ [item.property] <+: path then []
      else
        match nameAfter? path (place ++ [item.property]) with
        | some name => withName name (within path tree).names
        | none => (within path tree).names := by
  induction path generalizing place tree with
  | nil =>
    cases place with
    | nil =>
      rw [within, within, insert, names_put]
      simp [nameAfter?_nil]
    | cons first place =>
      rw [within, within, insert, names_alter]
      simp [nameAfter?_nil]
  | cons entered path ih =>
    cases place with
    | nil =>
      rw [within, insert, membersOf_put]
      by_cases same : entered = item.property
      · simp [same, within_empty, names]
      · simp [same, within, Ne.symm same, nameAfter?_cons]
    | cons first place =>
      rw [within, insert, membersOf_alter]
      by_cases same : entered = first
      · subst same
        simpa [nameAfter?_cons, within] using ih place (tree.membersOf entered)
      · simp [same, within, Ne.symm same, nameAfter?_cons]

/-- An insertion changes what stands at its place, leaves no item on the way to it or below it, and
changes no other item. -/
theorem itemOf?_within_insert (path place : List String) (name : String) (item : Item)
    (tree : Tree) :
    (within path (insert item place tree)).itemOf? name =
      if place ++ [item.property] = path ++ [name] then some item
      else if Overlap (place ++ [item.property]) (path ++ [name]) then none
      else (within path tree).itemOf? name := by
  induction path generalizing place tree with
  | nil =>
    cases place with
    | nil =>
      rw [within, within, insert, itemOf?_put]
      by_cases same : name = item.property
      · simp [same]
      · simp [same, Ne.symm same, overlap_cons_iff]
    | cons first place =>
      rw [within, within, insert, itemOf?_alter]
      by_cases same : name = first
      · simp [same, overlap_cons_iff, overlap_nil]
      · simp [same, Ne.symm same, overlap_cons_iff]
  | cons entered path ih =>
    cases place with
    | nil =>
      rw [within, insert, membersOf_put]
      by_cases same : entered = item.property
      · simp [same, within_empty, itemOf?, Overlap]
      · simp [same, Ne.symm same, within, overlap_cons_iff]
    | cons first place =>
      rw [within, insert, membersOf_alter]
      by_cases same : entered = first
      · subst same
        simpa [overlap_cons_iff, within] using ih place (tree.membersOf entered)
      · simp [same, Ne.symm same, within, overlap_cons_iff]

/-- The groups of a tree with distinct names have distinct names. -/
theorem membersOf_distinct (distinct : tree.Distinct) : (tree.membersOf name).Distinct := by
  induction tree with
  | empty => exact trivial
  | leaf held _ rest ih =>
    rw [membersOf]
    split
    · exact trivial
    · exact ih distinct.2
  | group held members rest _ ih =>
    rw [membersOf]
    split
    · exact distinct.2.1
    · exact ih distinct.2.2

/-- No group at the end of a path has two members of one name when the tree has none. -/
theorem within_distinct (path : List String) (distinct : tree.Distinct) :
    (within path tree).Distinct := by
  induction path generalizing tree with
  | nil => exact distinct
  | cons name path ih => exact ih (membersOf_distinct distinct)

/-- The line of an item under a name, or without an item a group of the name with the lines of its
members between its braces. -/
def memberSource (depth : Nat) (name : String) (item? : Option Item) (members : Tree) : String :=
  match item? with
  | some item => itemLine depth name item
  | none =>
    indent depth ++ name ++ ": \x7b\n" ++ members.source (depth + 1) ++ indent depth ++ "\x7d,\n"

/-- The lines of the member of a name. -/
def sourceOf (depth : Nat) (tree : Tree) (name : String) : String :=
  memberSource depth name (tree.itemOf? name) (tree.membersOf name)

/-- An item in front changes nothing for the members of other names. -/
theorem sourceOf_leaf_of_ne {held : String} (different : held ≠ name) (depth : Nat) :
    (leaf held item tree).sourceOf depth name = tree.sourceOf depth name := by
  simp [sourceOf, itemOf?, membersOf, different]

/-- A group in front changes nothing for the members of other names. -/
theorem sourceOf_group_of_ne {held : String} {members : Tree} (different : held ≠ name)
    (depth : Nat) : (group held members tree).sourceOf depth name = tree.sourceOf depth name := by
  simp [sourceOf, itemOf?, membersOf, different]

/-- The lines of a tree are those of its members, name after name. -/
theorem source_eq_join (distinct : tree.Distinct) (depth : Nat) :
    tree.source depth = String.join (tree.names.map (tree.sourceOf depth)) := by
  induction tree with
  | empty => rfl
  | leaf held item rest ih =>
    have later : rest.names.map ((leaf held item rest).sourceOf depth) =
        rest.names.map (rest.sourceOf depth) := by
      refine List.map_congr_left fun name listed => ?_
      have other : held ≠ name := fun same => distinct.1 (same ▸ listed)
      exact sourceOf_leaf_of_ne other depth
    rw [names, List.map_cons, String.join_cons, later, ← ih distinct.2, source]
    simp [sourceOf, memberSource, itemOf?]
  | group held members rest _ ih =>
    have later : rest.names.map ((group held members rest).sourceOf depth) =
        rest.names.map (rest.sourceOf depth) := by
      refine List.map_congr_left fun name listed => ?_
      have other : held ≠ name := fun same => distinct.1 (same ▸ listed)
      exact sourceOf_group_of_ne other depth
    rw [names, List.map_cons, String.join_cons, later, ← ih distinct.2.2, source]
    simp [sourceOf, memberSource, itemOf?, membersOf, String.append_assoc]

/-- Nothing is inserted for no items. -/
theorem ofItems_nil : ofItems [] = empty := rfl

end Tree

/-- No place of a grouped item lies inside the place of another one. -/
def NoneInside (items : List Item) : Prop :=
  ∀ outer ∈ items, ∀ inner ∈ items, outer.isGrouped → inner.isGrouped →
    outer.place <+: inner.place → outer.place = inner.place

instance : DecidablePred NoneInside :=
  fun items => inferInstanceAs (Decidable (∀ outer ∈ items, ∀ inner ∈ items, _ → _ → _ → _))

/-- The names that the grouped items of a list mention in the group at the end of a path, in the
order of the items: the name of an item there, or that of a group on the way to it. -/
def mentions (path : List String) (items : List Item) : List String :=
  (items.filter (·.isGrouped)).filterMap fun item => nameAfter? path item.place

/-- The last grouped item of a list at a place. -/
def lastAt? (place : List String) (items : List Item) : Option Item :=
  (items.filter fun item => item.isGrouped ∧ item.place = place).getLast?

variable {items : List Item} {item : Item} {path : List String}

/-- What holds of a list holds of the items before its last one. -/
theorem NoneInside.init (clear : NoneInside (items ++ [item])) : NoneInside items :=
  fun outer first inner second =>
    clear outer (List.mem_append_left _ first) inner (List.mem_append_left _ second)

/-- A grouped item at the end of a list mentions its names last. -/
theorem mentions_append_singleton (grouped : item.isGrouped) (path : List String)
    (items : List Item) :
    mentions path (items ++ [item]) =
      mentions path items ++ (nameAfter? path item.place).toList := by
  have last : [item].filter (·.isGrouped) = [item] := List.filter_cons_of_pos grouped
  rw [mentions, List.filter_append, List.filterMap_append, ← mentions, last]
  cases mentioned : nameAfter? path item.place <;> simp [mentioned]

/-- An item without a group mentions nothing. -/
theorem mentions_append_ungrouped (ungrouped : ¬item.isGrouped) (path : List String)
    (items : List Item) : mentions path (items ++ [item]) = mentions path items := by
  simp [mentions, List.filter_append, ungrouped]

/-- Nothing is mentioned inside the place of an item. -/
theorem NoneInside.mentions_eq_nil (clear : NoneInside items) (member : item ∈ items)
    (grouped : item.isGrouped) (inside : item.place <+: path) : mentions path items = [] := by
  refine List.filterMap_eq_nil_iff.mpr fun other listed => ?_
  obtain ⟨among, othersGroup⟩ := List.mem_filter.mp listed
  cases found : nameAfter? path other.place with
  | none => rfl
  | some name =>
    have leads : path ++ [name] <+: other.place := nameAfter?_eq_some_iff.mp found
    have below : item.place <+: other.place :=
      (inside.trans (List.prefix_append path [name])).trans leads
    have same : item.place = other.place := clear item member other among grouped othersGroup below
    have short : item.place.length ≤ path.length := inside.length_le
    have long : (path ++ [name]).length ≤ other.place.length := leads.length_le
    rw [← same, List.length_append, List.length_singleton] at long
    omega

/-- A name at the end of a list is one more name unless it comes before. -/
theorem eraseDups_append_singleton (names : List String) (name : String) :
    (names ++ [name]).eraseDups = Tree.withName name names.eraseDups := by
  rw [List.eraseDups_append, Tree.withName]
  by_cases taken : name ∈ names <;> simp [taken, List.removeAll, List.eraseDups_cons]

/-- The last item at a place is a grouped item of the list with that place. -/
theorem of_lastAt?_eq_some {place : List String} {held : Item}
    (last : lastAt? place items = some held) :
    held ∈ items ∧ held.isGrouped ∧ held.place = place := by
  obtain ⟨listed, there⟩ := List.mem_filter.mp (List.mem_of_getLast? last)
  exact ⟨listed, of_decide_eq_true there⟩

/-- Only a place that overlaps with no place of an item, or is the place of one, has an item. -/
theorem NoneInside.lastAt?_eq_none {place : List String} (clear : NoneInside items)
    (member : item ∈ items) (grouped : item.isGrouped) (overlap : Overlap item.place place)
    (different : item.place ≠ place) : lastAt? place items = none := by
  cases last : lastAt? place items with
  | none => rfl
  | some held =>
    obtain ⟨listed, heldGrouped, there⟩ := of_lastAt?_eq_some last
    rw [← there] at overlap different
    rcases overlap with below | below
    · exact absurd (clear item member held listed grouped heldGrouped below) different
    · exact absurd (clear held listed item member heldGrouped grouped below).symm different

/-- Where an item stands, only items at its place mention its name. -/
theorem NoneInside.place_eq {name : String} (clear : NoneInside items)
    (stands : lastAt? (path ++ [name]) items ≠ none) (member : item ∈ items)
    (grouped : item.isGrouped) (mentioned : nameAfter? path item.place = some name) :
    item.place = path ++ [name] := by
  obtain ⟨held, last⟩ := Option.ne_none_iff_exists'.mp stands
  obtain ⟨listed, heldGrouped, there⟩ := of_lastAt?_eq_some last
  have below : held.place <+: item.place := there ▸ nameAfter?_eq_some_iff.mp mentioned
  rw [← clear held listed item member heldGrouped grouped below, there]

/-- The names of a group are those that are mentioned there, in the order in which they are first
mentioned. -/
theorem names_within_ofItems (clear : NoneInside items) (path : List String) :
    (Tree.within path (Tree.ofItems items)).names = (mentions path items).eraseDups := by
  induction items using List.reverseRecOn with
  | nil =>
    rw [Tree.ofItems_nil, Tree.within_empty]
    rfl
  | append_singleton items item ih =>
    rw [Tree.ofItems_append_singleton]
    by_cases grouped : item.isGrouped
    · rw [if_pos grouped, Tree.names_within_insert, ih clear.init, ← Item.place]
      by_cases inside : item.place <+: path
      · have nothing := clear.mentions_eq_nil (by simp) grouped inside
        rw [if_pos inside, nothing]
        rfl
      · rw [if_neg inside, mentions_append_singleton grouped]
        cases nameAfter? path item.place with
        | none => simp
        | some name => exact (eraseDups_append_singleton _ name).symm
    · rw [if_neg grouped, mentions_append_ungrouped grouped]
      exact ih clear.init

/-- The item at a place is the last one of the list with that place. -/
theorem itemOf?_within_ofItems (clear : NoneInside items) (path : List String) (name : String) :
    (Tree.within path (Tree.ofItems items)).itemOf? name = lastAt? (path ++ [name]) items := by
  induction items using List.reverseRecOn with
  | nil =>
    rw [Tree.ofItems_nil, Tree.within_empty]
    rfl
  | append_singleton items item ih =>
    rw [Tree.ofItems_append_singleton]
    by_cases grouped : item.isGrouped
    · rw [if_pos grouped, Tree.itemOf?_within_insert, ih clear.init, ← Item.place]
      by_cases same : item.place = path ++ [name]
      · simp [lastAt?, List.filter_append, grouped, same]
      · have unchanged : lastAt? (path ++ [name]) (items ++ [item]) =
            lastAt? (path ++ [name]) items := by
          simp [lastAt?, List.filter_append, same]
        rw [if_neg same]
        by_cases overlap : Overlap item.place (path ++ [name])
        · rw [if_pos overlap, clear.lastAt?_eq_none (by simp) grouped overlap same]
        · rw [if_neg overlap, unchanged]
    · rw [if_neg grouped, ih clear.init]
      simp [lastAt?, List.filter_append, grouped]

/-- When no place lies inside another one, the members of the group at the end of any path, the
outermost one included, stand in the order in which the items of the list first mention them; a name
that is the place of an item has the last item of that place, and only items of that place mention
it, so that it stands where the first of them put it; and the lines of the group are those of its
members in this order, each with its item or with the lines of the group that it names. -/
theorem source_within_ofItems (clear : NoneInside items) (path : List String) :
    (Tree.within path (Tree.ofItems items)).names = (mentions path items).eraseDups ∧
      (∀ name, (Tree.within path (Tree.ofItems items)).itemOf? name =
        lastAt? (path ++ [name]) items) ∧
      (∀ name, lastAt? (path ++ [name]) items ≠ none → ∀ item ∈ items, item.isGrouped →
        nameAfter? path item.place = some name → item.place = path ++ [name]) ∧
      ∀ depth, (Tree.within path (Tree.ofItems items)).source depth =
        String.join ((mentions path items).eraseDups.map fun name =>
          Tree.memberSource depth name (lastAt? (path ++ [name]) items)
            (Tree.within (path ++ [name]) (Tree.ofItems items))) := by
  have names := names_within_ofItems clear path
  have found := itemOf?_within_ofItems clear path
  refine ⟨names, found, fun name stands item member grouped mentioned =>
    clear.place_eq stands member grouped mentioned, fun depth => ?_⟩
  have distinct : (Tree.within path (Tree.ofItems items)).Distinct :=
    Tree.within_distinct path (Tree.ofItems_distinct items)
  rw [Tree.source_eq_join distinct, names]
  refine congrArg String.join (List.map_congr_left fun name _ => ?_)
  rw [Tree.sourceOf, found, Tree.within_append_singleton]

/-- The members of a group are scattered over the list, and one of them is declared twice: it keeps
its position and has what was declared last. -/
theorem source_within_scattered :
    let items : List Item :=
      [⟨"DB_HOST", "x", "host", some ["db"], none⟩, ⟨"APP_NAME", "a", "name", some ["app"], none⟩,
        ⟨"DB_POOL_MODE", "p", "mode", some ["db", "pool"], none⟩, ⟨"HOST", "h", "host", none, none⟩,
        ⟨"DB_HOST", "y", "host", some ["db"], none⟩, ⟨"DB_USER", "u", "user", some ["db"], none⟩]
    NoneInside items ∧
      (Tree.within ["db"] (Tree.ofItems items)).names = ["host", "pool", "user"] ∧
      (Tree.within ["db"] (Tree.ofItems items)).itemOf? "host" =
        some ⟨"DB_HOST", "y", "host", some ["db"], none⟩ ∧
      (Tree.within ["db"] (Tree.ofItems items)).source 2 =
        "    host: schema(\"DB_HOST\").string().default('y'),\n" ++
          "    pool: \x7b\n" ++
          "      mode: schema(\"DB_POOL_MODE\").string().default('p'),\n" ++
          "    \x7d,\n" ++
          "    user: schema(\"DB_USER\").string().default('u'),\n" := by
  intro items
  have clear : NoneInside items := by decide
  obtain ⟨names, found, _, lines⟩ := source_within_ofItems clear ["db"]
  refine ⟨clear, names.trans (by decide), (found "host").trans (by decide), (lines 2).trans ?_⟩
  decide +kernel

end EnvTemplate.Module
