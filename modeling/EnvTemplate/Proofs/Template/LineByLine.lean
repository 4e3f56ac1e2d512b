import EnvTemplate.Proofs.Template.Alphabet
import EnvTemplate.Proofs.Template.Diagnostics
import EnvTemplate.Proofs.Template.Refusal

/-!
# Reading line by line

Only directives make a line count for the lines below it. Where they do not count, because keys are
taken as they come, are not grouped, or name their own groups, no group is ever open, and an item
is what its own line declares. The other lines may then be changed, left out or put elsewhere.
-/
namespace EnvTemplate.Template

variable {options : Options} {context : Context} {number : Nat} {item : Item} {text : String}

/-- The item that a trimmed line declares by itself: in the group that its key names when keys name
their own groups, and in none otherwise. -/
def ownItem? (options : Options) (line : List Char) : Option Item :=
  (assignment? line).map fun (key, value) => declare options .start key value

/-- Directives do not count when keys are taken as they come, are not grouped, or name their own
groups. -/
theorem followsDirectives_eq_false_iff :
    options.followsDirectives = false ↔
      options.flat = true ∨ options.grouped = false ∨ options.grouping = .pattern := by
  rw [← Bool.not_eq_true, Options.followsDirectives_iff]
  cases options.flat <;> cases options.grouped <;> cases options.grouping <;> decide

/-- When no group is open, a line declares what it declares by itself. -/
theorem item?_of_closed (closed : context.group = none) (line : List Char) :
    item? options context (Line.ofTrimmed line) = ownItem? options line := by
  have same : declare options context = declare options .start := by
    funext key value
    simp [declare, closed, Context.start]
  rw [item?_ofTrimmed, ownItem?, same]

/-- Lines that are read while no group is open declare what they declare by themselves. -/
theorem readFrom_items_of_closed (undirected : options.followsDirectives = false)
    (closed : context.group = none) (lines : List (List Char)) :
    (readFrom options context number (lines.map Line.ofTrimmed)).items =
      lines.filterMap (ownItem? options) := by
  -- The keys that were seen change from line to line, but no group is ever opened.
  induction lines generalizing context number with
  | nil => rfl
  | cons line lines ih =>
    rw [List.map_cons, readFrom, ih (group_next_of_undirected undirected closed),
      item?_of_closed closed, List.filterMap_cons]
    cases ownItem? options line <;> rfl

/-- The items of a template are those that its lines declare by themselves. -/
theorem read_items_of_undirected (undirected : options.followsDirectives = false) (text : String) :
    (read options text).items = (trimmedLines text.toList).filterMap (ownItem? options) := by
  rw [read, linesOf_eq]
  exact readFrom_items_of_closed undirected rfl _

/-- The line at an index declares what it declares by itself. -/
theorem itemAt?_of_undirected (undirected : options.followsDirectives = false) (text : String)
    (index : Nat) :
    itemAt? options (linesOf text.toList) index =
      (trimmedLines text.toList)[index]?.bind (ownItem? options) := by
  have closed := group_contextAt_of_undirected undirected (linesOf text.toList) index
  rw [itemAt?, linesOf_eq, List.getElem?_map, ← linesOf_eq]
  cases (trimmedLines text.toList)[index]? with
  | none => rfl
  | some line => exact item?_of_closed closed line

/-- Blank lines and comments declare nothing. -/
theorem ownItem?_of_insignificant {line : List Char}
    (insignificant : ¬(line ≠ [] ∧ line.head? ≠ some '#')) : ownItem? options line = none := by
  cases line with
  | nil => rfl
  | cons first rest =>
    obtain rfl : first = '#' := by simpa using insignificant
    rw [ownItem?, assignment?_hash, Option.map_none]

/-- Lines that declare nothing by themselves can be left out. -/
theorem filterMap_ownItem?_filter {kept : List Char → Bool}
    (nothing : ∀ line, kept line = false → ownItem? options line = none)
    (lines : List (List Char)) :
    (lines.filter kept).filterMap (ownItem? options) = lines.filterMap (ownItem? options) := by
  rw [List.filterMap_filter]
  refine List.filterMap_congr fun line _ => ?_
  cases spared : kept line with
  | true => rfl
  | false => exact (nothing line spared).symm

/-- Where directives do not count, none is refused. -/
theorem errors_of_undirected (undirected : options.followsDirectives = false) (text : String) :
    (read options text).errors = [] := by
  rw [errors_eq_refusals, undirected, if_neg Bool.false_ne_true]

/-- When keys are taken as they come or are not grouped, no item has groups. -/
theorem group_of_ungrouped (ungrouped : options.flat = true ∨ options.grouped = false)
    (member : item ∈ (read options text).items) : item.group = none := by
  have undirected : options.followsDirectives = false :=
    followsDirectives_eq_false_iff.mpr (ungrouped.imp_right .inl)
  have unpatterned : options.followsPattern = false := by
    rcases ungrouped with flat | single <;> simp [Options.followsPattern, *]
  obtain ⟨index, key, value, _, rfl⟩ := exists_declare_of_mem_items member
  have closed := group_contextAt_of_undirected undirected (linesOf text.toList) index
  rw [declare, closed, placement_none unpatterned]

/-- When keys name their own groups, an item lies in one group, and that has a name. -/
theorem group_of_patterned (patterned : options.followsPattern = true)
    (member : item ∈ (read options text).items) :
    ∃ name, item.group = some [name] ∧ name ≠ "" := by
  have named : ∀ path, item.group = some path → ∀ name ∈ path, name.toList ≠ [] :=
    fun _ inside => ne_nil_of_mem_group member inside
  obtain ⟨index, key, value, _, rfl⟩ := exists_declare_of_mem_items member
  have closed := group_contextAt_of_undirected
    (Options.followsDirectives_of_followsPattern patterned) (linesOf text.toList) index
  have own : (declare options (contextAt options (linesOf text.toList) index) key value).group =
      some [String.ofList (Name.camelChars (ownGroup key))] := by
    rw [declare, closed, placement_of_followsPattern patterned]
  refine ⟨_, own, fun empty => ?_⟩
  exact named _ own _ List.mem_cons_self (by rw [empty]; rfl)

/-- When keys are taken as they come, are not grouped, or name their own groups, the items of a
template are what its lines declare by themselves. Blank lines and comments, directives among them,
can be replaced by others or left out; and when lines are put in another order, the items are put in
the same order, each with its line. No line is refused. Keys that are taken as they come or are not
grouped lie in no group, and keys that name their own groups lie in one group with a name. -/
theorem items_lineByLine
    (undirected : options.flat = true ∨ options.grouped = false ∨ options.grouping = .pattern) :
    (∀ text : String,
      (read options text).items = (trimmedLines text.toList).filterMap (ownItem? options)) ∧
    (∀ text other : String,
      ((trimmedLines other.toList).filter fun line => line ≠ [] ∧ line.head? ≠ some '#') =
        ((trimmedLines text.toList).filter fun line => line ≠ [] ∧ line.head? ≠ some '#') →
      (read options other).items = (read options text).items) ∧
    (∀ (text other : String) (order : List Nat),
      trimmedLines other.toList = order.filterMap ((trimmedLines text.toList)[·]?) →
      (read options other).items = order.filterMap (itemAt? options (linesOf text.toList))) ∧
    (∀ text : String, (read options text).errors = []) ∧
    (options.flat = true ∨ options.grouped = false →
      ∀ text : String, ∀ item ∈ (read options text).items, item.group = none) ∧
    (options.flat = false → options.grouped = true → options.grouping = .pattern →
      ∀ text : String, ∀ item ∈ (read options text).items,
        ∃ name, item.group = some [name] ∧ name ≠ "") := by
  have undirected := followsDirectives_eq_false_iff.mpr undirected
  refine ⟨read_items_of_undirected undirected, fun text other same => ?_,
    fun text other order rearranged => ?_, errors_of_undirected undirected,
    fun ungrouped text item => group_of_ungrouped ungrouped,
    fun ordered grouped pattern text item => group_of_patterned ?_⟩
  · have nothing : ∀ line : List Char, decide (line ≠ [] ∧ line.head? ≠ some '#') = false →
        ownItem? options line = none := fun line dropped =>
      ownItem?_of_insignificant (of_decide_eq_false dropped)
    rw [read_items_of_undirected undirected, read_items_of_undirected undirected,
      ← filterMap_ownItem?_filter nothing, same, filterMap_ownItem?_filter nothing]
  · rw [read_items_of_undirected undirected, rearranged, List.filterMap_filterMap]
    exact List.filterMap_congr fun index _ => (itemAt?_of_undirected undirected text index).symm
  · simp [Options.followsPattern, ordered, grouped, pattern]

/-- A refused directive and a blank line change places with others, or all lines are turned round;
keys that name their own groups keep their items, and keys that are taken as they come have no
groups. -/
theorem items_of_rearranged_lines :
    let text := "# @group: a$\nDB_HOST=x\n\nPORT=1\n"
    let replaced := "\nDB_HOST=x\n# @group: app\nPORT=1"
    let rearranged := "PORT=1\n\nDB_HOST=x\n# @group: a$\n"
    (Options.patterned.grouping = .pattern ∧
      ((trimmedLines replaced.toList).filter fun line => line ≠ [] ∧ line.head? ≠ some '#') =
        ((trimmedLines text.toList).filter fun line => line ≠ [] ∧ line.head? ≠ some '#') ∧
      (read .patterned replaced).items = (read .patterned text).items ∧
      trimmedLines rearranged.toList =
        [3, 2, 1, 0].filterMap ((trimmedLines text.toList)[·]?) ∧
      (read .patterned rearranged).items =
        [3, 2, 1, 0].filterMap (itemAt? .patterned (linesOf text.toList)) ∧
      (read .patterned text).errors = [] ∧
      ∀ item ∈ (read .patterned text).items, ∃ name, item.group = some [name] ∧ name ≠ "") ∧
    Options.flattened.flat = true ∧ ∀ item ∈ (read .flattened text).items, item.group = none := by
  intro text replaced rearranged
  have patterned : Options.patterned.flat = true ∨ Options.patterned.grouped = false ∨
      Options.patterned.grouping = .pattern := .inr (.inr rfl)
  have flattened : Options.flattened.flat = true ∨ Options.flattened.grouped = false ∨
      Options.flattened.grouping = .pattern := .inl rfl
  obtain ⟨_, significant, reordered, accepted, _, single⟩ := items_lineByLine patterned
  obtain ⟨_, _, _, _, ungrouped, _⟩ := items_lineByLine flattened
  have same : ((trimmedLines replaced.toList).filter fun line => line ≠ [] ∧ line.head? ≠ some '#') =
      ((trimmedLines text.toList).filter fun line => line ≠ [] ∧ line.head? ≠ some '#') := by decide
  have turned : trimmedLines rearranged.toList =
      [3, 2, 1, 0].filterMap ((trimmedLines text.toList)[·]?) := by decide
  exact ⟨⟨rfl, same, significant text replaced same, turned, reordered text rearranged _ turned,
    accepted text, single rfl rfl rfl text⟩, rfl, ungrouped (.inl rfl) text⟩

end EnvTemplate.Template
