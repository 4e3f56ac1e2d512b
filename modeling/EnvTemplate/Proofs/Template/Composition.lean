import EnvTemplate.Proofs.Name.Joining
import EnvTemplate.Proofs.Template.Independence
import EnvTemplate.Proofs.Template.LineByLine

/-!
# Names inside and outside of groups

A key that lies in a group is named without the words of the group, and a key that is taken as it
comes is named with all its words. The two agree: the name of the group followed by the name of the
value in it, with its first character raised, is the name of the value without groups. This holds
when the key names its group itself, and when a directive opened the group and the key starts with
its name, as long as something is left of the key for a name in the group.
-/
namespace EnvTemplate.Template

open Name (capitalized camelChars isSeparator startsWord)

variable {options flat : Options} {context kept : Context} {number later : Nat}
  {key front back : List Char}

/-- The name of a value is put together from the name of a group and the name of a value in it. -/
def Item.Joins (whole : Item) (group : String) (item : Item) : Prop :=
  whole.property.toList = group.toList ++ capitalized item.property.toList

/-- An item in a reading with groups and the item of the same line in one where keys are taken as
they come. -/
structure Item.Composes (options : Options) (item whole : Item) : Prop where
  /-- They declare the same key. -/
  key : item.key = whole.key
  /-- When keys name their own groups, the name without groups is that of the group and that in the
  group, if a letter or a digit comes after some underscore of the key. -/
  patterned : options.followsPattern = true → ∃ own, item.group = some [own] ∧
    ∀ front back, item.key.toList = front ++ '_' :: back → (∃ c ∈ back, c.isAlphanum = true) →
      whole.Joins own item
  /-- The same holds when a directive opened the groups, if the last of them is named by small
  letters and digits, and the key is this name in capital letters, an underscore and a text with a
  letter or a digit. -/
  directed : options.followsDirectives = true → ∀ outer last rest,
    item.group = some (outer ++ [last]) → (∀ c ∈ last.toList, startsWord c = true) →
    item.key.toList = last.toList.map Char.toUpper ++ '_' :: rest →
    (∃ c ∈ rest, c.isAlphanum = true) → whole.Joins last item

/-- A key is cut at its first underscore. -/
theorem own_of_append (first : '_' ∉ front) (back : List Char) :
    ownGroup (front ++ '_' :: back) = front ∧ ownRest (front ++ '_' :: back) = back := by
  have goesOn : ∀ c ∈ front, decide (c ≠ '_') = true := fun c member =>
    decide_eq_true fun same => first (same ▸ member)
  rw [ownGroup, ownRest, List.takeWhile_append_of_pos goesOn, List.dropWhile_append_of_pos goesOn]
  simp

/-- What comes after any underscore of a text comes after the first. -/
theorem suffix_of_append {before after : List Char} (first : '_' ∉ front)
    (same : front ++ '_' :: back = before ++ '_' :: after) : after <:+ back := by
  rcases List.append_eq_append_iff.mp same with ⟨middle, rfl, rest⟩ | ⟨middle, rfl, rest⟩
  · cases middle with
    | nil => exact (List.cons.inj rest).2 ▸ List.suffix_rfl
    | cons c middle => exact ⟨middle ++ ['_'], by simpa using (List.cons.inj rest).2.symm⟩
  · cases middle with
    | nil => exact (List.cons.inj rest).2 ▸ List.suffix_rfl
    | cons c middle =>
      obtain ⟨rfl, _⟩ := List.cons.inj rest
      exact absurd (by simp) first

/-- A character of a key is a separator when it is an underscore. -/
theorem isSeparator_of_isKey (valid : isKey key = true) {c : Char} (member : c ∈ key) :
    isSeparator c = (c == '_') := by
  have continues := List.all_eq_true.mp (all_continuesKey_of_isKey valid) c member
  by_cases hyphen : c = '-'
  · subst hyphen
    exact absurd continues (by decide)
  · simp [isSeparator, hyphen]

/-- The name of a key without groups, by the parts of the key. -/
theorem camelChars_key (valid : isKey (front ++ '_' :: back) = true) (first : '_' ∉ front)
    (left : ∃ c ∈ back, c.isAlphanum = true) :
    camelChars (front ++ '_' :: back) = camelChars front ++ capitalized (camelChars back) := by
  have plain : ∀ c ∈ front, isSeparator c = false := by
    intro c member
    rw [isSeparator_of_isKey valid (List.mem_append_left _ member)]
    exact beq_false_of_ne fun same => first (same ▸ member)
  obtain ⟨c, member, letter⟩ := left
  exact Name.camelChars_append (isName_of_isKey valid) plain rfl
    ⟨c, member, Name.isSeparator_of_isAlphanum letter⟩

/-- Keys that are taken as they come are named with all their words. -/
theorem declare_flat (isFlat : flat.flat = true) (key value : List Char) :
    (declare flat kept key value).property = String.ofList (camelChars key) := by
  rw [declare, placement_of_flat isFlat]

/-- Where directives open groups, keys lie in the group that is open. -/
theorem group_declare (directed : options.followsDirectives = true) (key value : List Char) :
    (declare options context key value).group = context.group := by
  cases opened : context.group with
  | none =>
    have unpatterned : options.followsPattern = false := by
      obtain ⟨_, _, explicit⟩ := Options.followsDirectives_iff.mp directed
      simp [Options.followsPattern, explicit]
    rw [declare, opened, placement_none unpatterned]
  | some path => rw [declare, opened, placement_of_followsDirectives directed]

/-- A key that names its own group is composed of it. -/
theorem joins_patterned (isFlat : flat.flat = true) (patterned : options.followsPattern = true)
    (closed : context.group = none) (valid : isKey (front ++ '_' :: back) = true)
    (first : '_' ∉ front) (left : ∃ c ∈ back, c.isAlphanum = true) (value : List Char) :
    (declare flat kept (front ++ '_' :: back) value).Joins (String.ofList (camelChars front))
      (declare options context (front ++ '_' :: back) value) := by
  have named : (declare options context (front ++ '_' :: back) value).property =
      String.ofList (camelChars back) := by
    rw [declare, closed, placement_of_followsPattern patterned, (own_of_append first back).2]
  simp only [Item.Joins, declare_flat isFlat, named, String.toList_ofList]
  exact camelChars_key valid first left

/-- A key that starts with the name of the last group in capital letters is composed of it. -/
theorem joins_directed {outer : List String} {last : String} (isFlat : flat.flat = true)
    (directed : options.followsDirectives = true)
    (opened : context.group = some (outer ++ [last]))
    (small : ∀ c ∈ last.toList, startsWord c = true)
    (valid : isKey (last.toList.map Char.toUpper ++ '_' :: back) = true)
    (left : ∃ c ∈ back, c.isAlphanum = true) (value : List Char) :
    (declare flat kept (last.toList.map Char.toUpper ++ '_' :: back) value).Joins last
      (declare options context (last.toList.map Char.toUpper ++ '_' :: back) value) := by
  have words : ∀ c ∈ last.toList, Name.isWordChar c = true := fun c member => by
    simp [Name.isWordChar, Name.isAlphanum_of_startsWord (small c member)]
  have shortened :
      Name.withoutLead (last.toList.map Char.toUpper ++ '_' :: back) last.toList = back := by
    rw [Name.withoutLead, Name.groupLead_of_words words, Name.afterLead?_eq_some_iff.mpr,
      Option.getD_some]
    simp
  have named :
      (declare options context (last.toList.map Char.toUpper ++ '_' :: back) value).property =
        String.ofList (camelChars back) := by
    rw [declare, opened, placement_of_followsDirectives directed, List.getLast?_concat,
      Option.map_some, Option.getD_some, shortened]
  have first : '_' ∉ last.toList.map Char.toUpper := fun member => by
    obtain ⟨c, held, same⟩ := List.mem_map.mp member
    have plain := (Name.toUpper_of_startsWord (small c held)).1.2
    rw [same] at plain
    exact absurd plain (by decide)
  simp only [Item.Joins, declare_flat isFlat, named, String.toList_ofList]
  rw [camelChars_key valid first left, Name.camelChars_map_toUpper small]

/-- The items that an assignment declares with groups and without. -/
theorem declare_composes (isFlat : flat.flat = true)
    (closed : options.followsPattern = true → context.group = none) (valid : isKey key = true)
    (value : List Char) :
    (declare options context key value).Composes options (declare flat kept key value) where
  key := rfl
  patterned patterned := by
    have own : (declare options context key value).group =
        some [String.ofList (camelChars (ownGroup key))] := by
      rw [declare, closed patterned, placement_of_followsPattern patterned]
    refine ⟨_, own, ?_⟩
    intro before after split left
    have cut : key = before ++ '_' :: after := by simpa [declare] using split
    -- The group ends at the first underscore of the key, which may stand before the given one.
    obtain ⟨front, back, same, first⟩ :=
      List.eq_append_cons_of_mem (show '_' ∈ key by simp [cut])
    obtain ⟨c, member, letter⟩ := left
    have later : c ∈ back := (suffix_of_append first (same.symm.trans cut)).subset member
    subst same
    rw [(own_of_append first back).1]
    exact joins_patterned isFlat patterned (closed patterned) valid first ⟨c, later, letter⟩ value
  directed directed outer last rest inside small leads left := by
    have opened : context.group = some (outer ++ [last]) :=
      (group_declare directed key value).symm.trans inside
    have same : key = last.toList.map Char.toUpper ++ '_' :: rest := by simpa [declare] using leads
    subst same
    exact joins_directed isFlat directed opened small valid left value

/-- The items of lines that are read with groups and without are composed. -/
theorem readFrom_items_compose (isFlat : flat.flat = true)
    (closed : options.followsPattern = true → context.group = none) (texts : List (List Char)) :
    List.Forall₂ (Item.Composes options)
      (readFrom options context number (texts.map Line.ofTrimmed)).items
      (readFrom flat kept later (texts.map Line.ofTrimmed)).items := by
  -- Where keys name their own groups, no group is open before any line.
  induction texts generalizing context kept number later with
  | nil => exact .nil
  | cons text texts ih =>
    have later : options.followsPattern = true →
        (context.next options (Line.ofTrimmed text)).group = none := fun patterned =>
      group_next_of_undirected (Options.followsDirectives_of_followsPattern patterned)
        (closed patterned)
    refine List.rel_append ?_ (ih later)
    rw [item?_ofTrimmed, item?_ofTrimmed]
    cases assigned : assignment? text with
    | none => exact .nil
    | some parts =>
      obtain ⟨key, value⟩ := parts
      obtain ⟨_, valid, _⟩ := assignment?_eq_some_iff.mp assigned
      exact .cons (declare_composes isFlat closed valid value) .nil

/-- **Names inside and outside of groups agree.** Whatever the options are, each line that is an
assignment declares an item, and when keys are taken as they come it declares one whose name is put
together from that of the group and that in the group: in the group that the key names itself, if a
letter or a digit comes after some underscore of the key, and in the last group of a directive, if
that is named by small letters and digits and the key starts with this name. -/
theorem items_compose (isFlat : flat.flat = true) (options : Options) (text : String) :
    List.Forall₂ (Item.Composes options) (read options text).items (read flat text).items ∧
      (read options text).items.map Item.assignment =
        (assignmentLines text.toList).map String.ofList := by
  refine ⟨?_, map_assignment_read options text⟩
  rw [read, read, linesOf_eq]
  exact readFrom_items_compose isFlat (fun _ => rfl) _

/-- A key with two underscores after its group and one at its end, in the group that it names and
in that of a directive. -/
theorem items_compose_underscores :
    let text := "# @group: api\nAPI__V2_KEY_=x\n"
    let item : Item := ⟨"API__V2_KEY_", "x", "V2Key_", some ["api"], none⟩
    let whole : Item := ⟨"API__V2_KEY_", "x", "apiV2Key_", none, none⟩
    Options.flattened.flat = true ∧ (read .flattened text).items = [whole] ∧
      (read .patterned text).items = [item] ∧ item.Composes .patterned whole ∧
      (read .standard text).items = [item] ∧ item.Composes .standard whole ∧
      whole.Joins "api" item := by
  intro text item whole
  have flattened : (read .flattened text).items = [whole] := by decide
  have patterned : (read .patterned text).items = [item] := by decide
  have standard : (read .standard text).items = [item] := by decide
  have flat : Options.flattened.flat = true := rfl
  have own := (items_compose flat .patterned text).1
  have opened := (items_compose flat .standard text).1
  rw [flattened, patterned, List.forall₂_cons] at own
  rw [flattened, standard, List.forall₂_cons] at opened
  have joins := opened.1.directed rfl [] "api" ['_', 'V', '2', '_', 'K', 'E', 'Y', '_'] rfl
    (List.all_eq_true.mp (by decide)) (by decide) ⟨'V', by decide, by decide⟩
  exact ⟨flat, flattened, patterned, own.1, standard, opened.1, joins⟩

end EnvTemplate.Template
