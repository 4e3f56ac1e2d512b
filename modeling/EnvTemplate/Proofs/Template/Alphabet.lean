import EnvTemplate.Proofs.Name.PropertyName
import EnvTemplate.Proofs.Template.Line
import EnvTemplate.Proofs.Template.Run

/-!
# The characters of items

Whatever a template holds, the keys, the property names and the group names of its items are made
of characters of names: keys by the form of an assignment, property names because they are the
camel case of a part of a key, and group names because only accepted paths open groups. No group
has an empty name, since something is left of an accepted segment and of the first word of a key.
-/
namespace EnvTemplate.Template

open Name (IsName)

variable {options : Options} {context : Context} {lines : List Line} {index : Nat} {item : Item}
  {path : List String} {key value : List Char}

/-- The names of an item are made of characters of names. -/
structure Item.Legible (item : Item) : Prop where
  /-- The environment key. -/
  key : IsName item.key.toList
  /-- The name of the value. -/
  property : IsName item.property.toList
  /-- The names of the groups around it. -/
  groups : ∀ path, item.group = some path → ∀ name ∈ path, IsName name.toList

/-- Keys start with a capital letter. -/
theorem isUpper_of_startsKey {c : Char} (starts : startsKey c = true) : c.isUpper = true := by
  rw [startsKey, Bool.and_eq_true, decide_eq_true_eq, decide_eq_true_eq] at starts
  exact decide_eq_true starts

/-- Keys are names. -/
theorem isName_of_isKey (valid : isKey key = true) : IsName key := by
  intro c member
  have continues := List.all_eq_true.mp (all_continuesKey_of_isKey valid) c member
  simp only [continuesKey, Bool.or_eq_true, beq_iff_eq] at continues
  rcases continues with (upper | digit) | under
  · exact Name.isNameChar_of_capital (by rw [isUpper_of_startsKey upper, Bool.true_or])
  · exact Name.isNameChar_of_capital (by rw [digit, Bool.or_true])
  · simp [Name.isNameChar, under]

/-- Keys have a first character. -/
theorem exists_startsKey_of_isKey (valid : isKey key = true) :
    ∃ first rest, key = first :: rest ∧ startsKey first = true := by
  cases key with
  | nil => contradiction
  | cons first rest =>
    cases rest with
    | nil => contradiction
    | cons second rest => exact ⟨first, _, rfl, ((Bool.and_eq_true _ _).mp valid).1⟩

/-- A key has a group of its own. -/
theorem ownGroup_ne_nil (valid : isKey key = true) : ownGroup key ≠ [] := by
  obtain ⟨first, rest, rfl, starts⟩ := exists_startsKey_of_isKey valid
  have other : first ≠ '_' := by
    rintro rfl
    exact absurd starts (by decide)
  simp [ownGroup, other]

/-- A group that is open after a line was open before it, or its path is accepted. -/
theorem group_next_cases {line : Line} (opened : (context.next options line).group = some path) :
    context.group = some path ∨ ∃ argument, Name.groupPath? argument = .ok path := by
  cases line with
  | blank => cases closes : options.blankCloses <;> simp_all [Context.next]
  | directive argument =>
    cases follows : options.followsDirectives with
    | false => exact .inl (by simpa [Context.next, follows] using opened)
    | true =>
      cases found : Name.groupPath? argument with
      | error reason => exact .inl (by simpa [Context.next, follows, found] using opened)
      | ok other =>
        have same : other = path := by simpa [Context.next, follows, found] using opened
        exact .inr ⟨argument, same ▸ found⟩
  | _ => exact .inl opened

/-- A group that is open was opened by an accepted path. -/
theorem exists_groupPath?_of_group
    (opened : (contextAt options lines index).group = some path) :
    ∃ argument, Name.groupPath? argument = .ok path := by
  revert opened
  refine List.foldlRecOn (motive := fun context : Context => context.group = some path → _) _ _
    (fun opened => absurd opened (by simp [Context.start])) fun context held line _ opened => ?_
  exact (group_next_cases opened).elim held id

/-- What a key has after its own group ends the key. -/
theorem ownRest_suffix (key : List Char) : ownRest key <:+ key := by
  unfold ownRest
  split
  · next rest after => exact (List.suffix_cons _ rest).trans (after ▸ List.dropWhile_suffix _)
  · exact List.suffix_rfl

/-- Where a key is placed, the part of it that names the property ends the key. -/
theorem placement_suffix (options : Options) (open? : Option (List String)) (key : List Char) :
    (placement options open? key).2 <:+ key := by
  rcases placement_cases options open? key with kept | kept | ⟨_, _, named⟩ | ⟨path, _, shortened⟩
  · simp [kept]
  · simp [kept]
  · rw [named]
    exact ownRest_suffix key
  · rw [shortened]
    cases path.getLast? with
    | none => exact List.suffix_rfl
    | some last => exact Name.withoutLead_suffix key last.toList

/-- The groups around a placed key have a property when the group of the key itself and the open
groups have it. -/
theorem placement_groups {p : List Char → Prop} {open? : Option (List String)}
    (own : p (Name.camelChars (ownGroup key)))
    (opened : ∀ path, open? = some path → ∀ name ∈ path, p name.toList)
    (placed : (placement options open? key).1 = some path) : ∀ name ∈ path, p name.toList := by
  rcases placement_cases options open? key with kept | kept | ⟨_, _, named⟩ | ⟨_, same, inside⟩
  · rw [kept] at placed
    contradiction
  · rw [kept] at placed
    exact opened path placed
  · rw [named] at placed
    obtain rfl := Option.some.inj placed
    simpa using own
  · rw [inside] at placed
    exact opened path (same.trans placed)

/-- An item is declared by the assignment on some line, in the context before that line. -/
theorem exists_assignment_of_mem_items {text : String} (member : item ∈ (read options text).items) :
    ∃ index line key value, assignment? line = some (key, value) ∧
      item = declare options (contextAt options (linesOf text.toList) index) key value := by
  rw [read_items] at member
  obtain ⟨index, _, found⟩ := List.mem_filterMap.mp member
  obtain ⟨line, listed, gives⟩ := Option.bind_eq_some_iff.mp found
  cases line with
  | assignment key value =>
    rw [linesOf_eq, List.getElem?_map] at listed
    obtain ⟨trimmed, _, same⟩ := Option.map_eq_some_iff.mp listed
    exact ⟨index, trimmed, key, value, Line.ofTrimmed_eq_assignment_iff.mp same,
      (Option.some.inj gives).symm⟩
  | _ => simp [item?] at gives

/-- An item is declared by a key and a value, in the context before some line. -/
theorem exists_declare_of_mem_items {text : String} (member : item ∈ (read options text).items) :
    ∃ index key value, isKey key = true ∧
      item = declare options (contextAt options (linesOf text.toList) index) key value := by
  obtain ⟨index, line, key, value, assigned, same⟩ := exists_assignment_of_mem_items member
  exact ⟨index, key, value, (assignment?_eq_some_iff.mp assigned).2.1, same⟩

/-- The items of a template have names that are made of characters of names. -/
theorem legible_of_mem_items {text : String} (member : item ∈ (read options text).items) :
    item.Legible := by
  obtain ⟨index, key, value, valid, rfl⟩ := exists_declare_of_mem_items member
  have named := isName_of_isKey valid
  have own : IsName (Name.camelChars (ownGroup key)) := Name.camelChars_isName
    fun c held => named c ((List.takeWhile_sublist _).subset held)
  refine ⟨?_, ?_, fun path => placement_groups own fun path opened => ?_⟩
  · simpa [declare] using named
  · simp only [declare, String.toList_ofList]
    exact Name.camelChars_isName fun c held => named c ((placement_suffix _ _ _).subset held)
  · obtain ⟨argument, accepted⟩ := exists_groupPath?_of_group opened
    exact Name.isName_of_groupPath?_eq_ok accepted

/-- No group has an empty name. -/
theorem ne_nil_of_mem_group {text : String} (member : item ∈ (read options text).items)
    (inside : item.group = some path) : ∀ name ∈ path, name.toList ≠ [] := by
  obtain ⟨index, key, value, valid, rfl⟩ := exists_declare_of_mem_items member
  have named : IsName (ownGroup key) := fun c held =>
    isName_of_isKey valid c ((List.takeWhile_sublist _).subset held)
  refine placement_groups (p := (· ≠ [])) ?_ ?_ inside
  · exact Name.camelChars_ne_nil named (ownGroup_ne_nil valid)
  · intro path opened name listed
    obtain ⟨argument, accepted⟩ := exists_groupPath?_of_group opened
    obtain ⟨_, _, segment⟩ := Name.exists_groupName?_of_mem accepted listed
    exact Name.ne_nil_of_groupName?_eq_ok segment

end EnvTemplate.Template
