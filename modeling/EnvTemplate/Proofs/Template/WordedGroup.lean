import EnvTemplate.Proofs.Name.Words
import EnvTemplate.Proofs.Template.OpenGroup

/-!
# Groups of several words

A directive may name its group with several words, and the keys of the group may start with the
same words. Such a key is shortened by the words when there is one, and is kept whole when there
are more, because the name of the group keeps nothing of what joined the words.
-/
namespace EnvTemplate.Template

open Name (Spells camelChars hyphenate keyLead lastSegment)

variable {blankCloses : Bool} {lines : List Line} {index : Nat} {words : List (List Char)}
  {key rest argument : List Char} {path : List String}

/-- An assignment whose key starts with the words of its group: the last segment of the directive
that opened the group spells the words, and the key is these words in capital letters, an
underscore after each of them, and a text that starts with a capital letter. -/
structure WordedKey (blankCloses : Bool) (lines : List Line) (index : Nat)
    (words : List (List Char)) (key rest : List Char) : Prop where
  /-- The group is open, and its last segment spells the words. -/
  group : ∃ opener argument path, lines[opener]? = some (.directive argument) ∧
    Opened blankCloses lines opener index path ∧ Spells (lastSegment argument) words
  /-- The key starts with the words. -/
  leads : key = keyLead words ++ rest
  /-- What is left of it starts with a capital letter. -/
  capital : rest.head?.any startsKey = true

/-- The last name of an accepted path is the name of its last segment. -/
theorem getLast?_of_groupPath?_eq_ok (accepted : Name.groupPath? argument = .ok path) :
    path.getLast? = some (String.ofList (camelChars (hyphenate (lastSegment argument)))) := by
  have each := Name.groupNames?_eq_ok_iff.mp accepted
  obtain ⟨front, last, split⟩ : ∃ front last,
      Text.splitOn '.' (Text.trim argument) = front ++ [last] :=
    ⟨_, _, (List.dropLast_append_getLast (Text.splitOn_ne_nil '.' (Text.trim argument))).symm⟩
  rw [split] at each
  have turned := List.rel_reverse each
  rw [List.reverse_concat] at turned
  obtain ⟨name, names, named, _, same⟩ := List.forall₂_cons_left_iff.mp turned
  obtain ⟨_, _, rfl⟩ := Name.groupName?_eq_ok_iff.mp named
  rw [← List.head?_reverse, same, List.head?_cons, lastSegment, split, List.getLast?_concat,
    Option.getD_some]

/-- A key that starts with the words of its group names its property by what follows them, if there
is one word, and by the whole key otherwise. -/
theorem property_of_wordedKey (bound : index ≤ lines.length)
    (worded : WordedKey blankCloses lines index words key rest) (value : List Char) :
    (declare (.directed blankCloses) (contextAt (.directed blankCloses) lines index) key
        value).property =
      String.ofList (camelChars (if words.length = 1 then rest else key)) := by
  obtain ⟨opener, argument, path, directive, opened, spells⟩ := worded.group
  have directed : (Options.directed blankCloses).followsDirectives = true := rfl
  have group := (group_contextAt_iff bound).mpr ⟨opener, opened⟩
  have accepted : Name.groupPath? argument = .ok path := by
    obtain ⟨line, listed, argument', same, accepted⟩ := opened.opens
    rw [directive] at listed
    cases listed
    cases same
    exact accepted
  rw [declare, group, placement_of_followsDirectives directed,
    getLast?_of_groupPath?_eq_ok accepted, worded.leads]
  simp [spells.withoutLead_eq rest]

/-- **Keys in groups of several words.** Every assignment declares an item. When its key starts
with the words that the last segment of its group spells, the item is named by what follows the
words if there is one word, and by the whole key if there are more. -/
theorem items_of_worded_keys (blankCloses : Bool) (text : String) :
    let lines := linesOf text.toList
    List.Forall₂
      (fun index item => ∃ key value, lines[index]? = some (.assignment key value) ∧
        item.key = String.ofList key ∧
        ∀ words rest, WordedKey blankCloses lines index words key rest →
          item.property = String.ofList (camelChars (if words.length = 1 then rest else key)))
      (assignmentsOf lines) (read (.directed blankCloses) text).items := by
  refine items_forall₂ fun index bound item found => ?_
  obtain ⟨line, listed, gives⟩ := Option.bind_eq_some_iff.mp found
  cases line with
  | assignment key value =>
    obtain rfl := Option.some.inj gives
    exact ⟨key, value, listed, rfl, fun words rest worded =>
      property_of_wordedKey (Nat.le_of_lt bound) worded value⟩
  | _ => contradiction

/-- The directive on the first of two lines opens the group of the second. -/
theorem wordedKey_second (accepted : Name.groupPath? argument = .ok path)
    (spells : Spells (lastSegment argument) words) (leads : key = keyLead words ++ rest)
    (capital : rest.head?.any startsKey = true) (value : List Char) :
    WordedKey blankCloses [.directive argument, .assignment key value] 1 words key rest := by
  have opened : Opened blankCloses [.directive argument, .assignment key value] 0 1 path :=
    ⟨Nat.zero_lt_one, ⟨_, rfl, argument, rfl, accepted⟩, fun _ after before => by omega,
      fun _ _ after before => by omega⟩
  exact ⟨⟨0, argument, path, rfl, opened, spells⟩, leads, capital⟩

/-- A key that starts with the only word of its group is shortened by it. -/
theorem items_of_worded_keys_mail :
    let text := "# @group: core.Mail\nMAIL_FROM=x\n"
    WordedKey true (linesOf text.toList) 1 ["Mail".toList] "MAIL_FROM".toList "FROM".toList ∧
      ∃ item, (read .standard text).items = [item] ∧
        item.property = String.ofList (camelChars "FROM".toList) := by
  intro text
  have lines : linesOf text.toList = [.directive "core.Mail".toList,
      .assignment "MAIL_FROM".toList "x".toList] := by decide
  have spells : Spells (lastSegment "core.Mail".toList) ["Mail".toList] := by
    have segment : lastSegment "core.Mail".toList = "Mail".toList := by decide
    rw [segment]
    exact .single (by decide)
  have worded : WordedKey true (linesOf text.toList) 1 ["Mail".toList] "MAIL_FROM".toList
      "FROM".toList := by
    rw [lines]
    have path : Name.groupPath? "core.Mail".toList = .ok ["core", "mail"] := by decide
    exact wordedKey_second path spells (by decide) (by decide) _
  have single : (read (.directed true) text).items =
      [⟨"MAIL_FROM", "x", "from", some ["core", "mail"], none⟩] := by decide
  have indices : assignmentsOf (linesOf text.toList) = [1] := by decide
  have named : List.Forall₂ _ _ _ := items_of_worded_keys true text
  rw [indices, single, List.forall₂_cons] at named
  obtain ⟨⟨key, value, listed, _, property⟩, _⟩ := named
  rw [lines] at listed
  cases listed
  exact ⟨worded, _, single, property ["Mail".toList] "FROM".toList worded⟩

/-- A key that starts with the two words of its group keeps them in its name. -/
theorem worded_key_kept :
    let text := "# @group: api client\nAPI_CLIENT_ID=x\n"
    WordedKey true (linesOf text.toList) 1 ["api".toList, "client".toList] "API_CLIENT_ID".toList
        "ID".toList ∧
      (read .standard text).items =
        [⟨"API_CLIENT_ID", "x", "apiClientId", some ["apiClient"], none⟩] ∧
      "apiClientId" ≠ String.ofList (camelChars "ID".toList) := by
  intro text
  have lines : linesOf text.toList = [.directive "api client".toList,
      .assignment "API_CLIENT_ID".toList "x".toList] := by decide
  have spells : Spells (lastSegment "api client".toList) ["api".toList, "client".toList] := by
    have segment : lastSegment "api client".toList = "api".toList ++ ' ' :: "client".toList := by
      decide
    rw [segment]
    exact .joined (by decide) rfl (.single (by decide))
  refine ⟨?_, by decide, by decide⟩
  rw [lines]
  have path : Name.groupPath? "api client".toList = .ok ["apiClient"] := by decide
  exact wordedKey_second path spells (by decide) (by decide) _

end EnvTemplate.Template
