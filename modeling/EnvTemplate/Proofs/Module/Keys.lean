import EnvTemplate.Proofs.Module.Members
import EnvTemplate.Proofs.Name.PropertyName

/-!
# The keys of the module

The names of items and groups stand in the module without quotes. An item without a group is named
by its whole key, and the camel case of a key is an identifier. Inside a group an item is named by
what is left of its key, which may be nothing or start with a digit, and a group that a directive
opens may have a name with hyphens or a digit in front. These are all the names that may not stand
without quotes.
-/
namespace EnvTemplate.Template

open Name (isPropertyName startsWithDigit isPlainInteger)

variable {options : Options} {item : Item} {text : String} {key : List Char}
  {open? : Option (List String)}

/-- The names of an item and of the groups around it may stand without quotes. -/
structure Item.Plain (item : Item) : Prop where
  /-- Something is left of the key. -/
  named : item.property ≠ ""
  /-- The groups are named without hyphens. -/
  joined : ∀ name ∈ item.group.getD [], '-' ∉ name.toList
  /-- A name that starts with a digit is an integer. -/
  numeric : ∀ name ∈ item.place,
    startsWithDigit name.toList = true → isPlainInteger name.toList = true

/-- Keys are words. -/
theorem isWordChar_of_isKey (valid : isKey key = true) : ∀ c ∈ key, Name.isWordChar c = true := by
  intro c member
  have continues := List.all_eq_true.mp (all_continuesKey_of_isKey valid) c member
  have other : c ≠ '-' := by
    rintro rfl
    exact absurd continues (by decide)
  exact (Name.isNameChar_iff.mp (isName_of_isKey valid c member)).resolve_right other

/-- The camel case of a key may stand without quotes. -/
theorem isPropertyName_camelChars_of_isKey (valid : isKey key = true) :
    isPropertyName (Name.camelChars key) = true := by
  have words := isWordChar_of_isKey valid
  obtain ⟨first, rest, rfl, starts⟩ := exists_startsKey_of_isKey valid
  exact Name.isPropertyName_camelChars (isUpper_of_startsKey starts) words

/-- A key that is not placed in a group names its property as a whole. -/
theorem placement_of_ungrouped
    (outside : ¬∃ name path, (placement options open? key).1 = some (name :: path)) :
    (placement options open? key).2 = key := by
  rcases placement_cases options open? key with kept | kept | ⟨_, _, named⟩ | ⟨path, _, inside⟩
  · rw [kept]
  · rw [kept]
  · exact absurd ⟨_, _, congrArg Prod.fst named⟩ outside
  · cases path with
    | nil => rw [inside, List.getLast?_nil, Option.map_none, Option.getD_none]
    | cons name path => exact absurd ⟨name, path, congrArg Prod.fst inside⟩ outside

/-- The name of an item without a group may stand without quotes. -/
theorem isPropertyName_of_ungrouped (member : item ∈ (read options text).items)
    (outside : item.isGrouped = false) : isPropertyName item.property.toList = true := by
  obtain ⟨index, key, value, valid, rfl⟩ := exists_declare_of_mem_items member
  have unplaced := mt Item.isGrouped_iff.mpr (Bool.eq_false_iff.mp outside)
  simp only [declare, String.toList_ofList] at unplaced ⊢
  rw [placement_of_ungrouped unplaced]
  exact isPropertyName_camelChars_of_isKey valid

/-- No item has a hyphen in its name. -/
theorem hyphen_notMem_property (member : item ∈ (read options text).items) :
    '-' ∉ item.property.toList := by
  obtain ⟨index, key, value, valid, rfl⟩ := exists_declare_of_mem_items member
  simp only [declare, String.toList_ofList]
  intro held
  have word := Name.forall_isWordChar_camelChars
    (fun c part => isWordChar_of_isKey valid c ((placement_suffix _ _ _).subset part)) _ held
  exact absurd word (by decide)

/-- The names that lead to an item may stand without quotes when the item is plain. -/
theorem isPropertyName_place_iff (member : item ∈ (read options text).items) :
    (∀ name ∈ item.place, isPropertyName name.toList = true) ↔ item.Plain := by
  have legible := legible_of_mem_items member
  have groups : ∀ name ∈ item.group.getD [], name.toList ≠ [] := by
    cases inside : item.group with
    | none => simp
    | some path => exact ne_nil_of_mem_group member inside
  have named := legible.place
  constructor
  · intro legal
    have each := fun name leads => (Name.isPropertyName_iff (named name leads)).mp (legal name leads)
    refine ⟨?_, fun name listed => (each name (Item.mem_place_iff.mpr (.inl listed))).2.1,
      fun name leads => (each name leads).2.2⟩
    have filled := (each item.property (Item.mem_place_iff.mpr (.inr rfl))).1
    exact fun empty => filled (by rw [empty]; rfl)
  · rintro ⟨filled, joined, numeric⟩ name leads
    refine (Name.isPropertyName_iff (named name leads)).mpr ?_
    rcases Item.mem_place_iff.mp leads with listed | rfl
    · exact ⟨groups name listed, joined name listed, numeric name leads⟩
    · refine ⟨fun empty => filled ?_, hyphen_notMem_property member, numeric _ leads⟩
      exact String.toList_inj.mp (empty.trans rfl)

end EnvTemplate.Template

namespace EnvTemplate.Module

open Name (isPropertyName)
open Template (Item Options read)

/-- All names in the module may stand without quotes exactly when the items that stay in a group are
plain. -/
theorem isPropertyName_keys_iff (dialect : Dialect) (options : Options) (text : String) :
    let items := (read options text).items
    ∃ listing, readModule (source dialect items).toList = some listing ∧
      ((∀ key ∈ listing.members.keys, isPropertyName key.toList = true) ↔
        ∀ item ∈ staying items, item.isGrouped → item.Plain) := by
  intro items
  refine ⟨_, readModule_source_read dialect options text, ?_⟩
  have each : ∀ item ∈ staying items, (∀ name ∈ item.place, isPropertyName name.toList = true) ↔
      (item.isGrouped → item.Plain) := by
    intro item stays
    have member := mem_of_mem_staying stays
    cases grouped : item.isGrouped with
    | true => simpa using Template.isPropertyName_place_iff member
    | false =>
      have legal := Template.isPropertyName_of_ungrouped member grouped
      simpa [Item.place_of_ungrouped grouped] using legal
  simp only [Listing.mem_keys_members_iff]
  constructor
  · exact fun legal item stays => (each item stays).mp fun name leads =>
      legal name ⟨item, stays, leads⟩
  · rintro plain name ⟨item, stays, leads⟩
    exact (each item stays).mpr (plain item stays) name leads

/-- No error is told, and yet what a group leaves of a key starts with a digit and stands in the
module without quotes. -/
theorem digit_leads_key :
    (read .standard "# @group: app\nAPP_2FA=on\n").hasErrors = false ∧
      ∃ listing, readModule
          (source .js (read .standard "# @group: app\nAPP_2FA=on\n").items).toList = some listing ∧
        ∃ key ∈ listing.members.keys, isPropertyName key.toList = false := by
  refine ⟨by decide, _, readModule_source_read .js .standard _, "2fa", ?_, by decide⟩
  rw [Listing.mem_keys_members_iff]
  decide

end EnvTemplate.Module
