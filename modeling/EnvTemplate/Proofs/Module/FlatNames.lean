import EnvTemplate.Proofs.Module.Entries
import EnvTemplate.Proofs.Name.UpperSnake
import EnvTemplate.Proofs.Template.Composition

/-!
# Names of keys that are taken as they come

A module for keys that are taken as they come has no groups, and its names are the camel cases of
the keys in the order of their lines. For keys of words with capital letters nothing is lost in
their names, so different keys have different names, and no name stands twice in the module unless
a key does in the template.
-/
namespace EnvTemplate.Template

variable {options : Options} {item : Item} {text : String}

/-- A key that is taken as it comes is named by its camel case. -/
theorem property_of_flat (flat : options.flat = true) (member : item ∈ (read options text).items) :
    item.property = Name.camelCase item.key := by
  obtain ⟨index, key, value, _, rfl⟩ := exists_declare_of_mem_items member
  rw [declare_flat flat]
  simp [Name.camelCase, declare]

end EnvTemplate.Template

namespace EnvTemplate.Module

open Name (IsUpperSnake camelCase camelChars restored)
open Template (Item Line Options linesOf read)

/-- The names of items without a group are their own, in order. -/
theorem keys_members_of_ungrouped {items : List Item} (dialect : Dialect)
    (ungrouped : ∀ item ∈ items, item.isGrouped = false) :
    (Listing.ofItems dialect items).members.keys = items.map (·.property) := by
  have none : items.filter (·.isGrouped) = [] :=
    List.filter_eq_nil_iff.mpr fun item member => by simp [ungrouped item member]
  have all : topLevel items = items :=
    List.filter_eq_self.mpr fun item member => by simp [ungrouped item member]
  have tree : Tree.ofItems items = .empty := by rw [Tree.ofItems, none, List.foldl_nil]
  rw [Listing.members, Listing.ofItems, Outline.keys_append, Outline.keys_ofEntries, tree, all,
    List.map_map]
  rfl

/-- The names in a module for keys that are taken as they come are the camel cases of the keys, in
the order of the lines. -/
theorem keys_members_of_flat {options : Options} (flat : options.flat = true) (dialect : Dialect)
    (text : String) :
    (Listing.ofItems dialect (read options text).items).members.keys =
      ((linesOf text.toList).filterMap Line.key?).map camelCase := by
  have keys : (read options text).items.map (·.key) = (linesOf text.toList).filterMap Line.key? :=
    Template.map_key_items _
  rw [keys_members_of_ungrouped dialect fun _ member => Template.isGrouped_of_flat flat member,
    ← keys, List.map_map]
  exact List.map_congr_left fun item member => Template.property_of_flat flat member

/-- Keys of words with capital letters and single underscores between them are restored from their
camel case, so that different keys of this form have different camel cases. These are the names of
keys that are taken as they come; and a template of keys of this form, none of them assigned twice,
gives a module whose names are the camel cases of the keys in the order of the lines, all of them
different. -/
theorem flat_names_restored (dialect : Dialect) (options : Options) (flat : options.flat = true)
    (text : String) :
    (∀ key, IsUpperSnake key → restored (camelChars key) = key) ∧
    (∀ key other : String, IsUpperSnake key.toList → IsUpperSnake other.toList → key ≠ other →
      camelCase key ≠ camelCase other) ∧
    (∀ item ∈ (read options text).items, item.property = camelCase item.key) ∧
    ((∀ key ∈ (linesOf text.toList).filterMap Line.key?, IsUpperSnake key.toList) →
      ((linesOf text.toList).filterMap Line.key?).Nodup →
      ∃ listing, readModule (source dialect (read options text).items).toList = some listing ∧
        listing.members.keys = ((linesOf text.toList).filterMap Line.key?).map camelCase ∧
        listing.members.keys.Nodup) := by
  have apart : ∀ key other : String, IsUpperSnake key.toList → IsUpperSnake other.toList →
      camelCase key = camelCase other → key = other := by
    intro key other snake snakeOther same
    have chars : camelChars key.toList = camelChars other.toList := by
      simpa [camelCase] using congrArg String.toList same
    exact String.toList_inj.mp (Name.camelChars_injective snake snakeOther chars)
  refine ⟨fun key => Name.restored_camelChars, fun key other snake snakeOther different same =>
    different (apart key other snake snakeOther same),
    fun item => Template.property_of_flat flat, fun snake distinct => ?_⟩
  have names := keys_members_of_flat flat dialect text
  refine ⟨_, readModule_source_read dialect options text, names, ?_⟩
  rw [names]
  exact distinct.map_on fun key member other memberOther same =>
    apart key other (snake key member) (snake other memberOther) same

/-- Words with digits, a word that begins with the word before it, and keys of which one begins the
other. -/
theorem flat_names_restored_servers :
    let text := "DB_URL=a\n\nDB=b\nS3_S3X=c\n"
    Options.flattened.flat = true ∧
      restored (camelChars "S3_S3X".toList) = "S3_S3X".toList ∧
      (∀ key ∈ (linesOf text.toList).filterMap Line.key?, IsUpperSnake key.toList) ∧
      ((linesOf text.toList).filterMap Line.key?).Nodup ∧
      ∃ listing, readModule (source .js (read .flattened text).items).toList = some listing ∧
        listing.members.keys = ["dbUrl", "db", "s3S3x"] ∧ listing.members.keys.Nodup := by
  intro text
  have keys : (linesOf text.toList).filterMap Line.key? = ["DB_URL", "DB", "S3_S3X"] := by decide
  have server : IsUpperSnake "S3_S3X".toList :=
    ⟨["S3".toList, "S3X".toList], by decide, by decide, by decide⟩
  have snake : ∀ key ∈ (linesOf text.toList).filterMap Line.key?, IsUpperSnake key.toList := by
    rw [keys]
    simp only [List.forall_mem_cons]
    exact ⟨⟨["DB".toList, "URL".toList], by decide, by decide, by decide⟩,
      ⟨["DB".toList], by decide, by decide, by decide⟩, server, by simp⟩
  have distinct : ((linesOf text.toList).filterMap Line.key?).Nodup := by
    rw [keys]
    decide
  obtain ⟨restores, _, _, names⟩ := flat_names_restored .js .flattened rfl text
  obtain ⟨listing, reads, order, different⟩ := names snake distinct
  refine ⟨rfl, restores _ server, snake, distinct, listing, reads, ?_, different⟩
  rw [order, keys]
  decide

end EnvTemplate.Module
