import EnvTemplate.Proofs.Module.Members
import EnvTemplate.Proofs.Template.LineByLine

/-!
# One entry for each item

An item that stays has one entry in the module, and a replaced item has none. Nothing is told when
an item replaces another one of a different key, as happens when two keys of a group are shortened
to one name. When nothing is told the keys are different, unless keys are taken as they come, so
that an entry can be traced to its item by its key.
-/
namespace EnvTemplate.Template

variable {options : Options} {item : Item}

/-- Keys that are taken as they come have no groups. -/
theorem isGrouped_of_flat (flat : options.flat = true) {text : String}
    (member : item ∈ (read options text).items) : item.isGrouped = false := by
  rw [Item.isGrouped, group_of_ungrouped (.inl flat) member]

end EnvTemplate.Template

namespace EnvTemplate.Module

open Name (IsName)
open Template (Item Options read)

variable {items : List Item} {key : String} {entry : Entry}

/-- The chain of the entry begins with the builder of the key. -/
def Entry.Declares (key : String) (entry : Entry) : Prop :=
  ("schema(\"" ++ key ++ "\")").toList <+: entry.chain.toList

instance (key : String) : DecidablePred (Entry.Declares key) :=
  fun _ => inferInstanceAs (Decidable (_ <+: _))

/-- As names hold no quotes, the builder of an entry names the key of the entry only. -/
theorem Entry.declares_iff (named : IsName key.toList) (legible : IsName entry.key.toList) :
    entry.Declares key ↔ entry.key = key := by
  have unquoted : '"' ∉ key.toList := fun member => absurd (named _ member) (by decide)
  have other : '"' ∉ entry.key.toList := fun member => absurd (legible _ member) (by decide)
  constructor
  · rintro ⟨rest, same⟩
    simp only [Entry.chain, String.toList_append, List.append_assoc] at same
    have quoted : key.toList ++ '"' :: (')' :: rest) =
        entry.key.toList ++ '"' :: (')' :: entry.content.calls.toList) :=
      List.append_cancel_left same
    -- Both keys are what is read up to the quote.
    have reads := congrArg (readUntil '"') quoted
    rw [readUntil_append unquoted, readUntil_append other] at reads
    have keys : key.toList = entry.key.toList := congrArg Prod.fst (Option.some.inj reads)
    exact (String.toList_inj.mp keys).symm
  · rintro rfl
    exact ⟨entry.content.calls.toList, by simp [Entry.chain]⟩

/-- As many entries begin with the builder of a key as items with that key stay. -/
theorem countP_values {options : Options} {text : String} (dialect : Dialect)
    (named : IsName key.toList) :
    (Listing.ofItems dialect (read options text).items).members.values.countP (·.Declares key) =
      (staying (read options text).items).countP (·.key = key) := by
  rw [(Listing.values_members_perm dialect _).countP_eq, List.countP_map]
  refine List.countP_congr fun item stays => ?_
  have legible := (Template.legible_of_mem_items (mem_of_mem_staying stays)).key
  have declares : (Entry.ofItem item).Declares key ↔ item.key = key :=
    Entry.declares_iff named legible
  simp [declares]

/-- When nothing is told about a template and repeated keys would be, an item has one entry in the
module if it stays, and none if a later item has taken its place; the entry of an item is the one
that begins with the builder of its key. When keys are taken as they come, a key has as many entries
as it has items. -/
theorem countP_values_of_silent {options : Options} {text : String}
    (silent : (read options text).diagnostics = []) (dialect : Dialect) :
    let items := (read options text).items
    ∃ listing, readModule (source dialect items).toList = some listing ∧
      ∀ i : Fin items.length,
        listing.members.values.countP (·.Declares items[i].key) =
          if options.flat then items.countP (·.key = items[i].key)
          else if Stays items i then 1 else 0 := by
  intro items
  refine ⟨_, readModule_source_read dialect options text, fun i => ?_⟩
  have named : IsName items[i].key.toList :=
    (Template.legible_of_mem_items (List.getElem_mem _)).key
  rw [countP_values dialect named]
  cases flat : options.flat with
  | true =>
    have all : staying items = items :=
      staying_of_ungrouped fun _ member => Template.isGrouped_of_flat flat member
    rw [if_pos rfl, all]
  | false =>
    rw [if_neg Bool.false_ne_true]
    exact countP_staying (Template.nodup_keys_of_silent flat silent) i

/-- Two keys that a group shortens to one name: the later item has its one entry. -/
theorem countP_values_shortened :
    (read .standard "# @group: app\nAPP_NAME=x\nNAME=y\n").diagnostics = [] ∧
      ∃ listing, readModule
          (source .js (read .standard "# @group: app\nAPP_NAME=x\nNAME=y\n").items).toList =
          some listing ∧
        listing.members.values.countP (·.Declares "NAME") = 1 := by
  have silent : (read .standard "# @group: app\nAPP_NAME=x\nNAME=y\n").diagnostics = [] := by
    decide
  obtain ⟨listing, reads, counts⟩ := countP_values_of_silent silent .js
  have count := counts ⟨1, by decide⟩
  exact ⟨silent, listing, reads, count.trans (by decide)⟩

/-- Nothing is told, and yet the earlier item of two that a group shortens to one name has no entry,
and a key that is taken as it comes has one entry for each of its items. -/
theorem countP_values_silently :
    ((read .standard "# @group: app\nAPP_NAME=x\nNAME=y\n").diagnostics = [] ∧
      "APP_NAME" ∈ (read .standard "# @group: app\nAPP_NAME=x\nNAME=y\n").items.map (·.key) ∧
      ∃ listing, readModule
          (source .js (read .standard "# @group: app\nAPP_NAME=x\nNAME=y\n").items).toList =
          some listing ∧
        listing.members.values.countP (·.Declares "APP_NAME") = 0) ∧
    (read .flattened "FOO=a\nFOO=b\n").diagnostics = [] ∧
      ∃ listing, readModule (source .js (read .flattened "FOO=a\nFOO=b\n").items).toList =
          some listing ∧
        listing.members.values.countP (·.Declares "FOO") = 2 := by
  have lost : IsName "APP_NAME".toList := by decide
  have repeated : IsName "FOO".toList := by decide
  refine ⟨⟨by decide, by decide, _, readModule_source_read .js .standard _, ?_⟩,
    by decide, _, readModule_source_read .js .flattened _, ?_⟩
  · rw [countP_values .js lost]
    decide
  · rw [countP_values .js repeated]
    decide

end EnvTemplate.Module
