import EnvTemplate.Module.Source
import EnvTemplate.Proofs.Module.Leaves
import Mathlib.Data.List.FinRange
import Mathlib.Data.List.Induction

/-!
# The items that stay in a tree

An item of a list stays in the tree of the list exactly when the place of no later grouped item
overlaps with its own place. A grouped item at the end of the list always stays, and clears its
place from the tree of the items before it. The items without a group stay outside the tree.
-/
namespace EnvTemplate.Module

open Template (Item)

/-- The grouped items of a list whose places overlap with no place of a later grouped item. -/
def lasting : List Item → List Item
  | [] => []
  | item :: rest =>
    if item.isGrouped ∧ ∀ later ∈ rest, later.isGrouped → ¬Overlap item.place later.place then
      item :: lasting rest
    else lasting rest

/-- A grouped item at the end of a list stays, and the items stay with it that do not overlap. -/
theorem lasting_append_singleton {item : Item} (grouped : item.isGrouped) (items : List Item) :
    lasting (items ++ [item]) =
      (lasting items).filter (fun held => ¬Overlap held.place item.place) ++ [item] := by
  induction items with
  | nil => simp [lasting, grouped]
  | cons first rest ih =>
    simp only [List.cons_append, lasting, List.mem_append, List.mem_singleton, ih]
    grind

/-- An item without a group at the end of a list changes nothing. -/
theorem lasting_append_ungrouped {item : Item} (ungrouped : ¬item.isGrouped)
    (items : List Item) : lasting (items ++ [item]) = lasting items := by
  induction items with
  | nil => simp [lasting, ungrouped]
  | cons first rest ih =>
    simp only [List.cons_append, lasting, List.mem_append, List.mem_singleton, ih]
    grind

/-- The leaves of the tree of a list are its lasting items, each at its place. -/
theorem leaves_perm_lasting (items : List Item) :
    (Tree.ofItems items).leaves.Perm ((lasting items).map fun item => (item.place, item)) := by
  induction items using List.reverseRecOn with
  | nil => exact .refl _
  | append_singleton items item ih =>
    rw [Tree.ofItems_append_singleton]
    by_cases grouped : item.isGrouped
    · rw [if_pos grouped, lasting_append_singleton grouped, List.map_append]
      have cleared : clear item.place ((lasting items).map fun item => (item.place, item)) =
          ((lasting items).filter fun held => ¬Overlap held.place item.place).map
            fun item => (item.place, item) := by
        simp [clear, List.filter_map, Function.comp_def]
      refine (Tree.leaves_insert_perm _ (Tree.ofItems_distinct items)).trans ?_
      rw [← cleared]
      exact ((ih.filter _).cons _).trans (List.perm_append_singleton _ _).symm
    · rw [if_neg grouped, lasting_append_ungrouped grouped]
      exact ih

/-- Whether the item at an index is grouped and its place overlaps with the place of no later
grouped item. -/
def Lasts (items : List Item) (i : Fin items.length) : Prop :=
  items[i].isGrouped ∧
    ∀ j : Fin items.length, i < j → items[j].isGrouped → ¬Overlap items[i].place items[j].place

instance (items : List Item) : DecidablePred (Lasts items) :=
  fun _ => inferInstanceAs (Decidable (_ ∧ ∀ _, _))

variable {first : Item} {rest : List Item}

/-- The first item lasts when no item of the rest is in its way. -/
theorem lasts_zero_iff :
    Lasts (first :: rest) (0 : Fin (rest.length + 1)) ↔ first.isGrouped ∧
      ∀ later ∈ rest, later.isGrouped → ¬Overlap first.place later.place := by
  simp only [Lasts, Fin.getElem_fin, List.forall_mem_iff_getElem, List.length_cons]
  rw [Fin.forall_fin_succ]
  simp [Fin.forall_iff]

/-- Whether a later item lasts does not depend on the first one. -/
theorem lasts_succ_iff (i : Fin rest.length) : Lasts (first :: rest) i.succ ↔ Lasts rest i := by
  simp only [Lasts, Fin.getElem_fin, Fin.val_succ, List.getElem_cons_succ, List.length_cons]
  rw [Fin.forall_fin_succ]
  simp

/-- The lasting items are those at the indices that last. -/
theorem lasting_eq_map (items : List Item) :
    lasting items = ((List.finRange items.length).filter (Lasts items ·)).map (items[·]) := by
  induction items with
  | nil => rfl
  | cons first rest ih =>
    have indices : List.finRange (first :: rest).length =
        (0 : Fin (rest.length + 1)) :: (List.finRange rest.length).map Fin.succ :=
      List.finRange_succ
    have later : (((List.finRange rest.length).map Fin.succ).filter
        (Lasts (first :: rest) ·)).map ((first :: rest)[·]) = lasting rest := by
      simp only [ih, List.filter_map, Function.comp_def, List.map_map, lasts_succ_iff]
      rfl
    rw [indices, lasting]
    by_cases lasts : Lasts (first :: rest) (0 : Fin (rest.length + 1))
    · rw [if_pos (lasts_zero_iff.mp lasts), List.filter_cons_of_pos (by simpa using lasts), List.map_cons]
      exact congrArg _ later.symm
    · rw [if_neg (mt lasts_zero_iff.mpr lasts), List.filter_cons_of_neg (by simpa using lasts)]
      exact later.symm

/-- An item lasts from some index of the list exactly when it is among the lasting items. -/
theorem mem_lasting_iff {items : List Item} {item : Item} :
    item ∈ lasting items ↔ ∃ i, Lasts items i ∧ items[i] = item := by
  simp [lasting_eq_map]

/-- No two lasting items overlap. -/
theorem lasting_pairwise (items : List Item) :
    (lasting items).Pairwise fun left right => ¬Overlap left.place right.place := by
  induction items with
  | nil => exact .nil
  | cons first rest ih =>
    by_cases lasts : first.isGrouped ∧
        ∀ later ∈ rest, later.isGrouped → ¬Overlap first.place later.place
    · rw [lasting, if_pos lasts]
      refine .cons (fun held member => ?_) ih
      obtain ⟨i, grouped, rfl⟩ := mem_lasting_iff.mp member
      exact lasts.2 _ (List.getElem_mem _) grouped.1
    · rw [lasting, if_neg lasts]
      exact ih

/-- The items after an index are those at the later indices. -/
theorem mem_drop_iff {items : List Item} {item : Item} (i : Fin items.length) :
    item ∈ items.drop (i + 1) ↔ ∃ j, i < j ∧ items[j] = item := by
  rw [List.mem_drop_iff_getElem]
  constructor
  · rintro ⟨j, bound, same⟩
    exact ⟨⟨i + 1 + j, by omega⟩, Fin.lt_def.mpr (by simp only; omega), same⟩
  · rintro ⟨j, later, same⟩
    have offset : i.val + 1 + (j - (i + 1)) = j := by
      have := Fin.lt_def.mp later
      omega
    refine ⟨j - (i + 1), by omega, ?_⟩
    simp only [offset]
    exact same

/-- The leaves of the tree of a list are, each once, the items at the indices that last, each at its
place; an index lasts exactly when its item stands at its place in the tree and is not repeated
later in the list; and the paths of no two leaves overlap. -/
theorem leaves_ofItems (items : List Item) :
    (Tree.ofItems items).leaves.Perm
        (((List.finRange items.length).filter (Lasts items ·)).map
          fun i => (items[i].place, items[i])) ∧
      (∀ i : Fin items.length, Lasts items i ↔
        (items[i].place, items[i]) ∈ (Tree.ofItems items).leaves ∧
          items[i] ∉ items.drop (i + 1)) ∧
      (Tree.ofItems items).leaves.Pairwise fun left right => ¬Overlap left.1 right.1 := by
  have stay := leaves_perm_lasting items
  refine ⟨?_, fun i => ?_, ?_⟩
  · simpa only [lasting_eq_map, List.map_map, Function.comp_def] using stay
  · have stays_iff : (items[i].place, items[i]) ∈ (Tree.ofItems items).leaves ↔
        ∃ j, Lasts items j ∧ items[j] = items[i] := by
      rw [stay.mem_iff, ← mem_lasting_iff]
      simp
    rw [stays_iff, mem_drop_iff]
    constructor
    · refine fun lasts => ⟨⟨i, lasts, rfl⟩, fun ⟨j, later, same⟩ => ?_⟩
      exact lasts.2 j later (same ▸ lasts.1) (same ▸ .inl List.prefix_rfl)
    · rintro ⟨⟨j, lasts, same⟩, final⟩
      rcases lt_trichotomy i j with later | rfl | earlier
      · exact absurd ⟨j, later, same⟩ final
      · exact lasts
      · exact absurd (same ▸ .inl List.prefix_rfl) (lasts.2 i earlier (same ▸ lasts.1))
  · refine (stay.pairwise_iff fun apart overlap => apart overlap.symm).mpr ?_
    exact List.pairwise_map.mpr (lasting_pairwise items)

variable {items : List Item}

/-- An item has a value in the module: no later grouped item takes its place, or it has no group. -/
def Stays (items : List Item) (i : Fin items.length) : Prop :=
  Lasts items i ∨ ¬items[i].isGrouped

instance (items : List Item) : DecidablePred (Stays items) :=
  fun _ => inferInstanceAs (Decidable (_ ∨ _))

/-- The items that have a value in the module, in their order. -/
def staying (items : List Item) : List Item :=
  ((List.finRange items.length).filter (Stays items ·)).map (items[·])

/-- The items that stay are items of the list. -/
theorem mem_of_mem_staying {item : Item} (stays : item ∈ staying items) : item ∈ items := by
  obtain ⟨i, _, rfl⟩ := List.mem_map.mp stays
  exact List.getElem_mem _

/-- The items outside all groups are those at the indices without a group. -/
theorem topLevel_eq_map (items : List Item) :
    topLevel items = ((List.finRange items.length).filter (!items[·].isGrouped)).map (items[·]) := by
  have listed : (List.finRange items.length).map (items[·]) = items :=
    List.map_getElem_finRange items
  calc topLevel items = ((List.finRange items.length).map (items[·])).filter (!·.isGrouped) := by
        rw [listed, topLevel]
    _ = _ := by rw [List.filter_map, Function.comp_def]

/-- The items that stay are those that last in the tree and those without a group. -/
theorem perm_staying (items : List Item) : (lasting items ++ topLevel items).Perm (staying items) := by
  -- An item that lasts has a group, so no index is of both kinds.
  have lasts : (List.finRange items.length).filter (Lasts items ·) =
      ((List.finRange items.length).filter (Stays items ·)).filter (Lasts items ·) := by
    rw [List.filter_filter]
    refine List.filter_congr fun i _ => ?_
    by_cases last : Lasts items i <;> simp [last, Stays]
  have others : (List.finRange items.length).filter (!items[·].isGrouped) =
      ((List.finRange items.length).filter (Stays items ·)).filter
        fun i => !decide (Lasts items i) := by
    rw [List.filter_filter]
    refine List.filter_congr fun i _ => ?_
    by_cases last : Lasts items i
    · have grouped : items[i].isGrouped = true := last.1
      simpa [last] using grouped
    · simp [last, Stays]
  rw [lasting_eq_map, topLevel_eq_map, lasts, others, ← List.map_append, staying]
  exact (List.filter_append_perm _ _).map _

/-- When the keys of a list differ, only an item itself can stay with its key. -/
theorem countP_staying (distinct : (items.map (·.key)).Nodup) (i : Fin items.length) :
    (staying items).countP (·.key = items[i].key) = if Stays items i then 1 else 0 := by
  have same : ∀ j : Fin items.length, items[j].key = items[i].key ↔ j = i := by
    intro j
    constructor
    · intro equal
      have item : items[j] = items[i] :=
        List.inj_on_of_nodup_map distinct (List.getElem_mem _) (List.getElem_mem _) equal
      exact Fin.ext ((List.Nodup.of_map _ distinct).getElem_inj_iff.mp item)
    · rintro rfl
      rfl
  have once : ((List.finRange items.length).filter (Stays items ·)).Nodup :=
    (List.nodup_finRange _).filter _
  rw [staying, List.countP_map]
  simp only [Function.comp_def, same]
  calc _ = ((List.finRange items.length).filter (Stays items ·)).count i := by
        rw [List.count]
        exact List.countP_congr fun j _ => by simp
    _ = _ := by rw [once.count]; simp

/-- Items without a group all stay. -/
theorem staying_of_ungrouped (ungrouped : ∀ item ∈ items, item.isGrouped = false) :
    staying items = items := by
  have all : (List.finRange items.length).filter (Stays items ·) = List.finRange items.length := by
    refine List.filter_eq_self.mpr fun i _ => ?_
    have outside : items[i].isGrouped = false := ungrouped _ (List.getElem_mem _)
    exact decide_eq_true (.inr (by rw [outside]; exact Bool.false_ne_true))
  rw [staying, all]
  exact List.map_getElem_finRange items

end EnvTemplate.Module
