import EnvTemplate.Proofs.Template.Independence
import EnvTemplate.Proofs.Template.LineByLine

/-!
# Items written as a template

The assignments of the items, one on each line, are a template again. Its lines are the lines of the
first template that declare something, as they were trimmed there: trimming has nothing more to
take from them, and no value holds a line feed. Where a line declares what it declares by itself,
the items of both templates are the same.
-/
namespace EnvTemplate.Template

variable {options : Options}

/-- A template of nothing but the assignments of items. -/
def reprint (items : List Item) : String := "\n".intercalate (items.map Item.assignment)

/-- The lines of a template that is written from the items of another are the assignments of that
template. -/
theorem trimmedLines_reprint (options : Options) (text : String) :
    trimmedLines (reprint (read options text).items).toList = assignmentLines text.toList := by
  have written : (reprint (read options text).items).toList =
      List.intercalate ['\n'] (assignmentLines text.toList) := by
    rw [reprint, map_assignment_read, String.toList_intercalate, List.map_map]
    simp [Function.comp_def]
  have origin : ∀ line ∈ assignmentLines text.toList, Text.trim line = line ∧ '\n' ∉ line :=
    fun line listed => trim_of_mem_trimmedLines (List.mem_of_mem_filter listed)
  have ended : (assignmentLines text.toList).getLast? ≠ some [] := by
    intro empty
    -- An empty line assigns nothing.
    have assigned := (List.mem_filter.mp (List.mem_of_getLast? empty)).2
    rw [assignment?_nil] at assigned
    contradiction
  calc
    trimmedLines (reprint (read options text).items).toList =
        (assignmentLines text.toList).map Text.trim := by
      rw [trimmedLines, written,
        Text.map_trim_lines_intercalate (fun line listed => (origin line listed).2) ended]
    _ = assignmentLines text.toList := by
      rw [List.map_congr_left fun line listed => (origin line listed).1, List.map_id']

/-- The class of a line that assigns something has no fault by itself. -/
theorem fault?_of_assigns {line : List Char} (assigns : (assignment? line).isSome = true) :
    (Line.ofTrimmed line).fault? = none := by
  obtain ⟨⟨key, value⟩, assigned⟩ := Option.isSome_iff_exists.mp assigns
  rw [Line.ofTrimmed_eq_assignment_iff.mpr assigned]
  rfl

/-- No line of a template that is written from items is malformed. -/
theorem malformed_reprint (options other : Options) (text : String) :
    (read other (reprint (read options text).items)).diagnostics.filter (·.cause.isMalformedLine) =
      [] := by
  rw [malformed_diagnostics, linesOf_eq, trimmedLines_reprint]
  refine List.filterMap_eq_nil_iff.mpr fun numbered listed => ?_
  obtain ⟨line, member, same⟩ := List.mem_map.mp (List.fst_mem_of_mem_zipIdx listed)
  rw [← same, fault?_of_assigns (List.mem_filter.mp member).2, Option.map_none]

/-- When keys are taken as they come, are not grouped, or name their own groups, the assignments of
the items, one on each line, are read as the same items. No line of them is malformed, and none is
refused. -/
theorem read_reprint
    (undirected : options.flat = true ∨ options.grouped = false ∨ options.grouping = .pattern)
    (text : String) :
    (read options (reprint (read options text).items)).items = (read options text).items ∧
      (read options (reprint (read options text).items)).diagnostics.filter
          (·.cause.isMalformedLine) = [] ∧
      (read options (reprint (read options text).items)).errors = [] := by
  have undirected := followsDirectives_eq_false_iff.mpr undirected
  have nothing : ∀ line : List Char, (assignment? line).isSome = false →
      ownItem? options line = none := by
    intro line other
    have unassigned : assignment? line = none := by simpa using other
    rw [ownItem?, unassigned, Option.map_none]
  refine ⟨?_, malformed_reprint options options text, errors_of_undirected undirected _⟩
  rw [read_items_of_undirected undirected, trimmedLines_reprint, assignmentLines,
    filterMap_ownItem?_filter nothing, read_items_of_undirected undirected]

/-- Equals signs, a hash, an inner carriage return and a blank in front of a value are kept, and
what the first template has besides assignments is gone. -/
theorem read_reprint_patterned :
    let text := "# @group: x$\n  DB_URL==a # b\rc\u00a0\nDB URL=no\n\nDB_URL=\nPORT= 1 \r\n"
    Options.patterned.grouping = .pattern ∧
      reprint (read .patterned text).items = "DB_URL==a # b\rc\nDB_URL=\nPORT= 1" ∧
      (read .patterned "DB_URL==a # b\rc\nDB_URL=\nPORT= 1").items = (read .patterned text).items ∧
      (read .patterned "DB_URL==a # b\rc\nDB_URL=\nPORT= 1").diagnostics.filter
          (·.cause.isMalformedLine) = [] ∧
      (read .patterned "DB_URL==a # b\rc\nDB_URL=\nPORT= 1").errors = [] := by
  intro text
  have written : reprint (read .patterned text).items =
      "DB_URL==a # b\rc\nDB_URL=\nPORT= 1" := by decide
  have patterned : Options.patterned.flat = true ∨ Options.patterned.grouped = false ∨
      Options.patterned.grouping = .pattern := .inr (.inr rfl)
  have again := read_reprint patterned text
  rw [written] at again
  exact ⟨rfl, written, again⟩

end EnvTemplate.Template
