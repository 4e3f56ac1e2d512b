import EnvTemplate.Proofs.Text.Lines
import Mathlib.Data.List.DropRight

/-!
# Trimmed lines

Trimming is done once: a trimmed text has no more blanks to lose, and blanks behind a text do not
change what is left of it. The carriage return of a line break is such a blank. Lines that are put
together with line feeds are therefore the lines of the text they give, up to trimming, and every
list of trimmed lines is that of some text.
-/
namespace EnvTemplate.Text

variable {text line : List Char} {given pieces : List (List Char)}

/-- A trimmed text does not start with a blank. -/
theorem trimStart_trim (text : List Char) : trimStart (trim text) = trim text := by
  obtain ⟨later, whole⟩ : trim text <+: trimStart text := List.rdropWhile_prefix isBlank _
  cases left : trim text with
  | nil => rfl
  | cons first rest =>
    -- It starts with the character that the text without its leading blanks starts with.
    have start := List.head?_dropWhile_not isBlank text
    rw [← trimStart, ← whole, left] at start
    have filled : ¬isBlank first = true := by simpa using start
    rw [trimStart, List.dropWhile_cons_of_neg filled]

/-- A trimmed text does not end with a blank. -/
theorem trimEnd_trim (text : List Char) : trimEnd (trim text) = trim text :=
  List.rdropWhile_idempotent isBlank (trimStart text)

/-- Trimming a trimmed text changes nothing. -/
theorem trim_trim (text : List Char) : trim (trim text) = trim text := by
  rw [trim, trimStart_trim, trimEnd_trim]

/-- A text is trimmed when neither its first nor its last character is a blank. -/
theorem trim_eq_self_iff :
    trim text = text ↔
      (∀ c ∈ text.head?, isBlank c = false) ∧ ∀ c ∈ text.getLast?, isBlank c = false := by
  have start : trimStart text = text ↔ ∀ c ∈ text.head?, isBlank c = false := by
    rw [trimStart, List.dropWhile_eq_self_iff]
    cases text <;> simp
  have finish : trimEnd text = text ↔ ∀ c ∈ text.getLast?, isBlank c = false := by
    rw [trimEnd, ← List.rdropWhile, List.rdropWhile_eq_self_iff]
    rcases List.eq_nil_or_concat' text with rfl | ⟨front, last, rfl⟩ <;> simp
  constructor
  · intro trimmed
    have front := trimStart_trim text
    have back := trimEnd_trim text
    rw [trimmed] at front back
    exact ⟨start.mp front, finish.mp back⟩
  · rintro ⟨front, back⟩
    rw [trim, start.mpr front, finish.mpr back]

/-- A text without blanks has nothing to lose. -/
theorem trim_of_filled (filled : ∀ c ∈ text, isBlank c = false) : trim text = text := by
  exact trim_eq_self_iff.mpr ⟨fun c first => filled c (List.mem_of_head? first),
    fun c last => filled c (List.mem_of_getLast? last)⟩

/-- Blanks in front of a text do not count for any other character. -/
theorem count_dropWhile_isBlank {c : Char} (filled : isBlank c = false) (text : List Char) :
    (text.dropWhile isBlank).count c = text.count c := by
  have none : (text.takeWhile isBlank).count c = 0 := by
    refine List.count_eq_zero.mpr fun member => ?_
    have blank := List.all_eq_true.mp List.all_takeWhile c member
    rw [filled] at blank
    contradiction
  calc (text.dropWhile isBlank).count c
      = (text.takeWhile isBlank).count c + (text.dropWhile isBlank).count c := by
        rw [none, Nat.zero_add]
    _ = text.count c := by rw [← List.count_append, List.takeWhile_append_dropWhile]

/-- Trimming takes no character that is not blank. -/
theorem count_trim {c : Char} (filled : isBlank c = false) (text : List Char) :
    (trim text).count c = text.count c := by
  rw [trim, trimEnd, List.count_reverse, count_dropWhile_isBlank filled, List.count_reverse,
    trimStart, count_dropWhile_isBlank filled]

/-- Blanks at the end of a text are trimmed away. -/
theorem trimEnd_append {blanks : List Char} (text : List Char)
    (blank : ∀ c ∈ blanks, isBlank c = true) : trimEnd (text ++ blanks) = trimEnd text := by
  have behind : ∀ c ∈ blanks.reverse, isBlank c = true := fun c member =>
    blank c (List.mem_reverse.mp member)
  rw [trimEnd, List.reverse_append, List.dropWhile_append_of_pos behind, trimEnd]

/-- Blanks behind a text do not change what is left of it. -/
theorem trim_append {blanks : List Char} (text : List Char)
    (blank : ∀ c ∈ blanks, isBlank c = true) : trim (text ++ blanks) = trim text := by
  rw [trim, trimStart, List.dropWhile_append]
  split
  · next nothing =>
    have gone : trimStart text = [] := List.isEmpty_iff.mp nothing
    rw [trim, gone, List.dropWhile_eq_nil_iff.mpr blank]
  · exact trimEnd_append _ blank

/-- Blanks in front of a text do not change what is left of it. -/
theorem trim_prepend {blanks : List Char} (blank : ∀ c ∈ blanks, isBlank c = true)
    (text : List Char) : trim (blanks ++ text) = trim text := by
  rw [trim, trimStart, List.dropWhile_append_of_pos blank, ← trimStart, ← trim]

/-- The carriage return of a line break is trimmed away. -/
theorem trim_dropReturn (line : List Char) : trim (dropReturn line) = trim line := by
  rw [dropReturn]
  split
  · next ended =>
    obtain ⟨front, rfl⟩ := List.getLast?_eq_some_iff.mp ended
    have blank : ∀ c ∈ ['\r'], isBlank c = true := fun c member =>
      List.mem_singleton.mp member ▸ rfl
    rw [List.dropLast_concat, trim_append front blank]
  · rfl

/-- Lines have no characters that the pieces between line feeds do not have. -/
theorem exists_mem_of_mem_linesOfPieces (listed : line ∈ linesOfPieces pieces) :
    ∃ piece ∈ pieces, ∀ c ∈ line, c ∈ piece := by
  induction pieces using linesOfPieces.induct with
  | case1 => contradiction
  | case2 => simp [linesOfPieces] at listed
  | case3 last filled =>
    rw [linesOfPieces, if_neg filled, List.mem_singleton] at listed
    exact ⟨last, List.mem_singleton_self last, fun c held => listed ▸ held⟩
  | case4 piece pieces followed ih =>
    rw [linesOfPieces, List.mem_cons] at listed
    · rcases listed with rfl | later
      · refine ⟨piece, List.mem_cons_self, fun c held => ?_⟩
        rw [dropReturn] at held
        split at held
        · exact List.dropLast_subset piece held
        · exact held
      · obtain ⟨origin, member, holds⟩ := ih later
        exact ⟨origin, List.mem_cons_of_mem piece member, holds⟩
    · exact followed

/-- No line has a line feed. -/
theorem lineFeed_notMem_of_mem_lines (listed : line ∈ lines text) : '\n' ∉ line := by
  obtain ⟨piece, member, holds⟩ := exists_mem_of_mem_linesOfPieces listed
  exact fun held => notMem_of_mem_splitOn member (holds _ held)

/-- Up to trimming all pieces are lines, when the last of them is not empty. -/
theorem map_trim_linesOfPieces (ended : pieces.getLast? ≠ some []) :
    (linesOfPieces pieces).map trim = pieces.map trim := by
  rcases List.eq_nil_or_concat pieces with rfl | ⟨front, last, rfl⟩
  · rfl
  · have filled : last ≠ [] := by
      rintro rfl
      exact ended (by simp)
    have single : linesOfPieces [last] = [last] := by rw [linesOfPieces, if_neg filled]
    rw [List.concat_eq_append, linesOfPieces_append (List.cons_ne_nil last []), single]
    simp [trim_dropReturn]

/-- Lines that are put together with line feeds are the lines of the whole, up to trimming, when the
last of them is not empty. -/
theorem map_trim_lines_intercalate (single : ∀ line ∈ given, '\n' ∉ line)
    (ended : given.getLast? ≠ some []) :
    (lines (List.intercalate ['\n'] given)).map trim = given.map trim := by
  by_cases empty : given = []
  · subst empty
    rfl
  · rw [lines, splitOn_eq, List.splitOn_intercalate '\n' single empty, map_trim_linesOfPieces ended]

/-- Any lines without line feeds are those of some text, up to trimming. -/
theorem exists_map_trim_lines (single : ∀ line ∈ given, '\n' ∉ line) :
    ∃ text, (lines text).map trim = given.map trim := by
  induction given with
  | nil => exact ⟨[], rfl⟩
  | cons line given ih =>
    obtain ⟨alone, others⟩ := List.forall_mem_cons.mp single
    obtain ⟨later, same⟩ := ih others
    have whole : splitOn '\n' line = [line] := by
      rw [splitOn_eq, List.splitOn_eq_singleton alone]
    refine ⟨line ++ '\n' :: later, ?_⟩
    rw [lines_append_lineFeed, whole, List.map_append, same]
    simp [trim_dropReturn]

end EnvTemplate.Text
