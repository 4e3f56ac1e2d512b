import EnvTemplate.Text.Blank

/-!
# The lines of two texts

A line feed between two texts separates their pieces, so that the lines after it are the lines of
the second text alone. The pieces before it are the lines of the first text when that text has no
unfinished line; then one more piece stands between them, and it is empty.
-/
namespace EnvTemplate.Text

variable {first : List Char}

/-- The pieces of a text are those that the library splits it into. -/
theorem splitOn_eq (separator : Char) (text : List Char) :
    splitOn separator text = text.splitOn separator := by
  induction text with
  | nil => rfl
  | cons c rest ih =>
    obtain ⟨piece, pieces, split⟩ := List.exists_cons_of_ne_nil (splitOn_ne_nil separator rest)
    rw [List.splitOn_cons_eq_if_modifyHead, ← ih, split]
    by_cases same : c = separator
    · simp [splitOn, same, split]
    · simp [splitOn, same, split]

/-- The pieces of two texts with a separator between them are the pieces of both. -/
theorem splitOn_append (separator : Char) (first second : List Char) :
    splitOn separator (first ++ separator :: second) =
      splitOn separator first ++ splitOn separator second := by
  rw [splitOn_eq, splitOn_eq, splitOn_eq, List.splitOn_append_cons_self]

/-- Splitting gives one piece more than there are separators. -/
theorem length_splitOn (separator : Char) (text : List Char) :
    (splitOn separator text).length = text.count separator + 1 := by
  induction text with
  | nil => rfl
  | cons c rest ih =>
    obtain ⟨piece, pieces, split⟩ := List.exists_cons_of_ne_nil (splitOn_ne_nil separator rest)
    by_cases same : c = separator
    · simp [splitOn, same, ih]
    · rw [split] at ih
      simp [splitOn, same, split, ← ih]

/-- No piece of a text has the separator. -/
theorem notMem_of_mem_splitOn {separator : Char} {text piece : List Char}
    (listed : piece ∈ splitOn separator text) : separator ∉ piece := by
  induction text generalizing piece with
  | nil => simp_all [splitOn]
  | cons c rest ih =>
    obtain ⟨first, pieces, split⟩ := List.exists_cons_of_ne_nil (splitOn_ne_nil separator rest)
    by_cases same : c = separator
    · rw [splitOn, if_pos same, List.mem_cons] at listed
      rcases listed with rfl | later
      · exact List.not_mem_nil
      · exact ih later
    · rw [splitOn, if_neg same, split] at listed
      rcases List.mem_cons.mp listed with rfl | later
      · have inside : separator ∉ first := ih (by rw [split]; exact List.mem_cons_self)
        exact List.not_mem_cons_of_ne_of_not_mem (Ne.symm same) inside
      · exact ih (by rw [split]; exact List.mem_cons_of_mem first later)

/-- Every character but the separators is in a piece. -/
theorem exists_mem_splitOn {separator c : Char} {text : List Char} (member : c ∈ text)
    (other : c ≠ separator) : ∃ piece ∈ splitOn separator text, c ∈ piece := by
  obtain ⟨front, back, rfl⟩ := List.append_of_mem member
  induction front with
  | nil =>
    obtain ⟨piece, pieces, split⟩ := List.exists_cons_of_ne_nil (splitOn_ne_nil separator back)
    exact ⟨c :: piece, by simp [splitOn, other, split], List.mem_cons_self⟩
  | cons first front ih =>
    obtain ⟨piece, listed, held⟩ := ih (by simp)
    by_cases same : first = separator
    · exact ⟨piece, by simp [splitOn, same, listed], held⟩
    · obtain ⟨leading, pieces, split⟩ :=
        List.exists_cons_of_ne_nil (splitOn_ne_nil separator (front ++ c :: back))
      rw [split] at listed
      rcases List.mem_cons.mp listed with rfl | later
      · exact ⟨first :: piece, by simp [splitOn, same, split], List.mem_cons_of_mem _ held⟩
      · exact ⟨piece, by simp [splitOn, same, split, later], held⟩

/-- Trimming only drops characters. -/
theorem mem_of_mem_trim {c : Char} {text : List Char} (member : c ∈ trim text) : c ∈ text := by
  rw [trim, trimEnd, List.mem_reverse] at member
  have inside := List.mem_reverse.mp ((List.dropWhile_sublist _).subset member)
  exact (List.dropWhile_sublist _).subset inside

/-- Only the last piece of all can be missing from the lines. -/
theorem linesOfPieces_append {later : List (List Char)} (filled : later ≠ [])
    (earlier : List (List Char)) :
    linesOfPieces (earlier ++ later) = earlier.map dropReturn ++ linesOfPieces later := by
  induction earlier with
  | nil => rfl
  | cons piece earlier ih =>
    -- A piece that others follow was ended by a line feed.
    have followed : earlier ++ later ≠ [] := List.append_ne_nil_of_right_ne_nil earlier filled
    obtain ⟨next, others, split⟩ := List.exists_cons_of_ne_nil followed
    rw [List.cons_append, split, linesOfPieces, ← split, ih, List.map_cons, List.cons_append]
    simp

/-- Behind a line feed the lines of a text are those it has alone. -/
theorem lines_append_lineFeed (first second : List Char) :
    lines (first ++ '\n' :: second) = (splitOn '\n' first).map dropReturn ++ lines second := by
  rw [lines, splitOn_append, linesOfPieces_append (splitOn_ne_nil '\n' second), lines]

/-- No line of the text is unfinished: it is empty or ends with a line feed. -/
def IsFinished (text : List Char) : Prop := text = [] ∨ text.getLast? = some '\n'

instance : DecidablePred IsFinished := fun _ => inferInstanceAs (Decidable (_ ∨ _))

/-- A finished text has its lines as pieces, and an empty piece behind them. -/
theorem map_dropReturn_splitOn (finished : IsFinished first) :
    (splitOn '\n' first).map dropReturn = lines first ++ [[]] := by
  rcases finished with rfl | ended
  · rfl
  · obtain ⟨front, rfl⟩ := List.getLast?_eq_some_iff.mp ended
    have nothing : lines [] = [] := rfl
    rw [lines_append_lineFeed front [], splitOn_append, nothing, List.map_append, List.append_nil]
    rfl

/-- A line feed behind a finished text is a blank line. -/
theorem lines_append_of_isFinished (finished : IsFinished first) (second : List Char) :
    lines (first ++ '\n' :: second) = lines first ++ [] :: lines second := by
  rw [lines_append_lineFeed, map_dropReturn_splitOn finished, List.append_assoc]
  rfl

end EnvTemplate.Text
