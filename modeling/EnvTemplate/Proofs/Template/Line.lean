import EnvTemplate.Proofs.Text.Trimming
import EnvTemplate.Template.Reading

/-!
# Classes of lines

Each trimmed line belongs to one class, and the class tells which of the three tests on its
characters it passes: whether it is empty, whether it starts with a hash, and whether it is an
assignment. No line that starts with a hash is an assignment.
-/
namespace EnvTemplate.Template

/-- The lines of a text without the blanks at their ends. -/
def trimmedLines (text : List Char) : List (List Char) := (Text.lines text).map Text.trim

/-- The classified lines are the classes of the trimmed lines. -/
theorem linesOf_eq (text : List Char) : linesOf text = (trimmedLines text).map Line.ofTrimmed := by
  simp [linesOf, trimmedLines, Function.comp_def]

/-- A trimmed line is trimmed and has no line feed. -/
theorem trim_of_mem_trimmedLines {text line : List Char} (listed : line ∈ trimmedLines text) :
    Text.trim line = line ∧ '\n' ∉ line := by
  obtain ⟨whole, member, rfl⟩ := List.mem_map.mp listed
  exact ⟨Text.trim_trim whole, fun held =>
    Text.lineFeed_notMem_of_mem_lines member (Text.mem_of_mem_trim held)⟩

/-- The characters of a key are those it goes on with, the first one included. -/
theorem all_continuesKey_of_isKey {key : List Char} (valid : isKey key = true) :
    key.all continuesKey = true := by
  cases key with
  | nil => contradiction
  | cons first rest =>
    cases rest with
    | nil => contradiction
    | cons second rest =>
      obtain ⟨starts, continues⟩ := Bool.and_eq_true_iff.mp valid
      rw [List.all_cons, continues, continuesKey, starts]
      rfl

/-- An assignment is a key, an equals sign and a text without a line feed. -/
theorem assignment?_eq_some_iff {line key value : List Char} :
    assignment? line = some (key, value) ↔
      line = key ++ '=' :: value ∧ isKey key = true ∧ '\n' ∉ value := by
  constructor
  · intro found
    have whole := List.takeWhile_append_dropWhile (p := continuesKey) (l := line)
    simp only [assignment?] at found
    split at found
    · next rest after =>
      by_cases valid : isKey (line.takeWhile continuesKey) = true ∧ '\n' ∉ rest
      · rw [if_pos (by simpa using valid)] at found
        cases found
        exact ⟨by rw [← after, whole], valid⟩
      · rw [if_neg (by simpa using valid)] at found
        contradiction
    · contradiction
  · rintro ⟨rfl, valid, single⟩
    have continues := List.all_eq_true.mp (all_continuesKey_of_isKey valid)
    have stop : continuesKey '=' = false := by decide
    simp [assignment?, List.takeWhile_append_of_pos continues, List.dropWhile_append_of_pos continues,
      stop, valid, single]

/-- A line that starts with a hash is no assignment. -/
theorem assignment?_hash (rest : List Char) : assignment? ('#' :: rest) = none := by
  have other : continuesKey '#' = false := by decide
  simp [assignment?, other]

/-- No key can be read from an empty line. -/
theorem assignment?_nil : assignment? [] = none := rfl

/-- Only a line that starts with a hash is a directive. -/
theorem directive?_eq_some {text argument : List Char} (found : directive? text = some argument) :
    ∃ rest, text = '#' :: rest := by
  unfold directive? at found
  split at found
  · exact ⟨_, rfl⟩
  · contradiction

namespace Line

variable {text argument key value : List Char}

/-- The class of a comment is a directive when it has an argument. -/
theorem ofTrimmed_hash (rest : List Char) :
    ofTrimmed ('#' :: rest) =
      match directive? ('#' :: rest) with
      | some argument => .directive argument
      | none => .comment := rfl

/-- The class of a line that is not empty and no comment is decided by the test for assignments. -/
theorem ofTrimmed_of_significant (filled : text ≠ []) (plain : text.head? ≠ some '#') :
    ofTrimmed text =
      match assignment? text with
      | some (key, value) => .assignment key value
      | none => .malformed text := by
  unfold ofTrimmed
  split
  · contradiction
  · simp at plain
  · rfl

/-- The directives are the lines with an argument of a directive. -/
theorem ofTrimmed_eq_directive_iff :
    ofTrimmed text = .directive argument ↔ directive? text = some argument := by
  constructor
  · intro same
    unfold ofTrimmed at same
    split at same
    · contradiction
    · next rest =>
      split at same
      · next found => exact found.trans (congrArg some (directive.inj same))
      · contradiction
    · split at same <;> contradiction
  · intro found
    obtain ⟨rest, rfl⟩ := directive?_eq_some found
    rw [ofTrimmed_hash, found]

/-- The assignments are the lines with a key and a value. -/
theorem ofTrimmed_eq_assignment_iff :
    ofTrimmed text = .assignment key value ↔ assignment? text = some (key, value) := by
  cases text with
  | nil => simp [ofTrimmed, assignment?_nil]
  | cons first rest =>
    by_cases hash : first = '#'
    · subst hash
      rw [ofTrimmed_hash, assignment?_hash]
      split <;> simp
    · rw [ofTrimmed_of_significant (by simp) (by simpa using hash)]
      split <;> simp_all

/-- The malformed lines are those that are not empty, no comments and no assignments. -/
theorem ofTrimmed_eq_malformed_iff {other : List Char} :
    ofTrimmed text = .malformed other ↔
      other = text ∧ text ≠ [] ∧ text.head? ≠ some '#' ∧ assignment? text = none := by
  cases text with
  | nil => simp [ofTrimmed]
  | cons first rest =>
    by_cases hash : first = '#'
    · subst hash
      rw [ofTrimmed_hash]
      split <;> simp
    · rw [ofTrimmed_of_significant (by simp) (by simpa using hash)]
      split
      · next found => simp [found]
      · next missing => simp [missing, hash, eq_comm]

end Line

/-- A line declares an item when it is an assignment. -/
theorem item?_ofTrimmed (options : Options) (context : Context) (text : List Char) :
    item? options context (Line.ofTrimmed text) =
      (assignment? text).map fun (key, value) => declare options context key value := by
  cases assigned : assignment? text with
  | some parts => rw [Line.ofTrimmed_eq_assignment_iff.mpr assigned, item?, Option.map_some]
  | none =>
    cases same : Line.ofTrimmed text with
    | assignment key value =>
      rw [Line.ofTrimmed_eq_assignment_iff, assigned] at same
      contradiction
    | _ => rfl

end EnvTemplate.Template
