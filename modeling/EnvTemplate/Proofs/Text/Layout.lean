import EnvTemplate.Proofs.Text.Trimming

/-!
# The layout of a text

The same lines can be laid out in many ways: each of them with or without a carriage return in its
line break, and with any blanks around its content. All these texts have the same trimmed lines,
except that blanks behind the last line break are a blank line of their own.
-/
namespace EnvTemplate.Text

variable {content before after ending text other : List Char} {pieces : List (List Char)}

/-- Blanks that do not break a line. -/
def IsPadding (blanks : List Char) : Prop := ∀ c ∈ blanks, isBlank c = true ∧ c ≠ '\n'

instance : DecidablePred IsPadding := fun blanks =>
  decidable_of_iff (blanks.all fun c => isBlank c && c != '\n') (by simp [IsPadding])

/-- A line feed, with or without a carriage return before it. -/
def IsBreak (ending : List Char) : Prop := ending = ['\n'] ∨ ending = ['\r', '\n']

/-- The second text has the lines of the first one, each padded in any way and with either break
behind it. -/
inductive Relaid : List Char → List Char → Prop
  /-- What follows the last line break. -/
  | last {content before after : List Char} (single : '\n' ∉ content) (front : IsPadding before)
    (back : IsPadding after) : Relaid content (before ++ content ++ after)
  /-- A line, its break, and what follows. -/
  | line {content before after ending newEnding text other : List Char} (single : '\n' ∉ content)
    (front : IsPadding before) (back : IsPadding after) (broken : IsBreak ending)
    (rebroken : IsBreak newEnding) (others : Relaid text other) :
    Relaid (content ++ ending ++ text) (before ++ content ++ after ++ newEnding ++ other)

/-- The pieces of a text with blanks around each of them, which may differ from piece to piece, and
with a carriage return before each line feed. -/
def respaced (before after : Nat → List Char) (text : List Char) : List Char :=
  List.intercalate ['\r', '\n']
    ((splitOn '\n' text).mapIdx fun index piece => before index ++ piece ++ after index)

/-- Padding has no line feed. -/
theorem IsPadding.lineFeed_notMem (padding : IsPadding before) : '\n' ∉ before :=
  fun member => (padding _ member).2 rfl

/-- Padding around a line is trimmed away. -/
theorem trim_padded (front : IsPadding before) (back : IsPadding after) (content : List Char) :
    trim (before ++ content ++ after) = trim content := by
  have leading : ∀ c ∈ before, isBlank c = true := fun c member => (front c member).1
  have trailing : ∀ c ∈ after, isBlank c = true := fun c member => (back c member).1
  rw [trim_append (before ++ content) trailing, trim_prepend leading]

/-- A line stays a single line when it is padded. -/
theorem lineFeed_notMem_padded (single : '\n' ∉ content) (front : IsPadding before)
    (back : IsPadding after) : '\n' ∉ before ++ content ++ after := by
  have leading := front.lineFeed_notMem
  have trailing := back.lineFeed_notMem
  simp [single, leading, trailing]

/-- The first line of a text is what stands before the first line break, up to trimming. -/
theorem map_trim_lines_append (single : '\n' ∉ content) (broken : IsBreak ending)
    (text : List Char) :
    (lines (content ++ ending ++ text)).map trim = trim content :: (lines text).map trim := by
  have feed : ∀ line : List Char, '\n' ∉ line →
      (lines (line ++ '\n' :: text)).map trim = trim line :: (lines text).map trim := by
    intro line alone
    have whole : splitOn '\n' line = [line] := by rw [splitOn_eq, List.splitOn_eq_singleton alone]
    rw [lines_append_lineFeed, whole, List.map_append]
    simp [trim_dropReturn]
  rcases broken with rfl | rfl
  · simpa using feed content single
  · -- The carriage return can be taken for the end of the line, where it is trimmed away.
    have carriage : ∀ c ∈ ['\r'], isBlank c = true := List.forall_mem_singleton.mpr (by decide)
    have alone : '\n' ∉ content ++ ['\r'] := by simp [single]
    simpa [trim_append content carriage] using feed (content ++ ['\r']) alone

/-- A text without a line break is one line unless it is empty. -/
theorem lines_of_single (single : '\n' ∉ content) :
    lines content = if content = [] then [] else [content] := by
  rw [lines, splitOn_eq, List.splitOn_eq_singleton single, linesOfPieces]

/-- A text that is laid out anew has the same trimmed lines, but blanks behind its last line break
can be a blank line more. -/
theorem Relaid.map_trim_lines (relaid : Relaid text other) :
    ∃ extra, (extra = [] ∨ extra = [[]]) ∧
      (lines other).map trim = (lines text).map trim ++ extra := by
  induction relaid with
  | @last content before after single front back =>
    have trimmed := trim_padded front back content
    rw [lines_of_single single, lines_of_single (lineFeed_notMem_padded single front back)]
    by_cases empty : content = []
    · subst empty
      by_cases none : before ++ [] ++ after = []
      · exact ⟨[], .inl rfl, by rw [if_pos none]; rfl⟩
      · refine ⟨[[]], .inr rfl, ?_⟩
        rw [if_neg none, if_pos rfl, List.map_cons, trimmed]
        rfl
    · have filled : before ++ content ++ after ≠ [] := by simp [empty]
      refine ⟨[], .inl rfl, ?_⟩
      rw [if_neg filled, if_neg empty, List.map_cons, trimmed]
      rfl
  | @line content before after _ _ _ _ single front back broken rebroken _ ih =>
    obtain ⟨extra, blank, same⟩ := ih
    refine ⟨extra, blank, ?_⟩
    rw [map_trim_lines_append (lineFeed_notMem_padded single front back) rebroken,
      map_trim_lines_append single broken, trim_padded front back, same, List.cons_append]

/-- Pieces that are padded and put together with carriage returns are laid out anew. -/
theorem relaid_intercalate {before after : Nat → List Char} (filled : pieces ≠ [])
    (single : ∀ piece ∈ pieces, '\n' ∉ piece) (front : ∀ index, IsPadding (before index))
    (back : ∀ index, IsPadding (after index)) :
    Relaid (List.intercalate ['\n'] pieces)
      (List.intercalate ['\r', '\n']
        (pieces.mapIdx fun index piece => before index ++ piece ++ after index)) := by
  induction pieces generalizing before after with
  | nil => contradiction
  | cons piece pieces ih =>
    obtain ⟨alone, others⟩ := List.forall_mem_cons.mp single
    cases pieces with
    | nil => simpa using Relaid.last alone (front 0) (back 0)
    | cons next pieces =>
      have later := ih (List.cons_ne_nil next pieces) others (fun index => front (index + 1))
        fun index => back (index + 1)
      simp only [List.mapIdx_cons, List.intercalate_cons_cons] at later ⊢
      exact .line alone (front 0) (back 0) (.inl rfl) (.inr rfl) later

/-- Padding all lines and putting a carriage return before each line feed lays a text out anew. -/
theorem relaid_respaced {before after : Nat → List Char} (front : ∀ index, IsPadding (before index))
    (back : ∀ index, IsPadding (after index)) (text : List Char) :
    Relaid text (respaced before after text) := by
  have single : ∀ piece ∈ splitOn '\n' text, '\n' ∉ piece :=
    fun piece listed => notMem_of_mem_splitOn listed
  have whole : List.intercalate ['\n'] (splitOn '\n' text) = text := by
    rw [splitOn_eq, List.intercalate_splitOn]
  have relaid := relaid_intercalate (splitOn_ne_nil '\n' text) single front back
  rwa [whole] at relaid

end EnvTemplate.Text
