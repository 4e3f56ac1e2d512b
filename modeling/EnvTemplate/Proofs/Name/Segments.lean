import EnvTemplate.Proofs.Name.Joining
import EnvTemplate.Proofs.Text.Trimming

/-!
# The segments of a group path

A group path is accepted when each of its segments is, and refused for the first segment that is
not, with the first character that may not stand in it. The names of an accepted path are as many as
its segments, and they are clean: letters and digits, and behind them nothing but separators, which
camel case keeps at the end of a name only.
-/
namespace EnvTemplate.Name

variable {path segment text : List Char} {segments : List (List Char)} {cause : GroupPathError}

/-- Something is left of a segment without the blanks at its ends, and all of that may stand in a
segment. -/
def IsSegment (segment : List Char) : Prop :=
  Text.trim segment ≠ [] ∧ ∀ c ∈ Text.trim segment, isSegmentChar c = true

instance : DecidablePred IsSegment := fun segment =>
  decidable_of_iff (Text.trim segment ≠ [] ∧ (Text.trim segment).all isSegmentChar = true)
    (by rw [IsSegment, List.all_eq_true])

/-- What is wrong with a segment of a path. -/
inductive SegmentFault (path : List Char) : List Char → GroupPathError → Prop
  /-- Nothing is left of the segment. -/
  | empty {segment : List Char} (nothing : Text.trim segment = []) :
      SegmentFault path segment (.emptySegment (String.ofList path))
  /-- The first character that may not stand in a segment. -/
  | unexpected {segment front back : List Char} {found : Char}
      (whole : Text.trim segment = front ++ found :: back)
      (allowed : ∀ c ∈ front, isSegmentChar c = true) (refused : isSegmentChar found = false) :
      SegmentFault path segment
        (.unexpectedCharacter found (String.ofList (Text.trim segment)))

/-- A segment has a name when it is one. -/
theorem exists_groupName?_iff (path : List Char) :
    (∃ name, groupName? path segment = .ok name) ↔ IsSegment segment := by
  simp only [groupName?_eq_ok_iff, IsSegment]
  constructor
  · rintro ⟨_, filled, allowed, _⟩
    exact ⟨filled, allowed⟩
  · rintro ⟨filled, allowed⟩
    exact ⟨_, filled, allowed, rfl⟩

/-- A segment is refused for its fault. -/
theorem groupName?_eq_error_iff :
    groupName? path segment = .error cause ↔ SegmentFault path segment cause := by
  constructor
  · intro refused
    by_cases nothing : Text.trim segment = []
    · rw [groupName?, if_pos nothing, Except.error.injEq] at refused
      exact refused ▸ .empty nothing
    · cases search : (Text.trim segment).find? fun c => !isSegmentChar c with
      | none => simp [groupName?, nothing, search] at refused
      | some found =>
        simp only [groupName?, nothing, ↓reduceIte, search, Except.error.injEq] at refused
        obtain ⟨spoils, front, back, whole, allowed⟩ := List.find?_eq_some_iff_append.mp search
        rw [← refused]
        exact .unexpected whole (by simpa using allowed) (by simpa using spoils)
  · rintro (nothing | ⟨whole, allowed, refused⟩)
    · rw [groupName?, if_pos nothing]
    · have filled : Text.trim segment ≠ [] := by simp [whole]
      have search : ((Text.trim segment).find? fun c => !isSegmentChar c) = some _ :=
        List.find?_eq_some_iff_append.mpr ⟨by simp [refused], _, _, whole, by simpa using allowed⟩
      simp only [groupName?, filled, ↓reduceIte, search]

/-- Segments are accepted together when each of them is. -/
theorem exists_groupNames?_iff :
    (∃ names, groupNames? path segments = .ok names) ↔ ∀ segment ∈ segments, IsSegment segment := by
  induction segments with
  | nil => simp [groupNames?]
  | cons segment segments ih =>
    rw [List.forall_mem_cons, ← ih, ← exists_groupName?_iff path]
    cases first : groupName? path segment with
    | error cause => simp [groupNames?, first]
    | ok name => cases later : groupNames? path segments <;> simp [groupNames?, first, later]

/-- The first segment of a kind is the one at the front, or else the first among the others. -/
theorem exists_first_cons_iff {good bad : List Char → Prop} :
    (∃ front found back, segment :: segments = front ++ found :: back ∧
        (∀ earlier ∈ front, good earlier) ∧ bad found) ↔
      bad segment ∨ good segment ∧ ∃ front found back, segments = front ++ found :: back ∧
        (∀ earlier ∈ front, good earlier) ∧ bad found := by
  constructor
  · rintro ⟨front, found, back, split, earlier, spoiled⟩
    cases front with
    | nil =>
      obtain ⟨rfl, rfl⟩ := List.cons.inj split
      exact .inl spoiled
    | cons first front =>
      obtain ⟨rfl, rfl⟩ := List.cons.inj split
      obtain ⟨accepted, others⟩ := List.forall_mem_cons.mp earlier
      exact .inr ⟨accepted, front, found, back, rfl, others, spoiled⟩
  · rintro (spoiled | ⟨accepted, front, found, back, rfl, others, spoiled⟩)
    · exact ⟨[], segment, segments, rfl, by simp, spoiled⟩
    · exact ⟨segment :: front, found, back, rfl,
        List.forall_mem_cons.mpr ⟨accepted, others⟩, spoiled⟩

/-- Segments are refused for the fault of the first one that has a fault. -/
theorem groupNames?_eq_error_iff :
    groupNames? path segments = .error cause ↔
      ∃ front segment back, segments = front ++ segment :: back ∧
        (∀ earlier ∈ front, IsSegment earlier) ∧ SegmentFault path segment cause := by
  induction segments with
  | nil => simp [groupNames?]
  | cons segment segments ih =>
    rw [exists_first_cons_iff, ← ih, ← groupName?_eq_error_iff,
      ← exists_groupName?_iff path]
    cases first : groupName? path segment with
    | error other => simp [groupNames?, first]
    | ok name => cases later : groupNames? path segments <;> simp [groupNames?, first, later]

/-- Behind a word that consists of letters and digits there are separators only. -/
def IsClean (name : List Char) : Prop :=
  ∃ word run, name = word ++ run ∧ (∀ c ∈ word, c.isAlphanum = true) ∧
    ∀ c ∈ run, isSeparator c = true

/-- The camel case of a name is clean. -/
theorem camelChars_isClean (named : IsName text) : IsClean (camelChars text) := by
  refine ⟨_, _, camelChars_eq named, ?_, fun c member => List.mem_rtakeWhile_imp member⟩
  intro c member
  obtain ⟨letter, held, rfl⟩ := List.mem_map.mp member
  exact (camel_of_isAlphanum letter (char_of_mem_letters held).2).1

/-- The characters of names are no blanks, no dots, no quotes and no braces. -/
theorem plain_of_isNameChar {c : Char} (named : isNameChar c = true) :
    Text.isBlank c = false ∧ c ∉ ['.', '"', '\'', '\x60', '\x7b', '\x7d'] :=
  of_table (p := fun c => Text.isBlank c = false ∧
    c ∉ ['.', '"', '\'', '\x60', '\x7b', '\x7d']) (by decide) named

/-- A text is a group path when each of its segments is accepted, and otherwise it is refused for
the fault of the first segment that has one. An accepted path has one name more than the text has
dots, and none of them is empty; each consists of letters and digits and of separators behind them,
and so holds no dots, no blanks, no quotes and no braces. -/
theorem groupPath?_outcome (text : List Char) :
    ((∃ names, groupPath? text = .ok names) ↔
      ∀ segment ∈ Text.splitOn '.' (Text.trim text), IsSegment segment) ∧
    (∀ cause, groupPath? text = .error cause ↔
      ∃ front segment back, Text.splitOn '.' (Text.trim text) = front ++ segment :: back ∧
        (∀ earlier ∈ front, IsSegment earlier) ∧ SegmentFault (Text.trim text) segment cause) ∧
    (∀ names, groupPath? text = .ok names →
      names.length = text.count '.' + 1 ∧
        ∀ name ∈ names, name ≠ "" ∧ IsClean name.toList ∧
          ∀ c ∈ name.toList,
            Text.isBlank c = false ∧ c ∉ ['.', '"', '\'', '\x60', '\x7b', '\x7d']) := by
  refine ⟨exists_groupNames?_iff, fun cause => groupNames?_eq_error_iff, fun names accepted => ?_⟩
  constructor
  · have pieces := length_of_groupPath?_eq_ok accepted
    rw [pieces, Text.length_splitOn, Text.count_trim (by decide)]
  · intro name member
    obtain ⟨path, segment, found⟩ := exists_groupName?_of_mem accepted member
    have filled := ne_nil_of_groupName?_eq_ok found
    have named := isName_of_groupName?_eq_ok found
    obtain ⟨_, allowed, same⟩ := groupName?_eq_ok_iff.mp found
    refine ⟨?_, ?_, fun c held => plain_of_isNameChar (named c held)⟩
    · rintro rfl
      exact filled rfl
    · rw [same, String.toList_ofList]
      exact camelChars_isClean (hyphenateFrom_isName allowed false)

/-- Blanks of any kind and runs of separators inside a segment are dropped, and a run at its end
stays. -/
theorem groupPath?_outcome_blanks :
    groupPath? "\u00a0My\u2003 app. api_-Keys-_\t".toList = .ok ["myApp", "apiKeys-_"] ∧
      ["myApp", "apiKeys-_"].length =
        "\u00a0My\u2003 app. api_-Keys-_\t".toList.count '.' + 1 ∧
      IsClean "apiKeys-_".toList ∧ '.' ∉ "apiKeys-_".toList := by
  have accepted : groupPath? "\u00a0My\u2003 app. api_-Keys-_\t".toList =
      .ok ["myApp", "apiKeys-_"] := by decide
  obtain ⟨_, _, clean⟩ := groupPath?_outcome "\u00a0My\u2003 app. api_-Keys-_\t".toList
  obtain ⟨count, names⟩ := clean _ accepted
  obtain ⟨_, shape, plain⟩ := names "apiKeys-_" (by decide)
  exact ⟨accepted, count, shape, fun dot => (plain '.' dot).2 List.mem_cons_self⟩

end EnvTemplate.Name
