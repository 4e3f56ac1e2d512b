import EnvTemplate.Proofs.Name.Alphabet
import EnvTemplate.Proofs.Text.Quoted
import EnvTemplate.Proofs.Text.Trimming
import EnvTemplate.Template.Line
import Mathlib.Computability.RegularExpressions

/-!
# Samples that list choices

A sample lists choices when it is words with a bar between each two of them, whatever blanks stand
around the whole. The form of such a sample is a regular expression, and the words are the pieces
between its bars, on which trimming has nothing to do. Main statement: the words of a sample are those
that give the sample when they are joined by bars, so that every list of words is read back from any
sample that is written from it.
-/
namespace EnvTemplate.Template

variable {sample text word : List Char} {words : List String} {pieces : List (List Char)}

/-- A word that can be a choice: letters and digits of ASCII, underscores and hyphens. -/
def IsChoice (word : List Char) : Prop := word ≠ [] ∧ ∀ c ∈ word, isChoiceChar c = true

instance : DecidablePred IsChoice := fun word =>
  decidable_of_iff (word ≠ [] ∧ word.all isChoiceChar = true) (by rw [IsChoice, List.all_eq_true])

/-- The text is two or more choices with a bar between each two of them. -/
structure Lists (text : List Char) (words : List String) : Prop where
  /-- There are at least two words. -/
  several : 2 ≤ words.length
  /-- Each of them can be a choice. -/
  each : ∀ word ∈ words, IsChoice word.toList
  /-- The text is the words, joined by bars. -/
  joined : String.ofList text = "|".intercalate words

/-- The characters of choices are no blanks, no bars, and none that a literal has to escape. -/
theorem plain_of_isChoiceChar {c : Char} (choice : isChoiceChar c = true) :
    Text.isBlank c = false ∧ c ≠ '|' ∧ Text.needsBackslash c = false :=
  Name.of_table (p := fun c => Text.isBlank c = false ∧ c ≠ '|' ∧ Text.needsBackslash c = false)
    (by decide) choice

/-- Words that are joined by bars are the pieces between the bars. -/
theorem splitOn_joined (each : ∀ word ∈ pieces, IsChoice word) (filled : pieces ≠ []) :
    Text.splitOn '|' (List.intercalate ['|'] pieces) = pieces := by
  have bars : ∀ word ∈ pieces, '|' ∉ word := fun word listed held =>
    (plain_of_isChoiceChar ((each word listed).2 '|' held)).2.1 rfl
  rw [Text.splitOn_eq, List.splitOn_intercalate '|' bars filled]

/-- Words that are joined by bars hold characters of choices, and bars besides. -/
theorem isChoiceChar_or_bar (each : ∀ word ∈ pieces, IsChoice word) :
    ∀ c ∈ List.intercalate ['|'] pieces, isChoiceChar c = true ∨ c = '|' := by
  intro c held
  by_cases bar : c = '|'
  · exact .inr bar
  · have filled : pieces ≠ [] := by
      rintro rfl
      contradiction
    obtain ⟨word, listed, held⟩ := Text.exists_mem_splitOn held bar
    rw [splitOn_joined each filled] at listed
    exact .inl ((each word listed).2 c held)

/-- A sample lists the pieces between its bars when there are two of them and each is a choice. -/
theorem choices?_eq (sample : List Char) :
    choices? sample =
      if 2 ≤ (Text.splitOn '|' (Text.trim sample)).length ∧
          ∀ piece ∈ Text.splitOn '|' (Text.trim sample), IsChoice piece then
        some ((Text.splitOn '|' (Text.trim sample)).map String.ofList)
      else none := by
  refine if_congr (and_congr_right fun _ => ?_) rfl rfl
  simp only [List.all_eq_true, decide_eq_true_eq, IsChoice]

/-- Joining on texts is joining on their characters. -/
theorem joined_iff :
    String.ofList text = "|".intercalate words ↔
      text = List.intercalate ['|'] (words.map String.toList) := by
  rw [← String.toList_inj, String.toList_ofList, String.toList_intercalate]
  rfl

/-- The words of a sample are those that it consists of once it is trimmed. -/
theorem choices?_eq_some_iff : choices? sample = some words ↔ Lists (Text.trim sample) words := by
  rw [choices?_eq]
  constructor
  · intro listed
    split at listed
    · next valid =>
      obtain rfl := Option.some.inj listed
      have whole : List.intercalate ['|'] (Text.splitOn '|' (Text.trim sample)) =
          Text.trim sample := by
        rw [Text.splitOn_eq, List.intercalate_splitOn]
      refine ⟨by simpa using valid.1, List.forall_mem_map.mpr (by simpa using valid.2), ?_⟩
      exact joined_iff.mpr (by simpa [Function.comp_def] using whole.symm)
    · contradiction
  · rintro ⟨several, each, joined⟩
    have choices : ∀ word ∈ words.map String.toList, IsChoice word := List.forall_mem_map.mpr each
    have filled : words.map String.toList ≠ [] := by
      intro empty
      rw [List.map_eq_nil_iff.mp empty] at several
      contradiction
    have split : Text.splitOn '|' (Text.trim sample) = words.map String.toList := by
      rw [joined_iff.mp joined, splitOn_joined choices filled]
    rw [split, if_pos ⟨by simpa using several, choices⟩]
    simp [Function.comp_def]

/-- Nothing is trimmed from a list of choices. -/
theorem Lists.trim_eq (lists : Lists text words) : Text.trim text = text := by
  refine Text.trim_of_filled fun c held => ?_
  rw [joined_iff.mp lists.joined] at held
  rcases isChoiceChar_or_bar (List.forall_mem_map.mpr lists.each) c held with choice | rfl
  · exact (plain_of_isChoiceChar choice).1
  · decide

/-- Blanks around a list of choices do not count. -/
theorem Lists.choices?_padded {front back : List Char} (lists : Lists text words)
    (leading : ∀ c ∈ front, Text.isBlank c = true) (trailing : ∀ c ∈ back, Text.isBlank c = true) :
    choices? (front ++ text ++ back) = some words := by
  rw [choices?_eq_some_iff, Text.trim_append _ trailing, Text.trim_prepend leading, lists.trim_eq]
  exact lists

/-- A choice is quoted by the apostrophes alone. -/
theorem quoted_of_isChoice {choice : String} (valid : IsChoice choice.toList) :
    Text.quoted choice = "'" ++ choice ++ "'" :=
  Text.quoted_of_plain fun c held => (plain_of_isChoiceChar (valid.2 c held)).2.2

section Pattern

open RegularExpression (char)

variable {pattern : RegularExpression Char} {chars : List Char}

/-- The pattern of any one character of a list. -/
def anyOf (chars : List Char) : RegularExpression Char := (chars.map char).sum

/-- The pattern of one or more texts of a pattern. -/
def oneOrMore (pattern : RegularExpression Char) : RegularExpression Char := pattern * pattern.star

/-- The characters of choices, one by one. -/
def choiceChars : List Char :=
  "ABCDEFGHIJKLMNOPQRSTUVWXYZabcdefghijklmnopqrstuvwxyz0123456789_-".toList

/-- The pattern of a choice. -/
def choicePattern : RegularExpression Char := oneOrMore (anyOf choiceChars)

/-- The pattern of a list of choices: one of them, and then a bar and a choice at least once. -/
def choicesPattern : RegularExpression Char :=
  choicePattern * oneOrMore (char '|' * choicePattern)

/-- The texts of any of some characters are these characters, each alone. -/
theorem mem_anyOf_iff : text ∈ (anyOf chars).matches' ↔ ∃ c ∈ chars, text = [c] := by
  induction chars with
  | nil => simp [anyOf, Language.notMem_zero]
  | cons first chars ih =>
    have split : anyOf (first :: chars) = char first + anyOf chars := by simp [anyOf]
    have single : text ∈ (char first).matches' ↔ text = [first] := Iff.rfl
    rw [split, RegularExpression.matches'_add, Language.mem_add, ih, single]
    simp

/-- Texts of a pattern, one or more of them, are put together. -/
theorem mem_oneOrMore_iff :
    text ∈ (oneOrMore pattern).matches' ↔
      ∃ pieces ≠ [], (∀ piece ∈ pieces, piece ∈ pattern.matches') ∧ text = pieces.flatten := by
  rw [oneOrMore, RegularExpression.matches'_mul, RegularExpression.matches'_star, Language.mem_mul]
  simp only [Language.mem_kstar]
  constructor
  · rintro ⟨first, matched, _, ⟨pieces, rfl, others⟩, rfl⟩
    exact ⟨first :: pieces, by simp, List.forall_mem_cons.mpr ⟨matched, others⟩, rfl⟩
  · rintro ⟨pieces, filled, each, rfl⟩
    obtain ⟨first, pieces, rfl⟩ := List.exists_cons_of_ne_nil filled
    obtain ⟨matched, others⟩ := List.forall_mem_cons.mp each
    exact ⟨first, matched, _, ⟨pieces, rfl, others⟩, rfl⟩

/-- The characters of choices are listed. -/
theorem mem_choiceChars_iff {c : Char} : c ∈ choiceChars ↔ isChoiceChar c = true :=
  ⟨List.all_eq_true.mp (by decide : choiceChars.all isChoiceChar = true) c,
    Name.of_table (p := (· ∈ choiceChars)) (by decide +kernel)⟩

/-- The pattern of a choice is that of its characters. -/
theorem mem_choicePattern_iff : word ∈ choicePattern.matches' ↔ IsChoice word := by
  rw [choicePattern, mem_oneOrMore_iff]
  simp only [mem_anyOf_iff, mem_choiceChars_iff]
  constructor
  · rintro ⟨pieces, filled, each, rfl⟩
    obtain ⟨first, others, rfl⟩ := List.exists_cons_of_ne_nil filled
    obtain ⟨c, _, rfl⟩ := each first List.mem_cons_self
    refine ⟨by simp, fun c held => ?_⟩
    obtain ⟨piece, listed, held⟩ := List.mem_flatten.mp held
    obtain ⟨d, choice, rfl⟩ := each piece listed
    rwa [List.mem_singleton.mp held]
  · rintro ⟨filled, each⟩
    refine ⟨word.map fun c => [c], by simpa using filled, ?_, by simp [← List.flatMap_def]⟩
    rw [List.forall_mem_map]
    exact fun c held => ⟨c, each c held, rfl⟩

/-- Joining puts a bar before each word but the first. -/
theorem intercalate_bar (first : List Char) (others : List (List Char)) :
    List.intercalate ['|'] (first :: others) = first ++ (others.map ('|' :: ·)).flatten := by
  induction others generalizing first with
  | nil => simp
  | cons second others ih => rw [List.intercalate_cons_cons, ih]; simp

/-- Texts of the pattern of a bar and a choice are choices with a bar in front of each. -/
theorem exists_choices_of_barred
    (each : ∀ piece ∈ pieces, piece ∈ (char '|' * choicePattern).matches') :
    ∃ words : List (List Char), (∀ word ∈ words, IsChoice word) ∧
      pieces = words.map ('|' :: ·) := by
  induction pieces with
  | nil => exact ⟨[], by simp, rfl⟩
  | cons piece pieces ih =>
    obtain ⟨first, others⟩ := List.forall_mem_cons.mp each
    obtain ⟨words, choices, rfl⟩ := ih others
    obtain ⟨bar, rfl, word, matched, rfl⟩ := Language.mem_mul.mp first
    exact ⟨word :: words,
      List.forall_mem_cons.mpr ⟨mem_choicePattern_iff.mp matched, choices⟩, rfl⟩

/-- The pattern of a list of choices is that of two or more choices that are joined by bars. -/
theorem mem_choicesPattern_iff :
    text ∈ choicesPattern.matches' ↔
      ∃ words, 2 ≤ words.length ∧ (∀ word ∈ words, IsChoice word) ∧
        text = List.intercalate ['|'] words := by
  rw [choicesPattern, RegularExpression.matches'_mul, Language.mem_mul]
  constructor
  · rintro ⟨first, matched, _, others, rfl⟩
    obtain ⟨pieces, filled, each, rfl⟩ := mem_oneOrMore_iff.mp others
    obtain ⟨words, choices, rfl⟩ := exists_choices_of_barred each
    refine ⟨first :: words, ?_, ?_, (intercalate_bar first words).symm⟩
    · have several : 0 < words.length := List.length_pos_iff.mpr (by simpa using filled)
      rw [List.length_cons]
      omega
    · exact List.forall_mem_cons.mpr ⟨mem_choicePattern_iff.mp matched, choices⟩
  · rintro ⟨words, several, choices, rfl⟩
    match words with
    | first :: second :: others =>
      obtain ⟨matched, choices⟩ := List.forall_mem_cons.mp choices
      refine ⟨first, mem_choicePattern_iff.mpr matched, _, mem_oneOrMore_iff.mpr
        ⟨(second :: others).map ('|' :: ·), by simp, ?_, rfl⟩, (intercalate_bar _ _).symm⟩
      rw [List.forall_mem_map]
      exact fun word listed => Language.mem_mul.mpr
        ⟨['|'], rfl, word, mem_choicePattern_iff.mpr (choices word listed), rfl⟩

/-- The pattern of a list of choices tells whether the pieces between the bars of a text are two or
more choices. -/
theorem rmatch_choicesPattern_iff (text : List Char) :
    choicesPattern.rmatch text = true ↔
      2 ≤ (Text.splitOn '|' text).length ∧ ∀ piece ∈ Text.splitOn '|' text, IsChoice piece := by
  rw [RegularExpression.rmatch_iff_matches', mem_choicesPattern_iff]
  constructor
  · rintro ⟨words, several, choices, rfl⟩
    have filled : words ≠ [] := by
      rintro rfl
      contradiction
    rw [splitOn_joined choices filled]
    exact ⟨several, choices⟩
  · rintro ⟨several, choices⟩
    refine ⟨Text.splitOn '|' text, several, choices, ?_⟩
    rw [Text.splitOn_eq, List.intercalate_splitOn]

/-- A sample has choices when the pattern of a list of choices matches what is left of it once it is
trimmed; they are the pieces between its bars, and these have no blanks that could be trimmed away. -/
theorem choices?_eq_matched (sample : List Char) :
    choices? sample =
      if choicesPattern.rmatch (Text.trim sample) then
        some ((Text.splitOn '|' (Text.trim sample)).map fun piece => String.ofList (Text.trim piece))
      else none := by
  rw [choices?_eq]
  by_cases matched : choicesPattern.rmatch (Text.trim sample) = true
  · have pieces := (rmatch_choicesPattern_iff (Text.trim sample)).mp matched
    rw [if_pos matched, if_pos pieces, Option.some.injEq]
    refine List.map_congr_left fun piece listed => ?_
    have filled : ∀ c ∈ piece, Text.isBlank c = false := fun c held =>
      (plain_of_isChoiceChar ((pieces.2 piece listed).2 c held)).1
    rw [Text.trim_of_filled filled]
  · rw [if_neg matched, if_neg (mt (rmatch_choicesPattern_iff _).mpr matched)]

end Pattern

/-- A sample has exactly those choices that it lists once it is trimmed, and none when it lists
nothing: a pattern decides whether it does, and the choices are the pieces between its bars. So every
list is read back from its words, joined by bars and with any blanks around, and a choice is quoted
by putting apostrophes around it. -/
theorem choices?_exact (sample : List Char) :
    (∀ words, choices? sample = some words ↔ Lists (Text.trim sample) words) ∧
    (choices? sample = none ↔ ¬∃ words, Lists (Text.trim sample) words) ∧
    choices? sample =
      (if choicesPattern.rmatch (Text.trim sample) then
        some ((Text.splitOn '|' (Text.trim sample)).map fun piece => String.ofList (Text.trim piece))
      else none) ∧
    (∀ words front back, 2 ≤ words.length → (∀ word ∈ words, IsChoice word.toList) →
      (∀ c ∈ front, Text.isBlank c = true) → (∀ c ∈ back, Text.isBlank c = true) →
        choices? (front ++ ("|".intercalate words).toList ++ back) = some words) ∧
    ∀ words, choices? sample = some words →
      ∀ word ∈ words, Text.quoted word = "'" ++ word ++ "'" := by
  have read : ∀ words, choices? sample = some words ↔ Lists (Text.trim sample) words :=
    fun _ => choices?_eq_some_iff
  refine ⟨read, ?_, choices?_eq_matched sample,
    fun words front back several each leading trailing => ?_, fun words listed word member => ?_⟩
  · simp only [← read, Option.eq_none_iff_forall_ne_some, not_exists, ne_eq]
  · have lists : Lists ("|".intercalate words).toList words :=
      ⟨several, each, String.ofList_toList⟩
    exact lists.choices?_padded leading trailing
  · exact quoted_of_isChoice (((read words).mp listed).each word member)

/-- Choices are read back in spite of the blanks around them, and a sample with a blank at a bar has
none. -/
theorem choices?_exact_padded :
    let words := ["dev", "prod-eu", "_7"]
    choices? "\u00a0dev|prod-eu|_7\t ".toList = some words ∧
      (2 ≤ words.length ∧ ∀ word ∈ words, IsChoice word.toList) ∧
      (∀ word ∈ words, Text.quoted word = "'" ++ word ++ "'") ∧
      choices? "dev | prod".toList = none := by
  intro words
  have several : 2 ≤ words.length := by decide
  have each : ∀ word ∈ words, IsChoice word.toList := by decide
  have written : "\u00a0dev|prod-eu|_7\t ".toList =
      ['\u00a0'] ++ ("|".intercalate words).toList ++ ['\t', ' '] := by decide +kernel
  obtain ⟨_, _, _, padded, _⟩ := choices?_exact []
  have listed := padded words ['\u00a0'] ['\t', ' '] several each
    (List.all_eq_true.mp (by decide)) (List.all_eq_true.mp (by decide))
  rw [← written] at listed
  obtain ⟨_, _, _, _, quotes⟩ := choices?_exact "\u00a0dev|prod-eu|_7\t ".toList
  exact ⟨listed, ⟨several, each⟩, quotes words listed, by decide⟩

end EnvTemplate.Template
