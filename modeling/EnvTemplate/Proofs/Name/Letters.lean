import EnvTemplate.Proofs.Name.Characters
import Mathlib.Data.List.DropRight
import Mathlib.Data.List.Forall2

/-!
# The letters of a camel case

The camel case of a name is known character by character. Its letters and digits are those of the
name, one for one and in order, and a letter among them is a capital exactly when a separator stands
directly before it in the name. Of the separators, the run at the end of the name stays as it is,
and all others are dropped.
-/
namespace EnvTemplate.Name

variable {c : Char} {previous : Option Char} {text run : List Char}

/-- A character of a text, with the one directly before it. -/
structure Occurrence where
  /-- The character before, if there is one. -/
  previous : Option Char
  /-- The character itself. -/
  char : Char
deriving DecidableEq, Repr

namespace Occurrence

/-- Whether a separator stands directly before the character. -/
def followsSeparator (occurrence : Occurrence) : Bool := occurrence.previous.any isSeparator

/-- The character in camel case: raised after a separator, and lowered otherwise. -/
def camel (occurrence : Occurrence) : Char :=
  if occurrence.followsSeparator then occurrence.char.toUpper else occurrence.char.toLower

/-- After a separator a character is raised. -/
theorem camel_raised (follows : previous.any isSeparator = true) (c : Char) :
    camel ⟨previous, c⟩ = c.toUpper := if_pos follows

/-- After another character, and at the front, a character is lowered. -/
theorem camel_lowered (apart : previous.any isSeparator = false) (c : Char) :
    camel ⟨previous, c⟩ = c.toLower :=
  if_neg (ne_true_of_eq_false apart)

end Occurrence

/-- The letters and digits of a text in order; `previous` stands directly before the text. -/
def lettersFrom (previous : Option Char) : List Char → List Occurrence
  | [] => []
  | c :: rest =>
    if c.isAlphanum then ⟨previous, c⟩ :: lettersFrom (some c) rest else lettersFrom (some c) rest

/-- The letters and digits of a text in order, each with the character directly before it. -/
def letters (text : List Char) : List Occurrence := lettersFrom none text

/-- A letter or digit at the front is listed. -/
theorem lettersFrom_cons (plain : c.isAlphanum = true) :
    lettersFrom previous (c :: text) = ⟨previous, c⟩ :: lettersFrom (some c) text := if_pos plain

/-- A separator at the front is passed over. -/
theorem lettersFrom_separator (separates : isSeparator c = true) :
    lettersFrom previous (c :: text) = lettersFrom (some c) text := by
  rw [lettersFrom, (plain_of_isSeparator separates).1, if_neg Bool.false_ne_true]

/-- What is listed of a text are its letters and digits. -/
theorem map_char_lettersFrom (previous : Option Char) (text : List Char) :
    (lettersFrom previous text).map Occurrence.char = text.filter Char.isAlphanum := by
  induction text generalizing previous with
  | nil => rfl
  | cons c rest ih =>
    rw [lettersFrom, List.filter_cons]
    split
    · rw [List.map_cons, ih]
    · exact ih (some c)

/-- A character is listed when it stands in the text and is a letter or a digit. -/
theorem mem_map_char_letters :
    c ∈ (letters text).map Occurrence.char ↔ c ∈ text ∧ c.isAlphanum = true := by
  rw [letters, map_char_lettersFrom, List.mem_filter]

/-- What is listed stands in the text, and is a letter or a digit. -/
theorem char_of_mem_letters {letter : Occurrence} (member : letter ∈ letters text) :
    letter.char ∈ text ∧ letter.char.isAlphanum = true :=
  mem_map_char_letters.mp (List.mem_map_of_mem member)

/-- Listing starts anew after a separator. -/
theorem lettersFrom_append (separates : isSeparator c = true) (previous : Option Char)
    (front back : List Char) :
    lettersFrom previous (front ++ c :: back) =
      lettersFrom previous front ++ lettersFrom (some c) back := by
  induction front generalizing previous with
  | nil => exact lettersFrom_separator separates
  | cons d front ih =>
    rw [List.cons_append, lettersFrom, lettersFrom, ih]
    split
    · rfl
    · rfl

/-- In camel case a letter or digit stays the same up to case, and a letter is a capital exactly
when it follows a separator. -/
theorem camel_of_isAlphanum (letter : Occurrence) (plain : letter.char.isAlphanum = true) :
    letter.camel.isAlphanum = true ∧
      (letter.camel.isAlpha = true →
        (letter.camel.isUpper = true ↔ letter.followsSeparator = true)) ∧
      letter.camel.toLower = letter.char.toLower ∧ letter.camel.toUpper = letter.char.toUpper := by
  cases follows : letter.followsSeparator with
  | true =>
    have same : letter.camel = letter.char.toUpper := Occurrence.camel_raised follows letter.char
    obtain ⟨stays, capital, lowered, raised⟩ := toUpper_of_isAlphanum plain
    rw [same]
    exact ⟨stays, fun alpha => iff_of_true (capital alpha) rfl, lowered, raised⟩
  | false =>
    have same : letter.camel = letter.char.toLower := Occurrence.camel_lowered follows letter.char
    obtain ⟨stays, small, lowered, raised⟩ := toLower_of_isAlphanum plain
    rw [same, small]
    exact ⟨stays, fun _ => Iff.rfl, lowered, raised⟩

/-- The run at the end of a text begins after any character that does not belong to it. -/
theorem rtakeWhile_append_cons {α : Type} {p : α → Bool} {x : α} (front back : List α)
    (outside : p x = false) : (front ++ x :: back).rtakeWhile p = back.rtakeWhile p := by
  induction back using List.reverseRecOn with
  | nil => rw [List.rtakeWhile_concat, outside]; rfl
  | append_singleton back last ih =>
    rw [← List.cons_append, ← List.append_assoc, List.rtakeWhile_concat, ih,
      List.rtakeWhile_concat]

/-- Joining the words of a lowered name raises the letters and digits that follow separators, and
keeps the separators at the end. -/
theorem joinWords_map_toLower (named : IsName text)
    (separators : ∀ c ∈ run, isSeparator c = true)
    (follows : previous.any isSeparator = true ↔ run ≠ []) :
    joinWords run (text.map Char.toLower) =
      (lettersFrom previous text).map Occurrence.camel ++ (run ++ text).rtakeWhile isSeparator := by
  -- The run that is held back is what stands between the last letter or digit and the text, so it
  -- is empty exactly when no separator stands directly before the text.
  induction text generalizing run previous with
  | nil =>
    have whole : (run ++ []).rtakeWhile isSeparator = run := by
      rw [List.append_nil]
      exact List.rtakeWhile_eq_self_iff.mpr separators
    rw [whole]
    rfl
  | cons c rest ih =>
    obtain ⟨first, later⟩ := List.forall_mem_cons.mp named
    rw [List.map_cons, joinWords]
    cases separates : isSeparator c with
    | true =>
      have same : c.toLower = c := (plain_of_isSeparator separates).2
      have longer : ∀ d ∈ run ++ [c], isSeparator d = true := by
        simpa [or_imp, forall_and, separates] using separators
      have held : (some c).any isSeparator = true ↔ run ++ [c] ≠ [] := by simp [separates]
      have joined := ih later longer held
      rw [List.append_assoc, List.singleton_append] at joined
      rw [same, if_pos separates, joined, lettersFrom_separator separates]
    | false =>
      obtain ⟨lowered, starts⟩ := startsWord_toLower first
      obtain ⟨begins, letter⟩ := starts separates
      obtain ⟨_, _, _, raised⟩ := toLower_of_isAlphanum letter
      have nothing : (some c).any isSeparator = true ↔ ([] : List Char) ≠ [] := by
        simp [separates]
      have joined := ih later (by simp) nothing
      rw [List.nil_append] at joined
      rw [rtakeWhile_append_cons run rest separates, lettersFrom_cons letter]
      by_cases empty : run = []
      · have unheld : previous.any isSeparator = false := by
          rw [← Bool.not_eq_true, follows, not_not]
          exact empty
        simp [lowered, separates, empty, joined, Occurrence.camel_lowered unheld]
      · have held : previous.any isSeparator = true := follows.mpr empty
        simp [lowered, separates, empty, begins, raised, joined, Occurrence.camel_raised held]

/-- The camel case of a name: its letters and digits, and the separators at its end. -/
theorem camelChars_eq (named : IsName text) :
    camelChars text = (letters text).map Occurrence.camel ++ text.rtakeWhile isSeparator := by
  have ascii : Text.IsAscii text := fun c member => toNat_lt_of_isNameChar (named c member)
  have nothing : (none : Option Char).any isSeparator = true ↔ ([] : List Char) ≠ [] := by simp
  rw [camelChars, Text.toLower_of_isAscii ascii, letters]
  exact joinWords_map_toLower named (by simp) nothing

/-- The camel case of a name is a word with the separators from the end of the name behind it. The
word holds the letters and digits of the name in order, the same up to case, and a letter in it is a
capital exactly when a separator stands directly before that letter in the name. -/
theorem camelCase_letters (name : String) (named : IsName name.toList) :
    ∃ word : List Char,
      (camelCase name).toList = word ++ name.toList.rtakeWhile isSeparator ∧
      word.map Char.toLower = (name.toList.filter Char.isAlphanum).map Char.toLower ∧
      List.Forall₂ (fun letter written => written.isAlpha = true →
          (written.isUpper = true ↔ letter.followsSeparator = true))
        (letters name.toList) word := by
  have cased : ∀ letter ∈ letters name.toList,
      (letter.camel.isAlpha = true →
        (letter.camel.isUpper = true ↔ letter.followsSeparator = true)) ∧
      letter.camel.toLower = letter.char.toLower := by
    intro letter member
    obtain ⟨_, capital, same, _⟩ := camel_of_isAlphanum letter (char_of_mem_letters member).2
    exact ⟨capital, same⟩
  refine ⟨(letters name.toList).map Occurrence.camel, ?_, ?_, ?_⟩
  · rw [camelCase, String.toList_ofList]
    exact camelChars_eq named
  · calc ((letters name.toList).map Occurrence.camel).map Char.toLower
        = ((letters name.toList).map Occurrence.char).map Char.toLower := by
          rw [List.map_map, List.map_map]
          exact List.map_congr_left fun letter member => (cased letter member).2
      _ = (name.toList.filter Char.isAlphanum).map Char.toLower := by
          rw [letters, map_char_lettersFrom]
  · rw [List.forall₂_map_right_iff, List.forall₂_same]
    exact fun letter member => (cased letter member).1

/-- Runs at both ends, runs of mixed separators, and a digit behind a separator. -/
theorem camelCase_letters_runs :
    IsName "_-a__B2-3c-_".toList ∧ camelCase "_-a__B2-3c-_" = "AB23c-_" ∧
      ∃ word : List Char, "AB23c-_".toList = word ++ "-_".toList ∧
        word.map Char.toLower = "ab23c".toList ∧
        List.Forall₂ (fun letter written => written.isAlpha = true →
            (written.isUpper = true ↔ letter.followsSeparator = true))
          (letters "_-a__B2-3c-_".toList) word := by
  have named : IsName "_-a__B2-3c-_".toList := by decide
  have camel : camelCase "_-a__B2-3c-_" = "AB23c-_" := by decide
  have last : "_-a__B2-3c-_".toList.rtakeWhile isSeparator = "-_".toList := by decide
  have filtered : ("_-a__B2-3c-_".toList.filter Char.isAlphanum).map Char.toLower =
      "ab23c".toList := by decide
  obtain ⟨word, whole, same, capitals⟩ := camelCase_letters "_-a__B2-3c-_" named
  rw [camel, last] at whole
  rw [filtered] at same
  exact ⟨named, camel, word, whole, same, capitals⟩

end EnvTemplate.Name
