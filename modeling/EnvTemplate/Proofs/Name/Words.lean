import EnvTemplate.Proofs.Name.Joining

/-!
# Group names of several words

A segment of a group path may spell several words. Its group name runs them together, each word but
the first with a capital letter, and keeps nothing of what stood between them. Raised again, the
name is the words in capital letters with nothing between them. Keys that start with the words and
an underscore after each of them therefore start with the lead of the group when there is one word,
and never when there are more.
-/
namespace EnvTemplate.Name

variable {c : Char} {text word rest segment : List Char} {words : List (List Char)}

/-- A word of letters. -/
def IsWord (word : List Char) : Prop := word ≠ [] ∧ ∀ c ∈ word, c.isAlpha = true

instance : DecidablePred IsWord := fun word =>
  decidable_of_iff (word ≠ [] ∧ word.all Char.isAlpha = true) (by rw [List.all_eq_true, IsWord])

/-- What joins the words of a segment. -/
def isJoint (c : Char) : Bool := c == ' ' || c == '-' || c == '_'

/-- A segment spells words: letters, with a single joint between each two of the words. -/
inductive Spells : List Char → List (List Char) → Prop
  /-- A single word. -/
  | single {word : List Char} (letters : IsWord word) : Spells word [word]
  /-- A word, a joint, and what spells the other words. -/
  | joined {word rest : List Char} {joint : Char} {words : List (List Char)}
    (letters : IsWord word) (joins : isJoint joint = true) (others : Spells rest words) :
    Spells (word ++ joint :: rest) (word :: words)

/-- The words in capital letters, with an underscore after each of them. -/
def keyLead (words : List (List Char)) : List Char :=
  words.flatMap fun word => word.map Char.toUpper ++ ['_']

/-- The last segment of a group path, without the blanks at its ends. -/
def lastSegment (path : List Char) : List Char :=
  Text.trim ((Text.splitOn '.' (Text.trim path)).getLast?.getD [])

/-- Letters are characters of names. -/
theorem isNameChar_of_isAlpha (letter : c.isAlpha = true) : isNameChar c = true := by
  simp [isNameChar, Char.isAlphanum, letter]

/-- Letters are neither separators nor blanks. -/
theorem plain_of_isAlpha (letter : c.isAlpha = true) :
    isSeparator c = false ∧ Text.isBlank c = false :=
  of_table (p := fun c => c.isAlpha = true → isSeparator c = false ∧ Text.isBlank c = false)
    (by decide) (isNameChar_of_isAlpha letter) letter

/-- Letters stay letters when they are lowered or raised. -/
theorem isAlpha_toLower_toUpper (letter : c.isAlpha = true) :
    c.toLower.isAlpha = true ∧ c.toUpper.isAlpha = true :=
  of_table (p := fun c => c.isAlpha = true → c.toLower.isAlpha = true ∧ c.toUpper.isAlpha = true)
    (by decide) (isNameChar_of_isAlpha letter) letter

/-- Letters that were lowered or raised are raised to the same. -/
theorem toUpper_toLower_toUpper (letter : c.isAlpha = true) :
    c.toLower.toUpper = c.toUpper ∧ c.toUpper.toUpper = c.toUpper :=
  of_table (p := fun c => c.isAlpha = true →
    c.toLower.toUpper = c.toUpper ∧ c.toUpper.toUpper = c.toUpper)
    (by decide) (isNameChar_of_isAlpha letter) letter

/-- Blanks are hyphenated after a word, not in it. -/
theorem hyphenateFrom_append (filled : ∀ c ∈ word, Text.isBlank c = false) (ne : word ≠ [])
    (afterBlank : Bool) (rest : List Char) :
    hyphenateFrom afterBlank (word ++ rest) = word ++ hyphenateFrom false rest := by
  induction word generalizing afterBlank with
  | nil => exact absurd rfl ne
  | cons c word ih =>
    obtain ⟨first, later⟩ := List.forall_mem_cons.mp filled
    cases word with
    | nil => simp [hyphenateFrom, first]
    | cons d word => simpa [hyphenateFrom, first] using ih later (by simp) false

/-- A joint is hyphenated to a separator. -/
theorem hyphenateFrom_joint {joint : Char} (joins : isJoint joint = true) (rest : List Char) :
    ∃ separator afterBlank, isSeparator separator = true ∧
      hyphenateFrom false (joint :: rest) = separator :: hyphenateFrom afterBlank rest := by
  simp only [isJoint, Bool.or_eq_true, beq_iff_eq] at joins
  rcases joins with (rfl | rfl) | rfl
  · exact ⟨'-', true, rfl, rfl⟩
  · exact ⟨'-', false, rfl, rfl⟩
  · exact ⟨'_', false, rfl, rfl⟩

namespace IsWord

/-- A word is a name without separators. -/
theorem isName (letters : IsWord word) : IsName word ∧ ∀ c ∈ word, isSeparator c = false :=
  ⟨fun c member => isNameChar_of_isAlpha (letters.2 c member),
    fun c member => (plain_of_isAlpha (letters.2 c member)).1⟩

/-- A word is not changed by hyphens for blanks. -/
theorem hyphenateFrom_append (letters : IsWord word) (afterBlank : Bool) (rest : List Char) :
    hyphenateFrom afterBlank (word ++ rest) = word ++ hyphenateFrom false rest :=
  Name.hyphenateFrom_append (fun c member => (plain_of_isAlpha (letters.2 c member)).2) letters.1
    afterBlank rest

/-- The camel case of a word consists of letters, which raised are those of the word. -/
theorem map_toUpper_camelChars (letters : IsWord word) :
    (camelChars word).map Char.toUpper = word.map Char.toUpper ∧
      ∀ c ∈ camelChars word, c.isAlpha = true := by
  obtain ⟨named, plain⟩ := letters.isName
  rw [camelChars_word named plain, List.map_map]
  refine ⟨List.map_congr_left fun c member => ?_, fun c member => ?_⟩
  · exact (toUpper_toLower_toUpper (letters.2 c member)).1
  · obtain ⟨d, held, rfl⟩ := List.mem_map.mp member
    exact (isAlpha_toLower_toUpper (letters.2 d held)).1

end IsWord

/-- Raising the first character keeps letters, and what raising all of them gives. -/
theorem map_toUpper_capitalized (letters : ∀ c ∈ text, c.isAlpha = true) :
    (capitalized text).map Char.toUpper = text.map Char.toUpper ∧
      ∀ c ∈ capitalized text, c.isAlpha = true := by
  cases text with
  | nil => simp [capitalized]
  | cons first rest =>
    obtain ⟨letter, later⟩ := List.forall_mem_cons.mp letters
    have again := (toUpper_toLower_toUpper letter).2
    have raised := (isAlpha_toLower_toUpper letter).2
    exact ⟨by simp [capitalized, again], List.forall_mem_cons.mpr ⟨raised, later⟩⟩

namespace Spells

/-- A segment that spells words is a name when its blanks are hyphens. -/
theorem isName (spells : Spells segment words) (afterBlank : Bool) :
    IsName (hyphenateFrom afterBlank segment) := by
  refine hyphenateFrom_isName (fun c member => ?_) afterBlank
  induction spells with
  | single letters => simp [isSegmentChar, Char.isAlphanum, letters.2 c member]
  | @joined word rest joint words letters joins others ih =>
    rcases List.mem_append.mp member with before | after
    · simp [isSegmentChar, Char.isAlphanum, letters.2 c before]
    · rcases List.mem_cons.mp after with rfl | later
      · simp only [isJoint, Bool.or_eq_true, beq_iff_eq] at joins
        rcases joins with (rfl | rfl) | rfl <;> decide
      · exact ih later

/-- A segment that spells words starts with a letter. -/
theorem exists_letter (spells : Spells segment words) (afterBlank : Bool) :
    ∃ c ∈ hyphenateFrom afterBlank segment, isSeparator c = false := by
  have leads : ∃ word rest, IsWord word ∧ segment = word ++ rest := by
    cases spells with
    | single letters => exact ⟨segment, [], letters, (List.append_nil _).symm⟩
    | joined letters joins others => exact ⟨_, _, letters, rfl⟩
  obtain ⟨word, rest, letters, rfl⟩ := leads
  obtain ⟨c, member⟩ := List.exists_mem_of_ne_nil word letters.1
  rw [letters.hyphenateFrom_append]
  exact ⟨c, List.mem_append_left _ member, letters.isName.2 c member⟩

/-- The name of a group whose segment spells words consists of letters, which raised are those of
the words. -/
theorem map_toUpper_camelChars (spells : Spells segment words) (afterBlank : Bool) :
    (camelChars (hyphenateFrom afterBlank segment)).map Char.toUpper =
        words.flatten.map Char.toUpper ∧
      ∀ c ∈ camelChars (hyphenateFrom afterBlank segment), c.isAlpha = true := by
  -- A joint may be hyphenated as a blank, so what comes before the segment is left open.
  induction spells generalizing afterBlank with
  | @single word letters =>
    have same := letters.hyphenateFrom_append afterBlank []
    rw [List.append_nil, hyphenateFrom, List.append_nil] at same
    simpa [same] using letters.map_toUpper_camelChars
  | @joined word rest joint words letters joins others ih =>
    obtain ⟨separator, afterJoint, separates, after⟩ := hyphenateFrom_joint joins rest
    have whole : hyphenateFrom afterBlank (word ++ joint :: rest) =
        word ++ separator :: hyphenateFrom afterJoint rest := by
      rw [letters.hyphenateFrom_append, after]
    have named := (Spells.joined letters joins others).isName afterBlank
    obtain ⟨wordRaised, wordLetters⟩ := letters.map_toUpper_camelChars
    obtain ⟨othersRaised, othersLetters⟩ := ih afterJoint
    obtain ⟨raised, stays⟩ := map_toUpper_capitalized othersLetters
    rw [whole] at named ⊢
    rw [camelChars_append named letters.isName.2 separates (others.exists_letter afterJoint)]
    constructor
    · rw [List.map_append, wordRaised, raised, othersRaised, List.flatten_cons, List.map_append]
    · exact List.forall_mem_append.mpr ⟨wordLetters, stays⟩

/-- A group whose segment spells words leads its keys with the words in capital letters, which run
together, and one underscore. -/
theorem groupLead_eq (spells : Spells segment words) :
    groupLead (camelChars (hyphenate segment)) = words.flatten.map Char.toUpper ++ ['_'] := by
  obtain ⟨raised, letters⟩ := spells.map_toUpper_camelChars false
  have plain : ∀ c ∈ camelChars (hyphenate segment), isWordChar c = true := fun c member => by
    simp [isWordChar, Char.isAlphanum, letters c member]
  rw [groupLead_of_words plain, hyphenate, raised]

/-- A segment spells at least one word, and the first of them starts with a letter. -/
theorem exists_first (spells : Spells segment words) :
    ∃ c word others, words = (c :: word) :: others ∧ c.isAlpha = true := by
  have first : ∃ word others, words = word :: others ∧ IsWord word := by
    cases spells with
    | single letters => exact ⟨_, _, rfl, letters⟩
    | joined letters joins others => exact ⟨_, _, rfl, letters⟩
  obtain ⟨word, others, rfl, letters⟩ := first
  obtain ⟨c, word, rfl⟩ := List.exists_cons_of_ne_nil letters.1
  exact ⟨c, word, others, rfl, letters.2 c List.mem_cons_self⟩

/-- A key that starts with the words of its group loses them when there is one word, and is kept
whole when there are more: after the first word the key goes on with an underscore, and the lead of
the group with a letter. -/
theorem withoutLead_eq (spells : Spells segment words) (rest : List Char) :
    withoutLead (keyLead words ++ rest) (camelChars (hyphenate segment)) =
      if words.length = 1 then rest else keyLead words ++ rest := by
  rw [withoutLead, spells.groupLead_eq]
  cases spells with
  | single letters =>
    have leads : afterLead? ([segment].flatten.map Char.toUpper ++ ['_'])
        (keyLead [segment] ++ rest) = some rest := afterLead?_eq_some_iff.mpr (by simp [keyLead])
    rw [leads]
    rfl
  | @joined word _ _ words letters joins others =>
    obtain ⟨c, second, further, rfl, letter⟩ := others.exists_first
    cases found :
        afterLead? (((word :: (c :: second) :: further).flatten).map Char.toUpper ++ ['_'])
          (keyLead (word :: (c :: second) :: further) ++ rest) with
    | none => simp
    | some left =>
      -- After the first word the key has an underscore where the lead has a letter.
      have same := afterLead?_eq_some_iff.mp found
      have meets : '_' = c.toUpper := by
        simp only [keyLead, List.flatMap_cons, List.flatten_cons, List.map_append, List.map_cons,
          List.append_assoc, List.cons_append, List.nil_append, List.append_cancel_left_eq,
          List.cons.injEq] at same
        exact same.1
      have raised := (isAlpha_toLower_toUpper letter).2
      rw [← meets] at raised
      exact absurd raised (by decide)

end Spells

end EnvTemplate.Name
