import EnvTemplate.Proofs.Name.PropertyName

/-!
# Names put together

Camel case goes word by word: when a separator stands between a word and a name in which a letter
or a digit is left, the camel case of the whole is that of the word followed by that of the name
with its first character raised. This is also how the lead of a group works, since raising undoes
what camel case does to a name of small letters and digits.
-/
namespace EnvTemplate.Name

variable {c separator : Char} {previous : Option Char} {text word rest : List Char}

/-- A name with its first character in upper case. -/
def capitalized : List Char → List Char
  | [] => []
  | c :: rest => c.toUpper :: rest

/-- What begins a word is a letter or a digit. -/
theorem isAlphanum_of_startsWord (starts : startsWord c = true) : c.isAlphanum = true := by
  simp only [startsWord, Bool.or_eq_true, Bool.and_eq_true, decide_eq_true_eq] at starts
  rcases starts with small | digit
  · have lower : c.isLower = true :=
      (Bool.and_eq_true _ _).mpr ⟨decide_eq_true small.1, decide_eq_true small.2⟩
    have alpha : c.isAlpha = true := (Bool.or_eq_true _ _).mpr (.inr lower)
    simp [Char.isAlphanum, alpha]
  · have decimal : c.isDigit = true :=
      (Bool.and_eq_true _ _).mpr ⟨decide_eq_true digit.1, decide_eq_true digit.2⟩
    simp [Char.isAlphanum, decimal]

/-- What begins a word is raised to a character of names that is no separator; raising it again
does nothing, and lowering it gives it back. -/
theorem toUpper_of_startsWord (starts : startsWord c = true) :
    (isNameChar c.toUpper = true ∧ isSeparator c.toUpper = false) ∧
      c.toUpper.toUpper = c.toUpper ∧ c.toUpper.toLower = c := by
  have named : isNameChar c = true := by simp [isNameChar, isAlphanum_of_startsWord starts]
  exact of_table (p := fun c => startsWord c = true →
    (isNameChar c.toUpper = true ∧ isSeparator c.toUpper = false) ∧
      c.toUpper.toUpper = c.toUpper ∧ c.toUpper.toLower = c) (by decide) named starts

/-- The letters and digits of a word are lowered, since no separator stands before any of them. -/
theorem map_camel_lettersFrom (letters : ∀ c ∈ word, c.isAlphanum = true)
    (apart : previous.any isSeparator = false) :
    (lettersFrom previous word).map Occurrence.camel = word.map Char.toLower := by
  induction word generalizing previous with
  | nil => rfl
  | cons c word ih =>
    obtain ⟨first, later⟩ := List.forall_mem_cons.mp letters
    have plain : (some c).any isSeparator = false := isSeparator_of_isAlphanum first
    rw [lettersFrom_cons first, List.map_cons, List.map_cons, Occurrence.camel_lowered apart,
      ih later plain]

/-- A separator before a name in which a letter or a digit is left raises the first of them. -/
theorem map_camel_capitalized (separates : isSeparator separator = true) (named : IsName text)
    (left : ∃ c ∈ text, isSeparator c = false) (other : Option Char) (last : List Char) :
    (lettersFrom (some separator) text).map Occurrence.camel ++ last =
      capitalized ((lettersFrom other text).map Occurrence.camel ++ last) := by
  -- A separator at the front of the text takes the place of what stands before it on both sides,
  -- so the induction is for any two characters.
  induction text generalizing separator other with
  | nil =>
    obtain ⟨c, member, _⟩ := left
    cases member
  | cons c rest ih =>
    obtain ⟨first, later⟩ := List.forall_mem_cons.mp named
    cases plain : isSeparator c with
    | true =>
      have left : ∃ c ∈ rest, isSeparator c = false := by
        simpa [plain] using left
      rw [lettersFrom_separator plain, lettersFrom_separator plain]
      exact ih plain later left (some c)
    | false =>
      have letter : c.isAlphanum = true := isAlphanum_of_isNameChar first plain
      have follows : (some separator).any isSeparator = true := separates
      obtain ⟨_, _, _, same⟩ := camel_of_isAlphanum ⟨other, c⟩ letter
      rw [lettersFrom_cons letter, lettersFrom_cons letter, List.map_cons, List.map_cons,
        List.cons_append, List.cons_append, capitalized, Occurrence.camel_raised follows, same]

/-- The camel case of a word is its lowered characters. -/
theorem camelChars_word (named : IsName word) (plain : ∀ c ∈ word, isSeparator c = false) :
    camelChars word = word.map Char.toLower := by
  have letter : ∀ c ∈ word, c.isAlphanum = true := fun c member =>
    isAlphanum_of_isNameChar (named c member) (plain c member)
  have nothing : word.rtakeWhile isSeparator = [] := by
    rw [List.rtakeWhile_eq_nil_iff]
    intro filled
    rw [plain _ (List.getLast_mem filled)]
    exact Bool.false_ne_true
  rw [camelChars_eq named, nothing, List.append_nil]
  exact map_camel_lettersFrom letter rfl

/-- The camel case of a word, a separator and a name in which a letter or a digit is left. -/
theorem camelChars_append (named : IsName (word ++ separator :: rest))
    (plain : ∀ c ∈ word, isSeparator c = false) (separates : isSeparator separator = true)
    (left : ∃ c ∈ rest, isSeparator c = false) :
    camelChars (word ++ separator :: rest) = camelChars word ++ capitalized (camelChars rest) := by
  obtain ⟨before, between, after⟩ : IsName word ∧ isNameChar separator = true ∧ IsName rest := by
    simpa [IsName, or_imp, forall_and] using named
  have letter : ∀ c ∈ word, c.isAlphanum = true := fun c member =>
    isAlphanum_of_isNameChar (before c member) (plain c member)
  have last : (word ++ separator :: rest).rtakeWhile isSeparator =
      rest.rtakeWhile isSeparator := by
    obtain ⟨c, member, outside⟩ := left
    obtain ⟨front, back, rfl⟩ := List.append_of_mem member
    have whole := rtakeWhile_append_cons (word ++ separator :: front) back outside
    rw [rtakeWhile_append_cons front back outside, ← whole, List.append_assoc, List.cons_append]
  calc camelChars (word ++ separator :: rest)
      = (lettersFrom none word).map Occurrence.camel ++
          ((lettersFrom (some separator) rest).map Occurrence.camel ++
            rest.rtakeWhile isSeparator) := by
        rw [camelChars_eq named, last, letters, lettersFrom_append separates, List.map_append,
          List.append_assoc]
    _ = camelChars word ++ capitalized (camelChars rest) := by
        rw [map_camel_lettersFrom letter rfl, ← camelChars_word before plain,
          map_camel_capitalized separates after left none, camelChars_eq after, letters]

/-- Camel case undoes what raising does to small letters and digits. -/
theorem camelChars_map_toUpper (small : ∀ c ∈ word, startsWord c = true) :
    camelChars (word.map Char.toUpper) = word := by
  have raised : ∀ c ∈ word.map Char.toUpper, isNameChar c = true ∧ isSeparator c = false := by
    intro c member
    obtain ⟨d, held, rfl⟩ := List.mem_map.mp member
    exact (toUpper_of_startsWord (small d held)).1
  rw [camelChars_word (fun c member => (raised c member).1) fun c member => (raised c member).2,
    List.map_map]
  refine (List.map_congr_left fun c member => ?_).trans (List.map_id word)
  exact (toUpper_of_startsWord (small c member)).2.2

/-- A text without hyphens and blanks is not changed for the lead of a group. -/
theorem underscoreFrom_of_unbroken (unbroken : ∀ c ∈ text, isLeadBreak c = false)
    (afterBreak : Bool) : underscoreFrom afterBreak text = text := by
  induction text generalizing afterBreak with
  | nil => rfl
  | cons c rest ih =>
    obtain ⟨first, later⟩ := List.forall_mem_cons.mp unbroken
    simp [underscoreFrom, first, ih later]

/-- A group without hyphens leads its keys with its name in upper case. -/
theorem groupLead_of_words (words : ∀ c ∈ text, isWordChar c = true) :
    groupLead text = text.map Char.toUpper ++ ['_'] := by
  have named : IsName text := fun c member => isNameChar_iff.mpr (.inl (words c member))
  have unbroken : ∀ c ∈ text, isLeadBreak c = false := fun c member =>
    of_table (p := fun c => isWordChar c = true → isLeadBreak c = false) (by decide)
      (named c member) (words c member)
  have ascii : Text.IsAscii text := fun c member => toNat_lt_of_isNameChar (named c member)
  rw [groupLead, underscoreFrom_of_unbroken unbroken, Text.toUpper_of_isAscii ascii]

end EnvTemplate.Name
