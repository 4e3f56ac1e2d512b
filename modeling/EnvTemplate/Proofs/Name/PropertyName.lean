import EnvTemplate.Proofs.Name.Alphabet

/-!
# Property names without quotes

In an object a property name may stand without quotes when it is an identifier or a decimal
integer. A name of this library is neither when it is empty, holds a hyphen, or starts with a digit
and is no such integer; in all other cases it is one of the two. The camel case of a word that
starts with a capital letter, like a key, always is an identifier.
-/
namespace EnvTemplate.Name

variable {c : Char} {text path segment : List Char}

/-- The characters an identifier starts with. -/
def startsIdentifier (c : Char) : Bool := c.isAlpha || c == '_' || c == '$'

/-- The characters an identifier goes on with. -/
def continuesIdentifier (c : Char) : Bool := startsIdentifier c || c.isDigit

/-- An identifier of ASCII characters. -/
def isIdentifier : List Char → Bool
  | [] => false
  | first :: rest => startsIdentifier first && rest.all continuesIdentifier

/-- A decimal integer: digits of which the first is zero only when it is the only one. -/
def isPlainInteger : List Char → Bool
  | [] => false
  | first :: rest => first.isDigit && rest.all Char.isDigit && (first != '0' || rest.isEmpty)

/-- A property name that may stand without quotes. -/
def isPropertyName (text : List Char) : Bool := isIdentifier text || isPlainInteger text

/-- Whether the first character is a digit. -/
def startsWithDigit (text : List Char) : Bool := text.head?.any Char.isDigit

/-- The characters of names that an identifier may hold. -/
def isWordChar (c : Char) : Bool := c.isAlphanum || c == '_'

/-- Of the characters of names only the hyphen is kept out of words. -/
theorem isNameChar_iff : isNameChar c = true ↔ isWordChar c = true ∨ c = '-' := by
  simp [isNameChar, isWordChar]

/-- Every character of words continues an identifier, and every one but the digits starts one. -/
theorem startsIdentifier_eq (word : isWordChar c = true) : startsIdentifier c = !c.isDigit :=
  of_table (p := fun c => isWordChar c = true → startsIdentifier c = !c.isDigit) (by decide)
    (isNameChar_iff.mpr (.inl word)) word

/-- Every character of words continues an identifier. -/
theorem continuesIdentifier_of_isWordChar (word : isWordChar c = true) :
    continuesIdentifier c = true := by
  rw [continuesIdentifier, startsIdentifier_eq word, Bool.not_or_self]

/-- No name without quotes holds a hyphen. -/
theorem hyphen_notMem_of_isPropertyName (legal : isPropertyName text = true) : '-' ∉ text := by
  have plain : ∀ c ∈ text, continuesIdentifier c = true := by
    cases text with
    | nil => simp
    | cons first rest =>
      simp only [isPropertyName, isIdentifier, isPlainInteger, Bool.or_eq_true, Bool.and_eq_true,
        List.all_eq_true] at legal
      rcases legal with ⟨starts, continues⟩ | ⟨⟨digit, digits⟩, _⟩
      · exact List.forall_mem_cons.mpr ⟨by simp [continuesIdentifier, starts], continues⟩
      · refine List.forall_mem_cons.mpr ⟨by simp [continuesIdentifier, digit], fun c member => ?_⟩
        simp [continuesIdentifier, digits c member]
  exact fun member => absurd (plain _ member) (by decide)

/-- Words are identifiers unless they start with a digit. -/
theorem isIdentifier_cons {first : Char} {rest : List Char}
    (words : ∀ c ∈ first :: rest, isWordChar c = true) :
    isIdentifier (first :: rest) = !first.isDigit := by
  obtain ⟨word, later⟩ := List.forall_mem_cons.mp words
  have continues : rest.all continuesIdentifier = true :=
    List.all_eq_true.mpr fun c member => continuesIdentifier_of_isWordChar (later c member)
  rw [isIdentifier, startsIdentifier_eq word, continues, Bool.and_true]

/-- A name may stand without quotes when it is not empty, holds no hyphen, and is an integer if it
starts with a digit. -/
theorem isPropertyName_iff (named : IsName text) :
    isPropertyName text = true ↔
      text ≠ [] ∧ '-' ∉ text ∧ (startsWithDigit text = true → isPlainInteger text = true) := by
  cases text with
  | nil => simp [isPropertyName, isIdentifier, isPlainInteger]
  | cons first rest =>
    -- Without a hyphen the name is made of words, and its first character decides.
    have decides (joined : '-' ∉ first :: rest) :
        isPropertyName (first :: rest) = true ↔
          (first.isDigit = true → isPlainInteger (first :: rest) = true) := by
      have words : ∀ c ∈ first :: rest, isWordChar c = true := fun c member =>
        (isNameChar_iff.mp (named c member)).resolve_right fun same => joined (same ▸ member)
      rw [isPropertyName, isIdentifier_cons words]
      cases first.isDigit <;> simp
    constructor
    · intro legal
      have joined := hyphen_notMem_of_isPropertyName legal
      exact ⟨List.cons_ne_nil _ _, joined, by simpa [startsWithDigit] using (decides joined).mp legal⟩
    · rintro ⟨_, joined, numeric⟩
      exact (decides joined).mpr (by simpa [startsWithDigit] using numeric)

/-- Lowering and raising keep to the characters of words. -/
theorem isWordChar_toLower_toUpper (word : isWordChar c = true) :
    isWordChar c.toLower = true ∧ isWordChar c.toUpper = true :=
  of_table
    (p := fun c => isWordChar c = true → isWordChar c.toLower = true ∧ isWordChar c.toUpper = true)
    (by decide) (isNameChar_iff.mpr (.inl word)) word

/-- Camel case brings no hyphens. -/
theorem forall_isWordChar_camelChars (words : ∀ c ∈ text, isWordChar c = true) :
    ∀ c ∈ camelChars text, isWordChar c = true := by
  have named : IsName text := fun c member => isNameChar_iff.mpr (.inl (words c member))
  exact forall_mem_camelChars named (fun _ word => (isWordChar_toLower_toUpper word).1)
    (fun _ word => (isWordChar_toLower_toUpper word).2) words

/-- Something is left of a name that is not empty. -/
theorem camelChars_ne_nil (named : IsName text) (filled : text ≠ []) : camelChars text ≠ [] := by
  intro nothing
  rw [camelChars_eq named] at nothing
  obtain ⟨noLetters, noRun⟩ := List.append_eq_nil_iff.mp nothing
  have separators : ∀ c ∈ text, isSeparator c = true := by
    intro c member
    by_contra letter
    rw [Bool.not_eq_true] at letter
    have plain : c.isAlphanum = true := isAlphanum_of_isNameChar (named c member) letter
    have listed := mem_map_char_letters.mpr ⟨member, plain⟩
    rw [List.map_eq_nil_iff.mp noLetters] at listed
    contradiction
  -- A name of separators is the run at its own end.
  have whole : text.rtakeWhile isSeparator = text := List.rtakeWhile_eq_self_iff.mpr separators
  exact filled (whole.symm.trans noRun)

/-- The first character of a camel case is the first of its word, when that is no separator. -/
theorem camelChars_cons {first : Char} {rest : List Char} (named : IsName (first :: rest))
    (leads : isSeparator first.toLower = false) :
    ∃ later, camelChars (first :: rest) = first.toLower :: later := by
  obtain ⟨word, _⟩ := List.forall_mem_cons.mp named
  have plain : isSeparator first = false := (startsWord_toLower word).1.symm.trans leads
  rw [camelChars_eq named, letters, lettersFrom_cons (isAlphanum_of_isNameChar word plain)]
  exact ⟨_, rfl⟩

/-- A word that starts with a capital letter has an identifier as its camel case. -/
theorem isPropertyName_camelChars {first : Char} {rest : List Char}
    (capital : first.isUpper = true) (words : ∀ c ∈ first :: rest, isWordChar c = true) :
    isPropertyName (camelChars (first :: rest)) = true := by
  have named : IsName (first :: rest) := fun c member => isNameChar_iff.mpr (.inl (words c member))
  obtain ⟨leads, letter⟩ : isSeparator first.toLower = false ∧ first.toLower.isDigit = false :=
    of_table (p := fun c => c.isUpper = true →
      isSeparator c.toLower = false ∧ c.toLower.isDigit = false) (by decide)
      (named first List.mem_cons_self) capital
  obtain ⟨later, same⟩ := camelChars_cons named leads
  have camel := forall_isWordChar_camelChars words
  rw [same] at camel ⊢
  rw [isPropertyName, isIdentifier_cons camel, letter, Bool.not_false, Bool.true_or]

/-- Something is left of a segment that is not empty. -/
theorem hyphenate_ne_nil (filled : segment ≠ []) : hyphenate segment ≠ [] := by
  cases segment with
  | nil => contradiction
  | cons c rest =>
    rw [hyphenate, hyphenateFrom]
    split <;> simp

/-- The names of an accepted path are not empty. -/
theorem ne_nil_of_groupName?_eq_ok {name : String} (accepted : groupName? path segment = .ok name) :
    name.toList ≠ [] := by
  obtain ⟨filled, allowed, rfl⟩ := groupName?_eq_ok_iff.mp accepted
  rw [String.toList_ofList]
  exact camelChars_ne_nil (hyphenateFrom_isName allowed false) (hyphenate_ne_nil filled)

end EnvTemplate.Name
