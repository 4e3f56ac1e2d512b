import EnvTemplate.Proofs.Name.Joining

/-!
# Keys that can be restored

Camel case drops underscores and lowers letters, so that different keys may get one name. Nothing is
lost of a key whose words start with capital letters and have single underscores between them: the
capital letters of its camel case then tell where the words begin, and the key is restored by
putting an underscore before each of them and raising all letters.
-/
namespace EnvTemplate.Name

variable {c : Char} {word key other text : List Char} {words : List (List Char)}

/-- A capital letter, then capital letters and digits. -/
def isCapitalWord : List Char → Bool
  | [] => false
  | first :: rest => first.isUpper && rest.all fun c => c.isUpper || c.isDigit

/-- Words that start with capital letters, with single underscores between them. -/
def IsUpperSnake (key : List Char) : Prop :=
  ∃ words : List (List Char), words ≠ [] ∧ (∀ word ∈ words, isCapitalWord word = true) ∧
    key = List.intercalate ['_'] words

/-- A text with an underscore before each of its capital letters. -/
def underscored (text : List Char) : List Char :=
  text.flatMap fun c => if c.isUpper then ['_', c] else [c]

/-- The key that a camel case comes from. -/
def restored (text : List Char) : List Char := Text.toUpper (underscored text)

/-- Keys are restored piece by piece. -/
theorem restored_append (front back : List Char) :
    restored (front ++ back) = restored front ++ restored back := by
  simp [restored, underscored, Text.toUpper]

/-- Capital letters and digits are characters of names and no separators; what they are lowered to
is no capital letter and is raised to the same again. -/
theorem lowered_of_capital (capital : (c.isUpper || c.isDigit) = true) :
    (isNameChar c = true ∧ isSeparator c = false) ∧
      c.toLower.isUpper = false ∧ c.toLower.toNat < 128 ∧ c.toLower.toUpper = c :=
  of_table (p := fun c => (c.isUpper || c.isDigit) = true →
    (isNameChar c = true ∧ isSeparator c = false) ∧
      c.toLower.isUpper = false ∧ c.toLower.toNat < 128 ∧ c.toLower.toUpper = c)
    (by decide) (isNameChar_of_capital capital) capital

/-- A lowered character is raised. -/
theorem restored_lowered (capital : (c.isUpper || c.isDigit) = true) (text : List Char) :
    restored (c.toLower :: text) = c :: restored text := by
  obtain ⟨_, small, ascii, raised⟩ := lowered_of_capital capital
  simp [restored, underscored, Text.toUpper, Text.upperChar, small, ascii, raised]

/-- A capital letter gets an underscore. -/
theorem restored_capital (capital : c.isUpper = true) (text : List Char) :
    restored (c :: text) = '_' :: c :: restored text := by
  obtain ⟨ascii, raised⟩ : c.toNat < 128 ∧ c.toUpper = c := by
    have named : isNameChar c = true := isNameChar_of_capital (by rw [capital, Bool.true_or])
    exact of_table (p := fun c => c.isUpper = true → c.toNat < 128 ∧ c.toUpper = c) (by decide)
      named capital
  simp [restored, underscored, Text.toUpper, capital, Text.upperChar, ascii, raised]

/-- The characters of a word with a capital letter in front. -/
theorem forall_of_isCapitalWord (capital : isCapitalWord word = true) :
    ∀ c ∈ word, (c.isUpper || c.isDigit) = true := by
  cases word with
  | nil => contradiction
  | cons first rest =>
    obtain ⟨upper, others⟩ := (Bool.and_eq_true _ _).mp capital
    exact List.forall_mem_cons.mpr ⟨by rw [upper, Bool.true_or], List.all_eq_true.mp others⟩

/-- Such a word is a name without separators. -/
theorem isName_of_isCapitalWord (capital : isCapitalWord word = true) :
    IsName word ∧ ∀ c ∈ word, isSeparator c = false := by
  have each := forall_of_isCapitalWord capital
  exact ⟨fun c member => (lowered_of_capital (each c member)).1.1,
    fun c member => (lowered_of_capital (each c member)).1.2⟩

/-- A word is restored from its camel case. -/
theorem restored_camelChars_word (capital : isCapitalWord word = true) :
    restored (camelChars word) = word := by
  obtain ⟨named, plain⟩ := isName_of_isCapitalWord capital
  have each := forall_of_isCapitalWord capital
  rw [camelChars_word named plain]
  clear named plain capital
  induction word with
  | nil => rfl
  | cons c word ih =>
    obtain ⟨first, later⟩ := List.forall_mem_cons.mp each
    rw [List.map_cons, restored_lowered first, ih later]

/-- Words that are put together with underscores start with a capital letter and are a name. -/
theorem exists_capital_intercalate (filled : words ≠ [])
    (capital : ∀ word ∈ words, isCapitalWord word = true) :
    (∃ first rest, List.intercalate ['_'] words = first :: rest ∧ first.isUpper = true) ∧
      IsName (List.intercalate ['_'] words) := by
  induction words with
  | nil => contradiction
  | cons word words ih =>
    obtain ⟨leads, others⟩ := List.forall_mem_cons.mp capital
    obtain ⟨named, _⟩ := isName_of_isCapitalWord leads
    cases word with
    | nil => contradiction
    | cons first rest =>
      have upper : first.isUpper = true := ((Bool.and_eq_true _ _).mp leads).1
      cases words with
      | nil => exact ⟨⟨first, rest, by simp, upper⟩, by simpa using named⟩
      | cons next words =>
        obtain ⟨_, later⟩ := ih (List.cons_ne_nil next words) others
        have between : IsName ['_'] := by decide
        rw [List.intercalate_cons_cons]
        exact ⟨⟨first, _, rfl, upper⟩,
          List.forall_mem_append.mpr ⟨List.forall_mem_append.mpr ⟨named, between⟩, later⟩⟩

/-- What is restored of a camel case with its first letter raised has one underscore more. -/
theorem restored_capitalized {first : Char} {rest : List Char} (upper : first.isUpper = true)
    (named : IsName (first :: rest)) :
    restored (capitalized (camelChars (first :: rest))) =
      '_' :: restored (camelChars (first :: rest)) := by
  have capital : (first.isUpper || first.isDigit) = true := by rw [upper, Bool.true_or]
  obtain ⟨⟨isNamed, plain⟩, _, _, raised⟩ := lowered_of_capital capital
  have leads : isSeparator first.toLower = false := (startsWord_toLower isNamed).1.trans plain
  obtain ⟨later, same⟩ := camelChars_cons named leads
  rw [same, capitalized, raised, restored_capital upper, restored_lowered capital]

/-- Words that are put together with underscores are restored from the camel case of the whole. -/
theorem restored_camelChars_intercalate (filled : words ≠ [])
    (capital : ∀ word ∈ words, isCapitalWord word = true) :
    restored (camelChars (List.intercalate ['_'] words)) = List.intercalate ['_'] words := by
  induction words with
  | nil => contradiction
  | cons word words ih =>
    obtain ⟨leads, others⟩ := List.forall_mem_cons.mp capital
    cases words with
    | nil => simpa using restored_camelChars_word leads
    | cons next words =>
      have later := ih (List.cons_ne_nil next words) others
      obtain ⟨_, whole⟩ := exists_capital_intercalate filled capital
      obtain ⟨⟨first, rest, begins, upper⟩, named⟩ :=
        exists_capital_intercalate (List.cons_ne_nil next words) others
      rw [List.intercalate_cons_cons, List.append_assoc, List.singleton_append] at whole ⊢
      rw [begins] at later named whole ⊢
      have plain : isSeparator first = false :=
        (lowered_of_capital (by rw [upper, Bool.true_or])).1.2
      rw [camelChars_append whole (isName_of_isCapitalWord leads).2 rfl
          ⟨first, List.mem_cons_self, plain⟩,
        restored_append, restored_camelChars_word leads, restored_capitalized upper named, later]

/-- Keys of such words are restored from their camel case. -/
theorem restored_camelChars (snake : IsUpperSnake key) : restored (camelChars key) = key := by
  obtain ⟨words, filled, capital, rfl⟩ := snake
  exact restored_camelChars_intercalate filled capital

/-- Different keys of such words have different camel cases. -/
theorem camelChars_injective (snake : IsUpperSnake key) (snakeOther : IsUpperSnake other)
    (same : camelChars key = camelChars other) : key = other := by
  have back := congrArg restored same
  rwa [restored_camelChars snake, restored_camelChars snakeOther] at back

end EnvTemplate.Name
