import EnvTemplate.Name.Basic

/-!
# The characters of names

Names are made of ASCII letters and digits, underscores and hyphens. These are few, so what lowering
and raising do to them is read off a table: separators stay, and letters and digits stay the same up
to case.
-/
namespace EnvTemplate.Name

variable {c : Char}

/-- The characters of names. -/
def isNameChar (c : Char) : Bool := c.isAlphanum || c == '_' || c == '-'

/-- All characters of a text are characters of names. -/
def IsName (text : List Char) : Prop := ∀ c ∈ text, isNameChar c = true

instance : DecidablePred IsName := fun _ => decidable_of_iff _ List.all_eq_true

/-- ASCII letters and digits have small numbers. -/
theorem toNat_lt_of_isAlphanum (plain : c.isAlphanum = true) : c.toNat < 128 := by
  have classes : (c.isUpper || c.isLower || c.isDigit) = true := plain
  rw [Bool.or_eq_true, Bool.or_eq_true] at classes
  rcases classes with (upper | lower) | digit
  · have bound : c.val ≤ 'Z'.val := (of_decide_eq_true upper).2
    exact Nat.lt_of_le_of_lt (UInt32.le_iff_toNat_le.mp bound) (by decide)
  · have bound : c.val ≤ 'z'.val := of_decide_eq_true ((Bool.and_eq_true _ _).mp lower).2
    exact Nat.lt_of_le_of_lt (UInt32.le_iff_toNat_le.mp bound) (by decide)
  · exact Nat.lt_of_le_of_lt (Char.isDigit_iff_toNat.mp digit).2 (by decide)

/-- Capital letters and digits are characters of names. -/
theorem isNameChar_of_capital (capital : (c.isUpper || c.isDigit) = true) :
    isNameChar c = true := by
  have plain : c.isAlphanum = true := by
    show (c.isUpper || c.isLower || c.isDigit) = true
    rw [Bool.or_right_comm, capital, Bool.true_or]
  simp [isNameChar, plain]

/-- The characters of names are ASCII. -/
theorem toNat_lt_of_isNameChar (named : isNameChar c = true) : c.toNat < 128 := by
  simp only [isNameChar, Bool.or_eq_true, beq_iff_eq] at named
  rcases named with (plain | rfl) | rfl
  · exact toNat_lt_of_isAlphanum plain
  · decide
  · decide

/-- A fact about the characters of names holds when the table of the ASCII characters shows it. -/
theorem of_table {p : Char → Prop}
    (table : ∀ n : Fin 128, isNameChar (Char.ofNat n) = true → p (Char.ofNat n))
    (named : isNameChar c = true) : p c := by
  have entry := table ⟨c.toNat, toNat_lt_of_isNameChar named⟩
  rw [Char.ofNat_toNat] at entry
  exact entry named

/-- Lowering and raising keep to the characters of names. -/
theorem isNameChar_toLower_toUpper (named : isNameChar c = true) :
    isNameChar c.toLower = true ∧ isNameChar c.toUpper = true :=
  of_table (p := fun c => isNameChar c.toLower = true ∧ isNameChar c.toUpper = true) (by decide) named

/-- The characters of names are separators, or letters and digits that begin a word when they are
lowered. -/
theorem startsWord_toLower (named : isNameChar c = true) :
    isSeparator c.toLower = isSeparator c ∧
      (isSeparator c = false → startsWord c.toLower = true ∧ c.isAlphanum = true) :=
  of_table (p := fun c => isSeparator c.toLower = isSeparator c ∧
    (isSeparator c = false → startsWord c.toLower = true ∧ c.isAlphanum = true)) (by decide) named

/-- The characters of names that are no separators are letters and digits. -/
theorem isAlphanum_of_isNameChar (named : isNameChar c = true) (plain : isSeparator c = false) :
    c.isAlphanum = true := ((startsWord_toLower named).2 plain).2

/-- A separator is neither letter nor digit, and lowering does nothing to it. -/
theorem plain_of_isSeparator (separates : isSeparator c = true) :
    c.isAlphanum = false ∧ c.toLower = c := by
  simp only [isSeparator, Bool.or_eq_true, beq_iff_eq] at separates
  rcases separates with rfl | rfl <;> decide

/-- Letters and digits are no separators. -/
theorem isSeparator_of_isAlphanum (plain : c.isAlphanum = true) : isSeparator c = false := by
  cases separates : isSeparator c with
  | true => rw [(plain_of_isSeparator separates).1] at plain; contradiction
  | false => rfl

/-- A letter or digit that is raised stays one, and is a capital if it is a letter. -/
theorem toUpper_of_isAlphanum (plain : c.isAlphanum = true) :
    c.toUpper.isAlphanum = true ∧ (c.toUpper.isAlpha = true → c.toUpper.isUpper = true) ∧
      c.toUpper.toLower = c.toLower ∧ c.toUpper.toUpper = c.toUpper :=
  of_table (p := fun c => c.isAlphanum = true →
    c.toUpper.isAlphanum = true ∧ (c.toUpper.isAlpha = true → c.toUpper.isUpper = true) ∧
      c.toUpper.toLower = c.toLower ∧ c.toUpper.toUpper = c.toUpper)
    (by decide) (by simp [isNameChar, plain]) plain

/-- A letter or digit that is lowered stays one, and is no capital. -/
theorem toLower_of_isAlphanum (plain : c.isAlphanum = true) :
    c.toLower.isAlphanum = true ∧ c.toLower.isUpper = false ∧
      c.toLower.toLower = c.toLower ∧ c.toLower.toUpper = c.toUpper :=
  of_table (p := fun c => c.isAlphanum = true →
    c.toLower.isAlphanum = true ∧ c.toLower.isUpper = false ∧
      c.toLower.toLower = c.toLower ∧ c.toLower.toUpper = c.toUpper)
    (by decide) (by simp [isNameChar, plain]) plain

end EnvTemplate.Name
