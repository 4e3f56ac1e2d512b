import EnvTemplate.Settings.Json
import EnvTemplate.Text.Quoted
import Mathlib.Tactic.SplitIfs

/-!
# JSON string literals are read back

The reader of settings takes a JSON string up to the quote that ends it. What is written for a text
is read as the text, whatever its characters are: those that need an escape have one that the
reader knows, and all others stand for themselves.
-/
namespace EnvTemplate.Text

open Settings.Json (hexDigit? hexNumber numberedEscape escape stringBody)
open Reader (Step repeatAtMost repeatUntil)

variable {c : Char} {text rest taken : List Char}

/-- One step of the reader of a string: a character or its escape, or the quote at the end. -/
def stringStep (taken : List Char) : Reader (Step (List Char) String) := do
  match ← Reader.next with
  | '"' => return .done (String.ofList taken.reverse)
  | '\\' => return .more ((← escape) :: taken)
  | c => if c.toNat < 0x20 then failure else return .more (c :: taken)

/-- The reader of a string repeats its step. -/
theorem stringBody_eq : stringBody = repeatUntil stringStep [] := rfl

/-- The escape by number of a character below the space has two zeros and the two digits of its
number. -/
theorem hexFour_table : ∀ n : Fin 32,
    hexFour n = ['0', '0', Nat.digitChar (n / 16), Nat.digitChar (n % 16)] ∧
      hexDigit? (Nat.digitChar (n / 16)) = some (n / 16 : Nat) ∧
      hexDigit? (Nat.digitChar (n % 16)) = some (n % 16 : Nat) := by decide

/-- A hexadecimal digit is one more place of a number. -/
theorem hexNumber_digit {digit : Nat} (known : hexDigit? c = some digit) (count value : Nat)
    (rest : List Char) :
    (hexNumber (count + 1) value).run (c :: rest) =
      (hexNumber count (16 * value + digit)).run rest := by
  have next : Reader.next.run (c :: rest) = some (c, rest) := rfl
  rw [hexNumber, StateT.run_bind, next]
  simp only [Option.bind_eq_bind, Option.bind_some, known]

/-- The number of an escape by number is read back. -/
theorem numberedEscape_hexFour {n : Nat} (control : n < 0x20) (rest : List Char) :
    numberedEscape.run (hexFour n ++ rest) = some (Char.ofNat n, rest) := by
  obtain ⟨digits, high, low⟩ := hexFour_table ⟨n, control⟩
  have zero : hexDigit? '0' = some 0 := rfl
  have number : (hexNumber 4 0).run (hexFour n ++ rest) = some (n, rest) := by
    rw [digits, List.cons_append, hexNumber_digit zero, List.cons_append, hexNumber_digit zero,
      List.cons_append, hexNumber_digit high, List.cons_append, hexNumber_digit low]
    have places : 16 * (16 * (16 * (16 * 0 + 0) + 0) + n / 16) + n % 16 = n := by omega
    rw [places]
    rfl
  have low : ¬(0xD800 ≤ n ∧ n < 0xDC00) := by omega
  have high : ¬(0xDC00 ≤ n ∧ n < 0xE000) := by omega
  rw [numberedEscape, StateT.run_bind, number]
  simp only [Option.bind_eq_bind, Option.bind_some, if_neg low, if_neg high]
  rfl

/-- Any other character stands for itself. -/
theorem stringStep_plain (quote : c ≠ '"') (backslash : c ≠ '\\') (visible : ¬c.toNat < 0x20)
    (taken rest : List Char) :
    (stringStep taken).run (c :: rest) = some (.more (c :: taken), rest) := by
  have next : Reader.next.run (c :: rest) = some (c, rest) := rfl
  rw [stringStep, StateT.run_bind, next]
  simp only [Option.bind_eq_bind, Option.bind_some]
  rw [if_neg visible]
  rfl

/-- The escape of a character is read back as the character. -/
theorem stringStep_jsonEscape (c : Char) (taken rest : List Char) :
    (stringStep taken).run (jsonEscape c ++ rest) = some (.more (c :: taken), rest) := by
  unfold jsonEscape
  split_ifs with quote backslash feed ret tab eight twelve control
  · subst quote
    rfl
  · subst backslash
    rfl
  · subst feed
    rfl
  · subst ret
    rfl
  · subst tab
    rfl
  · obtain rfl : c = '\x08' := Char.toNat_inj.mp eight
    rfl
  · obtain rfl : c = '\x0c' := Char.toNat_inj.mp twelve
    rfl
  · have escaped := numberedEscape_hexFour control rest
    rw [Char.ofNat_toNat] at escaped
    show ((do return Step.more ((← numberedEscape) :: taken) :
      Reader (Step (List Char) String))).run (hexFour c.toNat ++ rest) = _
    rw [StateT.run_bind, escaped]
    rfl
  · exact stringStep_plain quote backslash control taken rest

/-- A quote ends the string. -/
theorem stringStep_quote (taken rest : List Char) :
    (stringStep taken).run ('"' :: rest) = some (.done (String.ofList taken.reverse), rest) := rfl

/-- The steps of the reader take the characters of a text one by one. -/
theorem repeatAtMost_stringStep {rounds : Nat} (enough : text.length < rounds)
    (taken rest : List Char) :
    (repeatAtMost stringStep rounds taken).run (text.flatMap jsonEscape ++ '"' :: rest) =
      some (String.ofList (taken.reverse ++ text), rest) := by
  induction text generalizing rounds taken with
  | nil =>
    obtain ⟨rounds, rfl⟩ : ∃ fewer, rounds = fewer + 1 := Nat.exists_eq_add_of_le' enough
    rw [repeatAtMost, StateT.run_bind, List.flatMap_nil, List.nil_append, stringStep_quote,
      List.append_nil]
    rfl
  | cons c text ih =>
    obtain ⟨rounds, rfl⟩ : ∃ fewer, rounds = fewer + 1 :=
      Nat.exists_eq_add_of_le' (Nat.lt_of_le_of_lt (Nat.zero_le _) enough)
    have later := ih (Nat.lt_of_succ_lt_succ enough) (c :: taken)
    rw [repeatAtMost, StateT.run_bind, List.flatMap_cons, List.append_assoc, stringStep_jsonEscape]
    simpa using later

/-- An escape is at least as long as its character. -/
theorem length_le_length_flatMap_jsonEscape (text : List Char) :
    text.length ≤ (text.flatMap jsonEscape).length := by
  have filled (c : Char) : 1 ≤ (jsonEscape c).length := by
    unfold jsonEscape
    split_ifs <;> simp
  induction text with
  | nil => exact Nat.zero_le _
  | cons c text ih =>
    have one := filled c
    rw [List.flatMap_cons, List.length_append, List.length_cons]
    omega

/-- What is written for a text is read as the text. -/
theorem stringBody_flatMap_jsonEscape (text rest : List Char) :
    stringBody.run (text.flatMap jsonEscape ++ '"' :: rest) = some (String.ofList text, rest) := by
  have enough : text.length < (text.flatMap jsonEscape ++ '"' :: rest).length + 1 := by
    have longer := length_le_length_flatMap_jsonEscape text
    rw [List.length_append]
    omega
  rw [stringBody_eq]
  exact repeatAtMost_stringStep enough [] rest

end EnvTemplate.Text
