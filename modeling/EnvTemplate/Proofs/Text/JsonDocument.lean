import EnvTemplate.Proofs.Decimal.Notation
import EnvTemplate.Proofs.Text.JsonString
import Mathlib.Data.List.Forall2

/-!
# JSON documents

What a JSON document stands for, by the grammar of JSON: blanks may stand around every value and
mark, an object keeps its members in their order, and numbers are exact, whatever their size. A
text reads as a value when the reader takes it for that value before any text that does not go on
with a number; texts that read as values put together with the marks of an array or an object read
as that array or object.
-/
namespace EnvTemplate.Text

open Settings.Json (isSpace stringBody)

/-- A JSON value. -/
inductive JsonValue
  /-- Nothing. -/
  | null
  /-- A truth value. -/
  | boolean (value : Bool)
  /-- A number: a decimal fraction with a sign, times a power of ten. -/
  | number (negative : Bool) (magnitude : Decimal) (exponent : Int)
  /-- A string. -/
  | string (value : String)
  /-- Values in order. -/
  | array (elements : List JsonValue)
  /-- Named values in order. -/
  | object (members : List (String × JsonValue))

namespace JsonValue

/-- A natural number. -/
def natural (number : Nat) : JsonValue := .number false ⟨number, 0⟩ 0

/-- The first member of an object with a name. -/
def member? (name : String) : JsonValue → Option JsonValue
  | object members => members.lookup name
  | _ => none

/-- The text after the blanks at its front. -/
def skipBlanks (text : List Char) : List Char := text.dropWhile isSpace

/-- Read one or more digits. -/
def readDigits (text : List Char) : Option (List Char × List Char) :=
  match text.takeWhile Char.isDigit with
  | [] => none
  | digits => some (digits, text.dropWhile Char.isDigit)

/-- Read the digits after a point, if there is one. -/
def readFraction : List Char → Option (List Char × List Char)
  | '.' :: text => readDigits text
  | text => some ([], text)

/-- Read the digits of an exponent after its sign. -/
def readPower : List Char → Option (Int × List Char)
  | '-' :: text => (readDigits text).map fun (digits, rest) => (-Decimal.ofDigits digits, rest)
  | '+' :: text => (readDigits text).map fun (digits, rest) => (Decimal.ofDigits digits, rest)
  | text => (readDigits text).map fun (digits, rest) => (Decimal.ofDigits digits, rest)

/-- Read an exponent, if there is one. -/
def readExponent : List Char → Option (Int × List Char)
  | 'e' :: text => readPower text
  | 'E' :: text => readPower text
  | text => some (0, text)

/-- Read a number after its sign. A leading zero is the only digit before the point. -/
def readMagnitude (negative : Bool) (text : List Char) : Option (JsonValue × List Char) := do
  let (whole, text) ← readDigits text
  if whole.head? = some '0' ∧ whole ≠ ['0'] then none
  else
    let (fraction, text) ← readFraction text
    let (exponent, text) ← readExponent text
    some (.number negative (Decimal.ofParts whole fraction) exponent, text)

/-- Read a number or a word. -/
def readScalar : List Char → Option (JsonValue × List Char)
  | 't' :: 'r' :: 'u' :: 'e' :: text => some (.boolean true, text)
  | 'f' :: 'a' :: 'l' :: 's' :: 'e' :: text => some (.boolean false, text)
  | 'n' :: 'u' :: 'l' :: 'l' :: text => some (.null, text)
  | '-' :: text => readMagnitude true text
  | text => readMagnitude false text

/-- What follows an item in brackets: a comma and more items, or the closing mark. -/
def readSequel {α : Type} (closing : Char) (item : α)
    (more : List Char → Option (List α × List Char)) (text : List Char) :
    Option (List α × List Char) :=
  match skipBlanks text with
  | [] => none
  | c :: rest =>
    if c = ',' then (more rest).map fun (items, rest) => (item :: items, rest)
    else if c = closing then some ([item], rest)
    else none

mutual

/-- Read a value. -/
def readValue : Nat → List Char → Option (JsonValue × List Char)
  | 0, _ => none
  | rounds + 1, text =>
    match skipBlanks text with
    | '"' :: text => (stringBody.run text).map fun (value, rest) => (.string value, rest)
    | '[' :: text =>
      match skipBlanks text with
      | ']' :: rest => some (.array [], rest)
      | _ => (readElements rounds text).map fun (elements, rest) => (.array elements, rest)
    | '\x7b' :: text =>
      match skipBlanks text with
      | '\x7d' :: rest => some (.object [], rest)
      | _ => (readMembers rounds text).map fun (members, rest) => (.object members, rest)
    | text => readScalar text

/-- Read the elements of an array up to its closing bracket. -/
def readElements : Nat → List Char → Option (List JsonValue × List Char)
  | 0, _ => none
  | rounds + 1, text => do
    let (element, text) ← readValue rounds text
    readSequel ']' element (readElements rounds) text

/-- Read the members of an object up to its closing brace. -/
def readMembers : Nat → List Char → Option (List (String × JsonValue) × List Char)
  | 0, _ => none
  | rounds + 1, text =>
    match skipBlanks text with
    | '"' :: text => do
      let (name, text) ← stringBody.run text
      match skipBlanks text with
      | ':' :: text =>
        let (value, text) ← readValue rounds text
        readSequel '\x7d' (name, value) (readMembers rounds) text
      | _ => none
    | _ => none

end

/-- The value of a document: a value with nothing but blanks after it. -/
def ofDocument? (text : List Char) : Option JsonValue :=
  match readValue text.length text with
  | some (value, rest) => if skipBlanks rest = [] then some value else none
  | none => none

section Laws

variable {c : Char} {text rest blanks : List Char} {texts : List (List Char)} {rounds number : Nat}
  {value : JsonValue} {values : List JsonValue} {members : List (String × JsonValue)}

/-- Characters that go on with a number. -/
def goesOn (c : Char) : Bool := c.isDigit || c == '.' || c == 'e' || c == 'E'

/-- A text does not go on with a number. -/
def EndsNumber (text : List Char) : Prop := ∀ c, text.head? = some c → goesOn c = false

/-- A text is read as a value, wherever it stands before a text that does not go on with a number.
There are rounds enough when there are as many as characters. -/
def Reads (text : List Char) (value : JsonValue) : Prop :=
  ∀ rest, EndsNumber rest → ∀ rounds, text.length ≤ rounds →
    readValue rounds (text ++ rest) = some (value, rest)

/-- A text is read as a member of an object: a name, a colon, and what is read as the value. -/
def ReadsMember (text : List Char) (member : String × JsonValue) : Prop :=
  ∃ blanks valueText, (∀ c ∈ blanks, isSpace c = true) ∧ Reads valueText member.2 ∧
    text = blanks ++ '"' :: (member.1.toList.flatMap jsonEscape ++ '"' :: ':' :: valueText)

/-- Blanks are skipped. -/
theorem skipBlanks_append (blank : ∀ c ∈ blanks, isSpace c = true) (text : List Char) :
    skipBlanks (blanks ++ text) = skipBlanks text :=
  List.dropWhile_append_of_pos blank

/-- Nothing else is skipped. -/
theorem skipBlanks_cons (filled : isSpace c = false) (text : List Char) :
    skipBlanks (c :: text) = c :: text :=
  List.dropWhile_cons_of_neg (by simp [filled])

/-- Blanks before a value do not matter. -/
theorem readValue_blanks (blank : ∀ c ∈ blanks, isSpace c = true) (rounds : Nat)
    (text : List Char) : readValue rounds (blanks ++ text) = readValue rounds text := by
  cases rounds with
  | zero => rfl
  | succ rounds => rw [readValue, readValue, skipBlanks_append blank]

/-- Blanks before a text do not change what it is read as. -/
theorem Reads.after_blanks (blank : ∀ c ∈ blanks, isSpace c = true) (reads : Reads text value) :
    Reads (blanks ++ text) value := by
  intro rest ends rounds enough
  rw [List.append_assoc, readValue_blanks blank]
  exact reads rest ends rounds (Nat.le_trans (by simp) enough)

/-- A number does not go on after a mark. -/
theorem endsNumber_cons (stops : goesOn c = false) (text : List Char) : EndsNumber (c :: text) := by
  intro d first
  obtain rfl : c = d := by simpa using first
  exact stops

/-- A number does not go on with blanks. -/
theorem goesOn_of_isSpace (space : isSpace c = true) : goesOn c = false := by
  simp only [isSpace, Bool.or_eq_true, beq_iff_eq] at space
  rcases space with ((rfl | rfl) | rfl) | rfl <;> rfl

/-- A number does not go on after blanks and a mark. -/
theorem endsNumber_append (blank : ∀ c ∈ blanks, isSpace c = true) (stops : goesOn c = false)
    (text : List Char) : EndsNumber (blanks ++ c :: text) := by
  cases blanks with
  | nil => exact endsNumber_cons stops text
  | cons b blanks => exact endsNumber_cons (goesOn_of_isSpace (blank b List.mem_cons_self)) _

/-- A string reads as what it is written for. -/
theorem reads_string (value : String) :
    Reads ('"' :: (value.toList.flatMap jsonEscape ++ ['"'])) (.string value) := by
  intro rest _ rounds enough
  obtain ⟨rounds, rfl⟩ : ∃ fewer, rounds = fewer + 1 :=
    Nat.exists_eq_add_of_le' (Nat.le_trans (by simp) enough)
  have quote (text : List Char) : readValue (rounds + 1) ('"' :: text) =
      (stringBody.run text).map fun (value, rest) => (.string value, rest) := rfl
  rw [List.cons_append, quote, List.append_assoc, List.singleton_append,
    stringBody_flatMap_jsonEscape, String.ofList_toList]
  rfl

/-- Digits are read up to a text that does not go on with a number. -/
theorem readDigits_append {digits : List Char} (decimal : ∀ c ∈ digits, c.isDigit = true)
    (filled : digits ≠ []) (ends : EndsNumber rest) :
    readDigits (digits ++ rest) = some (digits, rest) := by
  have none : rest.takeWhile Char.isDigit = [] ∧ rest.dropWhile Char.isDigit = rest := by
    cases rest with
    | nil => exact ⟨rfl, rfl⟩
    | cons c rest =>
      have stops : c.isDigit = false := by
        have := ends c rfl
        simp_all [goesOn]
      simp [stops]
  unfold readDigits
  rw [List.takeWhile_append_of_pos decimal, List.dropWhile_append_of_pos decimal, none.1, none.2,
    List.append_nil]
  cases digits with
  | nil => exact absurd rfl filled
  | cons d digits => rfl

/-- A text that does not go on with a number has neither a fraction nor an exponent. -/
theorem readFraction_of_endsNumber (ends : EndsNumber rest) :
    readFraction rest = some ([], rest) ∧ readExponent rest = some (0, rest) := by
  have stops : rest.head? ≠ some '.' ∧ rest.head? ≠ some 'e' ∧ rest.head? ≠ some 'E' :=
    ⟨fun first => absurd (ends _ first) (by decide), fun first => absurd (ends _ first) (by decide),
      fun first => absurd (ends _ first) (by decide)⟩
  cases rest with
  | nil => exact ⟨rfl, rfl⟩
  | cons c rest =>
    simp only [List.head?_cons, ne_eq, Option.some.injEq] at stops
    exact ⟨by simp [readFraction, stops.1], by simp [readExponent, stops.2.1, stops.2.2]⟩

/-- A text that starts with a digit is read as a number. -/
theorem readValue_digit (digit : c.isDigit = true) (rounds : Nat) (text : List Char) :
    readValue (rounds + 1) (c :: text) = readMagnitude false (c :: text) := by
  have other {d : Char} (letter : d.isDigit = false) : c ≠ d := by
    rintro rfl
    rw [digit] at letter
    contradiction
  have filled : isSpace c = false := by
    simp [isSpace, other (d := ' ') rfl, other (d := '\n') rfl, other (d := '\t') rfl,
      other (d := '\r') rfl]
  have mark := And.intro (other (d := '"') rfl) (And.intro (other (d := '[') rfl)
    (other (d := '\x7b') rfl))
  have word := And.intro (other (d := 't') rfl) (And.intro (other (d := 'f') rfl)
    (And.intro (other (d := 'n') rfl) (other (d := '-') rfl)))
  rw [readValue, skipBlanks_cons filled]
  simp [mark, readScalar, word]

/-- The digits of a number read as the number. -/
theorem reads_natural (number : Nat) : Reads (Nat.toDigits 10 number) (natural number) := by
  intro rest ends rounds enough
  have filled : Nat.toDigits 10 number ≠ [] := Nat.toDigits_ne_nil
  have decimal : ∀ c ∈ Nat.toDigits 10 number, c.isDigit = true := fun c member =>
    Nat.isDigit_of_mem_toDigits (by decide) (by decide) member
  have leads : ¬((Nat.toDigits 10 number).head? = some '0' ∧ Nat.toDigits 10 number ≠ ['0']) := by
    rintro ⟨zero, longer⟩
    rcases Nat.eq_zero_or_pos number with rfl | positive
    · exact longer (Nat.toDigits_zero 10)
    · exact Decimal.head?_toDigits positive zero
  have magnitude : readMagnitude false (Nat.toDigits 10 number ++ rest) =
      some (natural number, rest) := by
    obtain ⟨fraction, exponent⟩ := readFraction_of_endsNumber ends
    have value : Decimal.ofParts (Nat.toDigits 10 number) [] = ⟨number, 0⟩ := by
      rw [Decimal.ofParts, List.append_nil, Decimal.ofDigits_toDigits, List.length_nil]
    simp [readMagnitude, readDigits_append decimal filled ends, leads, fraction, exponent, value,
      natural]
  obtain ⟨d, digits, split⟩ := List.exists_cons_of_ne_nil filled
  rw [split] at decimal enough magnitude ⊢
  obtain ⟨rounds, rfl⟩ : ∃ fewer, rounds = fewer + 1 :=
    Nat.exists_eq_add_of_le' (Nat.le_trans (by simp) enough)
  rw [List.cons_append, readValue_digit (decimal d List.mem_cons_self), ← List.cons_append,
    magnitude]

/-- Texts with commas between them. -/
theorem intercalate_comma (first second : List Char) (others : List (List Char)) :
    [','].intercalate (first :: second :: others) =
      first ++ ',' :: [','].intercalate (second :: others) := by
  rw [List.intercalate_cons_cons, List.append_assoc, List.singleton_append]

/-- An element is read before what follows it. -/
theorem readElements_append (reads : Reads text value) (ends : EndsNumber rest)
    (enough : text.length ≤ rounds) :
    readElements (rounds + 1) (text ++ rest) =
      readSequel ']' value (readElements rounds) rest := by
  rw [readElements, reads rest ends rounds enough]
  rfl

/-- A member is read before what follows it. -/
theorem readMembers_append {member : String × JsonValue} (reads : ReadsMember text member)
    (ends : EndsNumber rest) (enough : text.length ≤ rounds) :
    readMembers (rounds + 1) (text ++ rest) =
      readSequel '\x7d' member (readMembers rounds) rest := by
  obtain ⟨name, value⟩ := member
  obtain ⟨blanks, valueText, blank, reads, rfl⟩ := reads
  have room : valueText.length ≤ rounds := by
    refine Nat.le_trans ?_ enough
    simp only [List.length_append, List.length_cons]
    omega
  have opens (text : List Char) : skipBlanks (blanks ++ '"' :: text) = '"' :: text := by
    rw [skipBlanks_append blank, skipBlanks_cons rfl]
  have colon (text : List Char) : skipBlanks (':' :: text) = ':' :: text := skipBlanks_cons rfl text
  rw [readMembers]
  simp only [List.append_assoc, List.cons_append, opens]
  simp [stringBody_flatMap_jsonEscape, colon, reads rest ends rounds room]

/-- Items with commas between them and a closing mark after them are read, when each of them is
read before what follows it. -/
theorem read_intercalate {α : Type} {read : Nat → List Char → Option (List α × List Char)}
    {closing : Char} {IsItem : List Char → α → Prop} {items : List α}
    (mark : closing ≠ ',' ∧ isSpace closing = false ∧ goesOn closing = false)
    (law : ∀ {text item rest rounds}, IsItem text item → EndsNumber rest → text.length ≤ rounds →
      read (rounds + 1) (text ++ rest) = readSequel closing item (read rounds) rest)
    (each : List.Forall₂ IsItem texts items) (filled : texts ≠ [])
    (blank : ∀ c ∈ blanks, isSpace c = true) (enough : ([','].intercalate texts).length < rounds)
    (rest : List Char) :
    read rounds ([','].intercalate texts ++ (blanks ++ closing :: rest)) = some (items, rest) := by
  obtain ⟨other, filledMark, stops⟩ := mark
  -- Each item takes one round and at least one character, the comma after it.
  induction each generalizing rounds with
  | nil => contradiction
  | @cons text item texts items reads each ih =>
    obtain ⟨rounds, rfl⟩ : ∃ fewer, rounds = fewer + 1 :=
      Nat.exists_eq_add_of_le' (Nat.lt_of_le_of_lt (Nat.zero_le _) enough)
    cases each with
    | nil =>
      rw [List.intercalate_singleton] at enough ⊢
      rw [law reads (endsNumber_append blank stops rest) (Nat.le_of_lt_succ enough), readSequel,
        skipBlanks_append blank, skipBlanks_cons filledMark]
      simp [other]
    | @cons second _ others _ next each =>
      rw [intercalate_comma, List.length_append, List.length_cons] at enough
      have room : ([','].intercalate (second :: others)).length < rounds := by omega
      rw [intercalate_comma, List.append_assoc, List.cons_append,
        law reads (endsNumber_cons rfl _) (by omega), readSequel, skipBlanks_cons rfl]
      simp [ih (by simp) room]

/-- Items with commas between them begin with the first item. -/
theorem intercalate_begins {closing : Char} (stops : goesOn closing = false)
    (blank : ∀ c ∈ blanks, isSpace c = true) (first : List Char) (others : List (List Char))
    (rest : List Char) :
    ∃ after, EndsNumber after ∧
      [','].intercalate (first :: others) ++ (blanks ++ closing :: rest) = first ++ after := by
  cases others with
  | nil =>
    rw [List.intercalate_singleton]
    exact ⟨_, endsNumber_append blank stops rest, rfl⟩
  | cons second others =>
    rw [intercalate_comma, List.append_assoc, List.cons_append]
    exact ⟨_, endsNumber_cons rfl _, rfl⟩

/-- A bracket begins no value. -/
theorem Reads.skipBlanks_ne (reads : Reads text value) (ends : EndsNumber rest) (tail : List Char) :
    skipBlanks (text ++ rest) ≠ ']' :: tail := by
  intro closes
  have value := reads rest ends (text.length + 1) (Nat.le_succ _)
  rw [readValue, closes] at value
  simp [readScalar, readMagnitude, readDigits] at value

/-- Texts that read as values make an array. -/
theorem reads_array (each : List.Forall₂ Reads texts values) (filled : texts ≠ [])
    (blank : ∀ c ∈ blanks, isSpace c = true) :
    Reads ('[' :: ([','].intercalate texts ++ (blanks ++ [']']))) (.array values) := by
  intro rest _ rounds enough
  obtain ⟨rounds, rfl⟩ : ∃ fewer, rounds = fewer + 1 :=
    Nat.exists_eq_add_of_le' (Nat.le_trans (by simp) enough)
  have room : ([','].intercalate texts).length < rounds := by
    simp only [List.length_cons, List.length_append] at enough
    omega
  have elements := read_intercalate (by decide) readElements_append each filled blank room rest
  have bracket (text : List Char) : readValue (rounds + 1) ('[' :: text) =
      match skipBlanks text with
      | ']' :: rest => some (.array [], rest)
      | _ => (readElements rounds text).map fun (elements, rest) => (.array elements, rest) := rfl
  have whole : '[' :: ([','].intercalate texts ++ (blanks ++ [']'])) ++ rest =
      '[' :: ([','].intercalate texts ++ (blanks ++ ']' :: rest)) := by simp
  rw [whole, bracket]
  split
  · next tail closes =>
    -- The bracket would begin the first value.
    cases each with
    | nil => contradiction
    | cons first others =>
      obtain ⟨after, ends, begins⟩ :=
        intercalate_begins (show goesOn ']' = false from rfl) blank _ _ rest
      rw [begins] at closes
      exact absurd closes (first.skipBlanks_ne ends tail)
  · rw [elements]
    rfl

/-- Texts that read as members make an object. -/
theorem reads_object (each : List.Forall₂ ReadsMember texts members) (filled : texts ≠ [])
    (blank : ∀ c ∈ blanks, isSpace c = true) :
    Reads ('\x7b' :: ([','].intercalate texts ++ (blanks ++ ['\x7d']))) (.object members) := by
  intro rest _ rounds enough
  obtain ⟨rounds, rfl⟩ : ∃ fewer, rounds = fewer + 1 :=
    Nat.exists_eq_add_of_le' (Nat.le_trans (by simp) enough)
  have room : ([','].intercalate texts).length < rounds := by
    simp only [List.length_cons, List.length_append] at enough
    omega
  have found := read_intercalate (by decide) readMembers_append each filled blank room rest
  have brace (text : List Char) : readValue (rounds + 1) ('\x7b' :: text) =
      match skipBlanks text with
      | '\x7d' :: rest => some (.object [], rest)
      | _ => (readMembers rounds text).map fun (members, rest) => (.object members, rest) := rfl
  have whole : '\x7b' :: ([','].intercalate texts ++ (blanks ++ ['\x7d'])) ++ rest =
      '\x7b' :: ([','].intercalate texts ++ (blanks ++ '\x7d' :: rest)) := by simp
  rw [whole, brace]
  split
  · next tail closes =>
    -- The brace would begin the first member, where a quote stands.
    cases each with
    | nil => contradiction
    | cons first others =>
      obtain ⟨after, ends, begins⟩ :=
        intercalate_begins (show goesOn '\x7d' = false from rfl) blank _ _ rest
      rw [begins] at closes
      obtain ⟨lead, valueText, leads, _, rfl⟩ := first
      rw [List.append_assoc, skipBlanks_append leads, List.cons_append,
        skipBlanks_cons rfl] at closes
      simp at closes
  · rw [found]
    rfl

/-- The empty array. -/
theorem reads_emptyArray : Reads ['[', ']'] (.array []) := by
  intro rest _ rounds enough
  obtain ⟨rounds, rfl⟩ : ∃ fewer, rounds = fewer + 1 :=
    Nat.exists_eq_add_of_le' (Nat.le_trans (by simp) enough)
  rfl

/-- A text that reads as a value is a document of the value, also with blanks after it. -/
theorem ofDocument?_of_reads (reads : Reads text value) (blank : ∀ c ∈ blanks, isSpace c = true) :
    ofDocument? (text ++ blanks) = some value := by
  have ends : EndsNumber blanks := fun c first =>
    goesOn_of_isSpace (blank c (List.mem_of_mem_head? first))
  have skipped := skipBlanks_append blank []
  rw [List.append_nil] at skipped
  rw [ofDocument?, reads blanks ends _ (by simp)]
  exact if_pos skipped

example : ofDocument? "[1, \x7b\"a\": -0.5e1\x7d]\n".toList =
    some (.array [natural 1, .object [("a", .number true ⟨5, 1⟩ 1)]]) := by cbv

example : ofDocument? "[1,]".toList = none := by cbv

end Laws

end JsonValue

end EnvTemplate.Text
