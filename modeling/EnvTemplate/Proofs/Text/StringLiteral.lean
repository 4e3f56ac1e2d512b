import EnvTemplate.Settings.Json
import EnvTemplate.Text.Quoted

/-!
# String literals of JavaScript

What a literal between apostrophes stands for is told by JavaScript, not by the reader of this
library: there are escapes that are never written here, and no line feed or carriage return may
stand in a literal as it is. Strings are sequences of 16-bit units. The rules are those of modules;
other code allows a few more escapes and agrees on all others. Main statement: the literal of a
value stands for the value, unless the value holds a line feed or a carriage return; then it is no
literal.
-/
namespace EnvTemplate.Text

/-- The 16-bit units of a code point. -/
def pointUnits (point : Nat) : List Nat :=
  if point < 0x10000 then [point]
  else [0xD800 + (point - 0x10000) / 0x400, 0xDC00 + (point - 0x10000) % 0x400]

/-- The 16-bit units of a text. -/
def textUnits (text : List Char) : List Nat := text.flatMap fun c => pointUnits c.toNat

namespace StringLiteral

/-- The characters that may not stand in a literal as they are, apart from its quotes. -/
def breaksLine (c : Char) : Bool := c == '\n' || c == '\r'

/-- The number that hexadecimal digits stand for. -/
def hexNumber? (digits : List Char) : Option Nat :=
  digits.foldlM (fun value c => (Settings.Json.hexDigit? c).map (16 * value + ·)) 0

/-- What a character behind a backslash stands for. A line that ends there goes on in the next. -/
def single? (c : Char) : Option (List Nat) :=
  match c with
  | 'b' => some [8]
  | 't' => some [9]
  | 'n' => some [10]
  | 'v' => some [11]
  | 'f' => some [12]
  | 'r' => some [13]
  | '\n' | '\r' | '\u2028' | '\u2029' => some []
  | 'x' | 'u' => none
  | _ => if c.isDigit then none else some (pointUnits c.toNat)

/-- What the text behind a backslash begins with stands for, and how many characters of it do. -/
def escape? : List Char → Option (List Nat × Nat)
  | [] => none
  | '\r' :: '\n' :: _ => some ([], 2)
  | '0' :: rest => if rest.head?.any Char.isDigit then none else some ([0], 1)
  | 'x' :: a :: b :: _ => (hexNumber? [a, b]).map fun unit => ([unit], 3)
  | 'u' :: '\x7b' :: rest =>
    let digits := rest.takeWhile (· ≠ '\x7d')
    if digits = [] ∨ '\x7d' ∉ rest then none
    else
      (hexNumber? digits).bind fun point =>
        if point ≤ 0x10FFFF then some (pointUnits point, digits.length + 3) else none
  | 'u' :: a :: b :: c :: d :: _ => (hexNumber? [a, b, c, d]).map fun unit => ([unit], 5)
  | c :: _ => (single? c).map fun units => (units, 1)

/-- What the inside of a literal stands for, up to the apostrophe at its end. Some characters are
skipped first, as they belong to an escape. -/
def insideUnits? : Nat → List Char → Option (List Nat)
  | _, [] => none
  | skipped + 1, _ :: rest => insideUnits? skipped rest
  | 0, c :: rest =>
    if c = '\'' then if rest = [] then some [] else none
    else if c = '\\' then
      (escape? rest).bind fun (units, length) => (insideUnits? length rest).map (units ++ ·)
    else if breaksLine c then none
    else (insideUnits? 0 rest).map (pointUnits c.toNat ++ ·)

/-- The units that a literal between apostrophes stands for; none when a text is no such literal. -/
def units? : List Char → Option (List Nat)
  | '\'' :: rest => insideUnits? 0 rest
  | _ => none

/-- A backslash takes their meaning from the characters that need one. -/
theorem insideUnits?_special {c : Char} (special : needsBackslash c = true) (rest : List Char) :
    insideUnits? 0 ('\\' :: c :: rest) = (insideUnits? 0 rest).map (pointUnits c.toNat ++ ·) := by
  have plain : escape? (c :: rest) = some (pointUnits c.toNat, 1) := by
    simp only [needsBackslash, Bool.or_eq_true, beq_iff_eq] at special
    rcases special with rfl | rfl <;> rfl
  rw [insideUnits?, if_neg (by decide), if_pos rfl, plain]
  rfl

/-- Any other character stands for itself unless it ends the line. -/
theorem insideUnits?_plain {c : Char} (plain : needsBackslash c = false) (rest : List Char) :
    insideUnits? 0 (c :: rest) =
      if breaksLine c then none else (insideUnits? 0 rest).map (pointUnits c.toNat ++ ·) := by
  have other : c ≠ '\\' ∧ c ≠ '\'' := by simpa [needsBackslash] using plain
  rw [insideUnits?, if_neg other.2, if_neg other.1]

/-- The inside of the literal of a value stands for the value when no line ends in it. -/
theorem insideUnits?_escapeQuoted (value : List Char) :
    insideUnits? 0 (escapeQuoted value ++ ['\'']) =
      if value.any breaksLine then none else some (textUnits value) := by
  induction value with
  | nil => rfl
  | cons c value ih =>
    have longer : (insideUnits? 0 (escapeQuoted value ++ ['\''])).map (pointUnits c.toNat ++ ·) =
        if value.any breaksLine then none else some (textUnits (c :: value)) := by
      rw [ih]
      split <;> rfl
    cases special : needsBackslash c with
    | true =>
      have shape : escapeQuoted (c :: value) ++ ['\''] =
          '\\' :: c :: (escapeQuoted value ++ ['\'']) := by
        simp [escapeQuoted, special]
      have stays : breaksLine c = false := by
        simp only [needsBackslash, Bool.or_eq_true, beq_iff_eq] at special
        rcases special with rfl | rfl <;> rfl
      rw [shape, insideUnits?_special special, longer, List.any_cons, stays, Bool.false_or]
    | false =>
      have shape : escapeQuoted (c :: value) ++ ['\''] = c :: (escapeQuoted value ++ ['\'']) := by
        simp [escapeQuoted, special]
      rw [shape, insideUnits?_plain special, longer, List.any_cons]
      cases breaksLine c <;> rfl

/-- The literal of a value stands for the value when no line ends in it, and is no literal
otherwise. -/
theorem units?_quoted (value : String) :
    units? (quoted value).toList =
      if value.toList.any breaksLine then none else some (textUnits value.toList) := by
  rw [quoted, String.toList_ofList, List.cons_append]
  exact insideUnits?_escapeQuoted value.toList

/-- Escapes that are not written here are understood. -/
example : units? "'a\\x41\\u\x7b1F600\x7d\\n'".toList = some [97, 65, 0xD83D, 0xDE00, 10] := by
  decide

end StringLiteral

/-- Where a search for literals stands. -/
inductive Search
  /-- Outside of all literals. -/
  | code
  /-- In a literal that a quote began, with the part of it that was passed. -/
  | within (quote : Char) (front : List Char)
  /-- In a literal, behind a backslash. -/
  | escaped (quote : Char) (front : List Char)
deriving DecidableEq, Repr

namespace Search

/-- Where the search stands after a character, and the literal between apostrophes that it ends. -/
def next : Search → Char → Search × List (List Char)
  | code, c => if c = '\'' ∨ c = '"' then (within c [c], []) else (code, [])
  | within quote front, c =>
    if c = '\\' then (escaped quote (front ++ [c]), [])
    else if c = quote then (code, if quote = '\'' then [front ++ [c]] else [])
    else (within quote (front ++ [c]), [])
  | escaped quote front, c => (within quote (front ++ [c]), [])

/-- Where the search stands after a text, and the literals between apostrophes that end in it. -/
def after (search : Search) : List Char → Search × List (List Char)
  | [] => (search, [])
  | c :: rest =>
    let (later, found) := search.next c
    let (last, others) := later.after rest
    (last, found ++ others)

/-- The literal between apostrophes that is not finished. -/
def unfinished : Search → List (List Char)
  | code => []
  | within quote front | escaped quote front => if quote = '\'' then [front] else []

/-- The search goes on in a second text where it stands after the first. -/
theorem after_append (search : Search) (first second : List Char) :
    search.after (first ++ second) =
      let (later, found) := search.after first
      let (last, others) := later.after second
      (last, found ++ others) := by
  induction first generalizing search with
  | nil => rfl
  | cons c first ih => simp [after, ih, List.append_assoc]

/-- The inside of a literal is passed up to the apostrophe at its end. -/
theorem after_escapeQuoted (front value : List Char) :
    (within '\'' front).after (escapeQuoted value ++ ['\'']) =
      (code, [front ++ escapeQuoted value ++ ['\'']]) := by
  induction value generalizing front with
  | nil => simp [escapeQuoted, after, next]
  | cons c value ih =>
    by_cases special : needsBackslash c
    · have shape : escapeQuoted (c :: value) = '\\' :: c :: escapeQuoted value := by
        simp [escapeQuoted, special]
      simp [shape, after, next, ih]
    · have shape : escapeQuoted (c :: value) = c :: escapeQuoted value := by
        simp [escapeQuoted, special]
      have plain : c ≠ '\\' ∧ c ≠ '\'' := by simpa [needsBackslash] using special
      simp [shape, after, next, plain.1, plain.2, ih]

end Search

/-- The literals between apostrophes in code without comments, in order. What stands between double
quotes is passed over. -/
def literalsIn (text : List Char) : List (List Char) :=
  let (last, found) := Search.code.after text
  found ++ last.unfinished

/-- Whether a character begins a literal. -/
def isQuote (c : Char) : Bool := c == '\'' || c == '"'

/-- A text that stands in code holds the given literals, and leads back to code. -/
def Holds (text : List Char) (literals : List (List Char)) : Prop :=
  Search.code.after text = (.code, literals)

instance (text : List Char) (literals : List (List Char)) : Decidable (Holds text literals) :=
  inferInstanceAs (Decidable (_ = _))

namespace Holds

variable {first second text name : List Char} {literals others : List (List Char)}

/-- The literals of a text that goes back to code are those it holds. -/
theorem literalsIn_eq (holds : Holds text literals) : literalsIn text = literals := by
  have ended : Search.code.after text = (.code, literals) := holds
  rw [literalsIn, ended]
  exact List.append_nil literals

/-- Two texts hold the literals of both. -/
theorem append (front : Holds first literals) (back : Holds second others) :
    Holds (first ++ second) (literals ++ others) := by
  have before : Search.code.after first = (.code, literals) := front
  have behind : Search.code.after second = (.code, others) := back
  simp only [Holds, Search.after_append, before, behind]

/-- Where no quote stands no literal does. -/
theorem of_unquoted (plain : ∀ c ∈ text, isQuote c = false) : Holds text [] := by
  induction text with
  | nil => rfl
  | cons c rest ih =>
    obtain ⟨other, later⟩ := List.forall_mem_cons.mp plain
    have ended : Search.code.after rest = (.code, []) := ih later
    have stays : ¬(c = '\'' ∨ c = '"') := by simpa [isQuote] using other
    simp [Holds, Search.after, Search.next, stays, ended]

/-- The literal of a value is one literal. -/
theorem of_quoted (value : String) : Holds (quoted value).toList [(quoted value).toList] := by
  have inside := Search.after_escapeQuoted ['\''] value.toList
  simp only [quoted, String.toList_ofList, List.cons_append, Holds, Search.after, Search.next,
    true_or, ↓reduceIte, inside, List.nil_append]

/-- The inside of a literal between double quotes is passed over. -/
theorem of_within {front : List Char} (plain : ∀ c ∈ name, c ≠ '\\' ∧ c ≠ '"') :
    (Search.within '"' front).after (name ++ ['"']) = (.code, []) := by
  induction name generalizing front with
  | nil => rfl
  | cons c name ih =>
    obtain ⟨other, later⟩ := List.forall_mem_cons.mp plain
    simp [Search.after, Search.next, other.1, other.2, ih later]

/-- A literal between double quotes is passed over. -/
theorem of_doubled (plain : ∀ c ∈ name, c ≠ '\\' ∧ c ≠ '"') : Holds ('"' :: name ++ ['"']) [] := by
  simp only [Holds, List.cons_append, Search.after, Search.next, or_true, ↓reduceIte,
    of_within plain, List.nil_append]

end Holds

end EnvTemplate.Text
