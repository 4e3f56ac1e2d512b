import EnvTemplate.Text.Quoted
import Mathlib.Data.List.Basic

/-!
# The ends of quoted literals

Inside a literal a backslash makes the next character literal, and a backslash that is itself
literal does nothing. The first apostrophe that is not literal ends the literal, and the reader of
quoted literals stops there, whatever text it is given. Main statement: the literal of a value ends
with that apostrophe, so that no text behind it counts, and what is read of it is the value.
-/
namespace EnvTemplate.Text

variable {text inside value after : List Char} {c : Char}

/-- A text with another text in the place of each occurrence of a character. -/
def replaced (old : Char) (new text : List Char) : List Char :=
  text.flatMap fun c => if c = old then new else [c]

/-- The inside of a literal is the value with all backslashes doubled and then a backslash put
before each apostrophe. -/
theorem escapeQuoted_eq_replaced (value : List Char) :
    escapeQuoted value = replaced '\'' ['\\', '\''] (replaced '\\' ['\\', '\\'] value) := by
  rw [escapeQuoted, replaced, replaced, List.flatMap_assoc]
  refine List.flatMap_congr fun c _ => ?_
  by_cases backslash : c = '\\'
  · subst backslash
    rfl
  · by_cases apostrophe : c = '\''
    · subst apostrophe
      rfl
    · simp [needsBackslash, backslash, apostrophe]

/-- In the other order the backslashes of the apostrophes are doubled too, and the literal ends
early. -/
example :
    let inside := replaced '\\' ['\\', '\\'] (replaced '\'' ['\\', '\''] "it's".toList)
    readQuoted ('\'' :: inside ++ ['\'']) = some ("it\\".toList, "s'".toList) := by decide

/-- A value without backslashes and apostrophes is written as it is between the apostrophes. -/
theorem quoted_of_plain {value : String} (plain : ∀ c ∈ value.toList, needsBackslash c = false) :
    quoted value = "'" ++ value ++ "'" := by
  have unchanged : escapeQuoted value.toList = value.toList := by
    rw [escapeQuoted, List.flatMap_congr (g := fun c => [c]) fun c held => by simp [plain c held]]
    exact List.flatMap_singleton' value.toList
  rw [quoted, unchanged]
  exact String.toList_injective (by simp)

/-- Whether the inside of a literal ends with a backslash that makes the next character literal. -/
def escapesNext (inside : List Char) : Bool :=
  inside.foldl (fun escaping c => c == '\\' && !escaping) false

/-- The characters that the inside of a literal stands for. -/
def unescaped : List Char → List Char
  | [] => []
  | '\\' :: c :: rest => c :: unescaped rest
  | c :: rest => c :: unescaped rest

/-- Behind an opening apostrophe a text begins with the inside of a literal, and the first apostrophe
that is not literal follows it. -/
structure IsInside (text inside after : List Char) : Prop where
  /-- An apostrophe stands behind the inside. -/
  whole : text = inside ++ '\'' :: after
  /-- It is not literal. -/
  ended : escapesNext inside = false
  /-- All apostrophes before it are. -/
  first : ∀ earlier later, text = earlier ++ '\'' :: later → escapesNext earlier = false →
    inside.length ≤ earlier.length

/-- A backslash and the character behind it leave nothing escaped. -/
theorem escapesNext_pair (c : Char) (inside : List Char) :
    escapesNext ('\\' :: c :: inside) = escapesNext inside := by
  simp [escapesNext]

/-- A character other than a backslash escapes nothing. -/
theorem escapesNext_plain (other : c ≠ '\\') (inside : List Char) :
    escapesNext (c :: inside) = escapesNext inside := by
  have plain : (c == '\\') = false := beq_false_of_ne other
  simp [escapesNext, plain]

namespace IsInside

/-- An apostrophe right at the beginning ends the literal. -/
theorem apostrophe_iff : IsInside ('\'' :: text) inside after ↔ inside = [] ∧ after = text := by
  constructor
  · rintro ⟨whole, _, first⟩
    obtain rfl : inside = [] := List.eq_nil_of_length_eq_zero (Nat.le_zero.mp (first [] text rfl rfl))
    exact ⟨rfl, (List.cons.inj whole).2.symm⟩
  · rintro ⟨rfl, rfl⟩
    exact ⟨rfl, rfl, fun earlier _ _ _ => Nat.zero_le earlier.length⟩

/-- What escapes nothing, and has no apostrophe that could end the literal, belongs to the inside. -/
theorem append_iff (lead : List Char)
    (neutral : ∀ inside, escapesNext (lead ++ inside) = escapesNext inside)
    (passed : ∀ front back, lead ++ text = front ++ '\'' :: back → escapesNext front = false →
      lead <+: front) :
    IsInside (lead ++ text) inside after ↔
      ∃ inner, inside = lead ++ inner ∧ IsInside text inner after := by
  constructor
  · rintro ⟨whole, ended, first⟩
    obtain ⟨inner, rfl⟩ := passed inside after whole ended
    rw [List.append_assoc] at whole
    refine ⟨inner, rfl, List.append_cancel_left whole, neutral inner ▸ ended, ?_⟩
    intro front back split bare
    have longer := first (lead ++ front) back (by rw [split, List.append_assoc])
      (by rwa [neutral])
    simpa using longer
  · rintro ⟨inner, rfl, whole, ended, first⟩
    refine ⟨by rw [whole, List.append_assoc], by rwa [neutral], fun front back split bare => ?_⟩
    obtain ⟨front, rfl⟩ := passed front back split bare
    rw [List.append_assoc] at split
    have longer := first front back (List.append_cancel_left split) (neutral front ▸ bare)
    simpa using longer

/-- A backslash and the character behind it belong to the inside. -/
theorem pair_iff :
    IsInside ('\\' :: c :: text) inside after ↔
      ∃ inner, inside = '\\' :: c :: inner ∧ IsInside text inner after := by
  refine append_iff ['\\', c] (escapesNext_pair c) fun front back split bare => ?_
  match front with
  | [] => simp at split
  | [single] =>
    obtain ⟨rfl, _⟩ := List.cons.inj split
    contradiction
  | backslash :: second :: front =>
    obtain ⟨rfl, rest⟩ := List.cons.inj split
    obtain ⟨rfl, _⟩ := List.cons.inj rest
    exact List.prefix_append _ front

/-- A character other than a backslash and an apostrophe belongs to the inside. -/
theorem plain_iff (other : c ≠ '\\' ∧ c ≠ '\'') :
    IsInside (c :: text) inside after ↔
      ∃ inner, inside = c :: inner ∧ IsInside text inner after := by
  refine append_iff [c] (escapesNext_plain other.1) fun front back split _ => ?_
  match front with
  | [] => exact absurd (List.cons.inj split).1 other.2
  | single :: front =>
    obtain ⟨rfl, _⟩ := List.cons.inj split
    exact List.prefix_append _ front

/-- Without an apostrophe nothing ends the literal. -/
theorem apostrophe_mem (closed : IsInside text inside after) : '\'' ∈ text := by
  rw [closed.whole]
  exact List.mem_append_right inside List.mem_cons_self

end IsInside

/-- A character other than a backslash stands for itself. -/
theorem unescaped_plain (other : c ≠ '\\') (inside : List Char) :
    unescaped (c :: inside) = c :: unescaped inside := by
  rw [unescaped]
  exact fun _ _ same _ => other same

/-- The reader takes the inside of a literal up to the apostrophe that ends it, and gives the
characters that it stands for. -/
theorem readQuotedBody_eq_some_iff :
    readQuotedBody text = some (value, after) ↔
      ∃ inside, IsInside text inside after ∧ unescaped inside = value := by
  fun_induction readQuotedBody text generalizing value with
  | case1 =>
    have unfinished : ¬∃ inside, IsInside [] inside after ∧ unescaped inside = value :=
      fun ⟨_, closed, _⟩ => List.not_mem_nil closed.apostrophe_mem
    simp [unfinished]
  | case2 c rest ih =>
    simp only [IsInside.pair_iff, Option.map_eq_some_iff, Prod.mk.injEq, Prod.exists]
    constructor
    · rintro ⟨read, _, found, rfl, rfl⟩
      obtain ⟨inner, closed, rfl⟩ := ih.mp found
      exact ⟨_, ⟨inner, rfl, closed⟩, rfl⟩
    · rintro ⟨_, ⟨inner, rfl, closed⟩, rfl⟩
      exact ⟨_, _, ih.mpr ⟨inner, closed, rfl⟩, rfl, rfl⟩
  | case3 rest =>
    simp only [IsInside.apostrophe_iff, Option.some.injEq, Prod.mk.injEq]
    constructor
    · rintro ⟨rfl, rfl⟩
      exact ⟨[], ⟨rfl, rfl⟩, rfl⟩
    · rintro ⟨_, ⟨rfl, rfl⟩, rfl⟩
      exact ⟨rfl, rfl⟩
  | case4 rest alone =>
    -- No character follows the backslash, so that nothing can end the literal.
    have last : rest = [] := by
      cases rest with
      | nil => rfl
      | cons c rest => exact (alone c rest rfl rfl).elim
    subst last
    have unfinished : ¬∃ inside, IsInside ['\\'] inside after ∧ unescaped inside = value :=
      fun ⟨_, closed, _⟩ => absurd closed.apostrophe_mem (by decide)
    simp [unfinished]
  | case5 c rest _ apostrophe backslash ih =>
    simp only [IsInside.plain_iff ⟨backslash, apostrophe⟩, Option.map_eq_some_iff, Prod.mk.injEq,
      Prod.exists]
    constructor
    · rintro ⟨read, _, found, rfl, rfl⟩
      obtain ⟨inner, closed, rfl⟩ := ih.mp found
      exact ⟨_, ⟨inner, rfl, closed⟩, unescaped_plain backslash inner⟩
    · rintro ⟨_, ⟨inner, rfl, closed⟩, rfl⟩
      exact ⟨_, _, ih.mpr ⟨inner, closed, rfl⟩, (unescaped_plain backslash inner).symm, rfl⟩

/-- The literal of a value stands between apostrophes, and inside are the characters of the value
with all backslashes doubled and then a backslash before each apostrophe. Whatever stands behind it,
the first apostrophe that is not literal is the one at its end, and the characters up to there are
those of the value. So no literal begins a text in which another one does, and different values have
different literals. -/
theorem quoted_ends :
    Function.Injective quoted ∧
    ∀ (value : String) (rest : List Char),
      let inside := replaced '\'' ['\\', '\''] (replaced '\\' ['\\', '\\'] value.toList)
      (quoted value).toList = '\'' :: inside ++ ['\''] ∧
        IsInside (inside ++ '\'' :: rest) inside rest ∧ unescaped inside = value.toList ∧
        readQuoted ((quoted value).toList ++ rest) = some (value.toList, rest) ∧
        ∀ (other : String) (later : List Char),
          (quoted other).toList ++ later = (quoted value).toList ++ rest →
            other = value ∧ later = rest := by
  have apart : ∀ (value other : String) (rest later : List Char),
      (quoted other).toList ++ later = (quoted value).toList ++ rest →
        other = value ∧ later = rest := by
    intro value other rest later same
    have read := readQuoted_append other later
    rw [same, readQuoted_append value rest, Option.some.injEq, Prod.mk.injEq] at read
    exact ⟨String.toList_injective read.1.symm, read.2.symm⟩
  refine ⟨fun value other same => (apart other value [] [] (by rw [same])).1, ?_⟩
  intro value rest inside
  have escaped : escapeQuoted value.toList = inside := escapeQuoted_eq_replaced value.toList
  obtain ⟨found, closed, stands⟩ :=
    readQuotedBody_eq_some_iff.mp (readQuotedBody_escapeQuoted value.toList rest)
  have same : found = inside := by
    rw [← escaped]
    exact (List.append_cancel_right closed.whole).symm
  subst same
  rw [escaped] at closed
  exact ⟨by rw [quoted, String.toList_ofList, escaped], closed, stands,
    readQuoted_append value rest, fun other later => apart value other rest later⟩

/-- A value that ends with a backslash does not take the apostrophe behind it, and the next literal
is no part of it. -/
theorem quoted_ends_backslash :
    let text := "'it\\'s \\\\', 'b'".toList
    (quoted "it's \\").toList ++ ", 'b'".toList = text ∧
      IsInside text.tail "it\\'s \\\\".toList ", 'b'".toList ∧
      unescaped "it\\'s \\\\".toList = "it's \\".toList ∧
      readQuoted text = some ("it's \\".toList, ", 'b'".toList) ∧
      ∀ (other : String) (later : List Char), (quoted other).toList ++ later = text →
        other = "it's \\" ∧ later = ", 'b'".toList := by
  intro text
  have written : (quoted "it's \\").toList ++ ", 'b'".toList = text := by decide
  obtain ⟨_, closed, stands, reads, apart⟩ := quoted_ends.2 "it's \\" ", 'b'".toList
  rw [written] at reads apart
  exact ⟨written, closed, stands, reads, apart⟩

end EnvTemplate.Text
