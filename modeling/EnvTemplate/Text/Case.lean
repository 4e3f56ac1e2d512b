import EnvTemplate.Text.CaseTable

/-!
# Lower and upper case

The full case mappings of Unicode, independent of language: one character may become several,
and a capital sigma becomes the final form at the end of a word. On ASCII text both mappings
work letter by letter, so their laws need no table.
-/
namespace EnvTemplate.Text

/-- Whether the character has a case of its own. -/
def isCased (c : Char) : Bool := inRanges casedRanges c.toNat

/-- Whether the character is passed over when the neighbours of a letter are looked for. -/
def isCaseIgnorable (c : Char) : Bool := inRanges caseIgnorableRanges c.toNat

/-- The mapping of a character beyond ASCII, which maps to itself when no table lists it. -/
def mapCase (runs : List Shift) (expansions : List (Nat × List Nat)) (c : Char) : List Char :=
  match expansions.lookup c.toNat with
  | some points => points.map Char.ofNat
  | none => [(shifted? runs c.toNat).getD c]

/-- The lower case of a character out of context. -/
def lowerChar (c : Char) : List Char :=
  if c.toNat < 128 then [c.toLower] else mapCase lowerShifts lowerExpansions c

/-- The upper case of a character. -/
def upperChar (c : Char) : List Char :=
  if c.toNat < 128 then [c.toUpper] else mapCase upperShifts upperExpansions c

/-- Whether the first character that is not passed over has a case. -/
def meetsCased (text : List Char) : Bool :=
  match text.dropWhile isCaseIgnorable with
  | [] => false
  | c :: _ => isCased c

/-- The lower case of a text, given the characters before it from the nearest on: a capital sigma
that follows a cased letter and precedes none takes its final form. -/
def lowerFrom (before : List Char) : List Char → List Char
  | [] => []
  | c :: rest =>
    (if c = 'Σ' then (if meetsCased before && !meetsCased rest then ['ς'] else ['σ'])
      else lowerChar c) ++ lowerFrom (c :: before) rest

/-- The lower case of a text. -/
def toLower (text : List Char) : List Char := lowerFrom [] text

/-- The upper case of a text. -/
def toUpper (text : List Char) : List Char := text.flatMap upperChar

/-- Whether all characters are ASCII. -/
def IsAscii (text : List Char) : Prop := ∀ c ∈ text, c.toNat < 128

/-- An ASCII text is lowered letter by letter, whatever stands before it. -/
theorem lowerFrom_of_isAscii {text : List Char} (ascii : IsAscii text) (before : List Char) :
    lowerFrom before text = text.map Char.toLower := by
  induction text generalizing before with
  | nil => rfl
  | cons c rest ih =>
    have bound : c.toNat < 128 := ascii c (by simp)
    have other : c ≠ 'Σ' := by rintro rfl; exact absurd bound (by decide)
    simp [lowerFrom, other, lowerChar, bound, ih fun d member => ascii d (by simp [member])]

/-- An ASCII text is lowered letter by letter. -/
theorem toLower_of_isAscii {text : List Char} (ascii : IsAscii text) :
    toLower text = text.map Char.toLower := lowerFrom_of_isAscii ascii []

/-- An ASCII text is raised letter by letter. -/
theorem toUpper_of_isAscii {text : List Char} (ascii : IsAscii text) :
    toUpper text = text.map Char.toUpper := by
  induction text with
  | nil => rfl
  | cons c rest ih =>
    have bound : c.toNat < 128 := ascii c (by simp)
    have tail := ih fun d member => ascii d (by simp [member])
    simp only [toUpper] at tail ⊢
    simp [upperChar, bound, tail]

end EnvTemplate.Text
