import EnvTemplate.Text.Blank
import EnvTemplate.Text.Case

/-!
# Names of properties

The name of a property is made from its key. It is lowered, and each run of separators that stands
before a small letter or a digit is dropped while that character is raised. A run that stands
before anything else, or at the end, stays as it is.

The keys of a group usually repeat the name of the group in front. The lead of a group is its name
in upper case with an underscore for each run of hyphens and blanks, and one more underscore after
it. A key that starts with the lead of its group is shortened by it.
-/
namespace EnvTemplate.Name

/-- The characters between the words of a name. -/
def isSeparator (c : Char) : Bool := c == '_' || c == '-'

/-- The characters that begin a word. -/
def startsWord (c : Char) : Bool := ('a' ≤ c && c ≤ 'z') || ('0' ≤ c && c ≤ '9')

/-- Join the words of a lowered name; `run` holds the separators directly before the text. -/
def joinWords (run : List Char) : List Char → List Char
  | [] => run
  | c :: rest =>
    if isSeparator c then joinWords (run ++ [c]) rest
    else if run ≠ [] ∧ startsWord c then c.toUpper :: joinWords [] rest
    else run ++ c :: joinWords [] rest

/-- The camel case of a list of characters. -/
def camelChars (name : List Char) : List Char := joinWords [] (Text.toLower name)

/-- The camel case of a name. -/
def camelCase (name : String) : String := String.ofList (camelChars name.toList)

/-- The characters that become an underscore in the lead of a group. -/
def isLeadBreak (c : Char) : Bool := c == '-' || Text.isBlank c

/-- Each run of hyphens and blanks as one underscore; `afterBreak` tells that the text follows
one of them. -/
def underscoreFrom (afterBreak : Bool) : List Char → List Char
  | [] => []
  | c :: rest =>
    if isLeadBreak c then
      if afterBreak then underscoreFrom true rest else '_' :: underscoreFrom true rest
    else c :: underscoreFrom false rest

/-- What the keys of a group start with. -/
def groupLead (group : List Char) : List Char :=
  Text.toUpper (underscoreFrom false group) ++ ['_']

/-- The text after a lead, if it starts with it. -/
def afterLead? : List Char → List Char → Option (List Char)
  | [], text => some text
  | _ :: _, [] => none
  | l :: lead, c :: text => if l = c then afterLead? lead text else none

/-- A lead is found exactly when the text is the lead followed by what is returned. -/
theorem afterLead?_eq_some_iff {lead text rest : List Char} :
    afterLead? lead text = some rest ↔ text = lead ++ rest := by
  induction lead generalizing text with
  | nil => simp [afterLead?, eq_comm]
  | cons l lead ih =>
    cases text with
    | nil => simp [afterLead?]
    | cons c text =>
      by_cases same : l = c
      · simp [afterLead?, same, ih]
      · simp [afterLead?, same, Ne.symm same]

/-- A key without the lead of its group; a key with another start is kept whole. -/
def withoutLead (key group : List Char) : List Char := (afterLead? (groupLead group) key).getD key

end EnvTemplate.Name
