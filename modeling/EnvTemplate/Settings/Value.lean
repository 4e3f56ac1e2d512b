import EnvTemplate.Decimal.Shortest
import EnvTemplate.Text.Shown

/-!
# Values of settings

The values that the sources of settings can hold, whatever notation they are written in, and the
way in which a message names a value of the wrong type. A table in a settings file may stand for
another value, which it holds under a reserved name; under another it may give the number of the
source that this value is to be told from.
-/
namespace EnvTemplate.Settings

/-- A value of a setting. -/
inductive Value
  /-- A string. -/
  | text (value : String)
  /-- A boolean. -/
  | boolean (value : Bool)
  /-- A whole number read as one without a sign. -/
  | unsigned (value : Nat)
  /-- A whole number read as one with a sign. -/
  | signed (value : Int)
  /-- A whole number that needs more than 64 bits; a negative one needs a sign. -/
  | wide (value : Int)
  /-- A binary64 number. -/
  | real (value : Real64)
  /-- The absence of a value. -/
  | unit
  /-- A sequence of values. -/
  | sequence (values : List Value)
  /-- Named values; of two with the same name the later counts. -/
  | table (members : List (String × Value))
  /-- A value that is told from no source. -/
  | sourceless (value : Value)

/-- The members of a table. -/
abbrev Members := List (String × Value)

/-- The value of a name: the last one given. -/
def Members.get? (members : Members) (name : String) : Option Value :=
  members.reverse.lookup name

/-- A value inside tables of the given names. -/
def Value.nested (value : Value) : List String → Value
  | [] => value
  | name :: names => .table [(name, value.nested names)]

mutual

/-- The value with all that is in it told from the source that it is found in. -/
def Value.sourced : Value → Value
  | .sequence values => .sequence (allSourced values)
  | .table members => .table (membersSourced members)
  | .sourceless value => value.sourced
  | .text value => .text value
  | .boolean value => .boolean value
  | .unsigned value => .unsigned value
  | .signed value => .signed value
  | .wide value => .wide value
  | .real value => .real value
  | .unit => .unit

/-- The values with all that is in them told from the source that they are found in. -/
def allSourced : List Value → List Value
  | [] => []
  | value :: rest => value.sourced :: allSourced rest

/-- The members with all that is in them told from the source that they are found in. -/
def membersSourced : List (String × Value) → List (String × Value)
  | [] => []
  | (name, value) :: rest => (name, value.sourced) :: membersSourced rest

end

/-- The number that a value gives for a source. -/
def Value.sourceNumber? : Value → Option Int
  | unsigned value => some value
  | signed value => some value
  | _ => none

/-- The name under which a table holds the value that it stands for. -/
def contentName : String := "___figment_value_value"

/-- The name under which a table gives the number of a source. -/
def sourceName : String := "___figment_value_id"

/-- The value of a table of a settings file: the one that it stands for, or the table itself. The
source of number zero is the one that the table is found in; no other number names a source. -/
def Value.ofMembers? (members : Members) : Option Value :=
  if members.any fun member => member.1 == sourceName && member.2.sourceNumber?.isNone then none
  else
    match members.get? contentName with
    | none => some (.table (members.filter fun member => member.1 ≠ sourceName))
    | some content =>
      match members.get? sourceName with
      | none => some content
      | some given =>
        if given.sourceNumber? = some 0 then some content.sourced
        else some (.sourceless content.sourced)

/-- How a message names a value. -/
def Value.description : Value → String
  | text value => "string " ++ Text.shown value
  | boolean value => "bool " ++ (if value then "true" else "false")
  | unsigned value => "unsigned int " ++ tick ++ toString value ++ tick
  | signed value => "signed int " ++ tick ++ toString value ++ tick
  | wide value =>
    "integer " ++ tick ++ toString value ++ tick ++ (if value < 0 then " as i128" else " as u128")
  | real value => "float " ++ tick ++ value.text ++ tick
  | unit => "unit"
  | sequence _ => "sequence"
  | table _ => "map"
  | sourceless value => value.description
where
  /-- The mark around a number. -/
  tick : String := "\x60"

end EnvTemplate.Settings
