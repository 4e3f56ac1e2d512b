import EnvTemplate.Settings.Basic

/-!
# The section of the settings

Each source may hold a section with the settings. A later section overlays an earlier one: when
both are tables the settings are taken one by one, the later first; otherwise the later section
counts alone. From the section that results the settings are read in the order of their names, and
the first of the wrong type is told. A section may also be a sequence, whose elements are the
settings in a fixed order; what it does not give is as built in.
-/
namespace EnvTemplate.Settings

/-- A section of settings. -/
inductive Section
  /-- Named settings; of two with the same name the first counts. -/
  | named (settings : List (String × Setting))
  /-- A value that is no table. -/
  | whole (setting : Setting)

namespace Section

/-- The section that a setting makes. -/
def ofSetting : Setting → Section
  | ⟨.table members, source⟩ =>
    named (members.reverse.map fun (name, value) => (name, .ofValue source value))
  | setting => whole setting

/-- The section that a value of a source makes. -/
def ofValue (source : Source) (value : Value) : Section := ofSetting (.ofValue source value)

/-- A section under a later one. -/
def overlay : Section → Section → Section
  | named earlier, named later => named (later ++ earlier)
  | _, later => later

/-- The section of the built-in settings. -/
def standard : Section :=
  let given (value : Value) : Setting := ⟨value, .builtIn⟩
  let preferences := Preferences.standard
  named [
    ("example", given (.text preferences.template)),
    ("output", given (.text preferences.output)),
    ("group", given (.text preferences.grouping)),
    ("flat", given (.boolean preferences.flat)),
    ("module", given (.text preferences.dialect)),
    ("force", given (.boolean preferences.force))]

end Section

/-- The name of the section. -/
def sectionName : String := "init"

/-- The text of a setting, or the built-in one when it is not given. -/
def textOf (given : Option Setting) (name standard : String) : Except SettingsError String :=
  match given with
  | none => .ok standard
  | some ⟨.text value, _⟩ => .ok value
  | some setting => .error (.wrongType setting .text [sectionName, name])

/-- The boolean of a setting, or the built-in one when it is not given. -/
def booleanOf (given : Option Setting) (name : String) (standard : Bool) :
    Except SettingsError Bool :=
  match given with
  | none => .ok standard
  | some ⟨.boolean value, _⟩ => .ok value
  | some setting => .error (.wrongType setting .boolean [sectionName, name])

/-- The settings of a table, in the order of their names. -/
def Preferences.ofNamed (settings : List (String × Setting)) :
    Except SettingsError Preferences := do
  let standard := Preferences.standard
  let template ← textOf (settings.lookup "example") "example" standard.template
  let flat ← booleanOf (settings.lookup "flat") "flat" standard.flat
  let force ← booleanOf (settings.lookup "force") "force" standard.force
  let grouping ← textOf (settings.lookup "group") "group" standard.grouping
  let dialect ← textOf (settings.lookup "module") "module" standard.dialect
  let output ← textOf (settings.lookup "output") "output" standard.output
  return { template, output, grouping, flat, dialect, force }

/-- The settings of a sequence, in the order of its elements. -/
def Preferences.ofSequence (source : Source) (values : List Value) :
    Except SettingsError Preferences := do
  let standard := Preferences.standard
  let given (index : Nat) : Option Setting := values[index]?.map (.ofValue source)
  let template ← textOf (given 0) "0" standard.template
  let output ← textOf (given 1) "1" standard.output
  let grouping ← textOf (given 2) "2" standard.grouping
  let flat ← booleanOf (given 3) "3" standard.flat
  let dialect ← textOf (given 4) "4" standard.dialect
  let force ← booleanOf (given 5) "5" standard.force
  return { template, output, grouping, flat, dialect, force }

/-- The settings of a section. -/
def Preferences.ofSection : Section → Except SettingsError Preferences
  | .named settings => ofNamed settings
  | .whole ⟨.sequence values, source⟩ => ofSequence source values
  | .whole setting => .error (.wrongType setting .preferences [sectionName])

end EnvTemplate.Settings
