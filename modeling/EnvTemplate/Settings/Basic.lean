import EnvTemplate.Settings.Value

/-!
# The settings of the commands

The settings with their defaults, the sources they can come from, and what can be wrong with a
source.
-/
namespace EnvTemplate.Settings

/-- What the commands do when no flag tells otherwise. -/
structure Preferences where
  /-- The path of the template. -/
  template : String
  /-- The path of the generated module. -/
  output : String
  /-- The name of the grouping. -/
  grouping : String
  /-- Whether groups are disregarded. -/
  flat : Bool
  /-- The name of the dialect of the generated module. -/
  dialect : String
  /-- Whether an existing file may be overwritten. -/
  force : Bool
deriving DecidableEq, Repr

/-- The built-in settings. -/
def Preferences.standard : Preferences where
  template := ".env.example"
  output := "./config/index.js"
  grouping := "explicit"
  flat := false
  dialect := "js"
  force := false

/-- The notations of settings files. -/
inductive Format
  /-- TOML. -/
  | toml
  /-- JSON. -/
  | json
  /-- YAML. -/
  | yaml
deriving DecidableEq, Repr

/-- The name of a notation. -/
def Format.label : Format → String
  | toml => "TOML"
  | json => "JSON"
  | yaml => "YAML"

/-- Where a setting comes from. -/
inductive Source
  /-- The built-in settings. -/
  | builtIn
  /-- A file, with its path as it is shown. -/
  | file (format : Format) (path : String)
  /-- The environment. -/
  | environment
  /-- No source that can be named. -/
  | unknown
deriving DecidableEq, Repr

/-- How a message names a source. -/
def Source.label : Source → String
  | builtIn => "TOML source string"
  | file format path => path ++ " " ++ format.label ++ " file"
  | environment => "\x60ENVUS_\x60 environment variable(s)"
  | unknown => ""

/-- How a message names a setting of a source. -/
def Source.keyLabel (source : Source) (path : List String) : String :=
  match source with
  | environment =>
    ".".intercalate (path.map fun name => String.ofList (name.toList.map Char.toUpper))
  | _ => ".".intercalate ("default" :: path)

/-- Where a message places a setting of a source: by its name and the source, or not at all. -/
def Source.place (source : Source) (path : List String) : String :=
  match source with
  | unknown => ""
  | _ => " for key \"" ++ source.keyLabel path ++ "\" in " ++ source.label

/-- A value and where it comes from. -/
structure Setting where
  /-- The value. -/
  value : Value
  /-- Its source. -/
  source : Source

/-- The setting that a value found in a source makes. -/
def Setting.ofValue (source : Source) : Value → Setting
  | .sourceless value => ⟨value, .unknown⟩
  | value => ⟨value, source⟩

/-- The types that settings must have. -/
inductive Expected
  /-- A string. -/
  | text
  /-- A boolean. -/
  | boolean
  /-- All settings together. -/
  | preferences
deriving DecidableEq, Repr

/-- How a message names an expected type. -/
def Expected.label : Expected → String
  | text => "a string"
  | boolean => "a boolean"
  | preferences => "struct InitConfig"

/-- What can be wrong with the sources. -/
inductive SettingsError
  /-- A file cannot be read or breaks the rules of its notation. Of the message only the source is
  kept: which text the reader of the notation has for which fault is left out. -/
  | malformed (source : Source)
  /-- A setting has the wrong type. -/
  | wrongType (found : Setting) (expected : Expected) (path : List String)

/-- The wording of what is wrong. -/
def SettingsError.message : SettingsError → String
  | malformed source => "malformed " ++ source.label
  | wrongType found expected path =>
    "invalid type: found " ++ found.value.description ++ ", expected " ++ expected.label ++
      found.source.place path

/-- What a command reports when its settings cannot be loaded. -/
def SettingsError.report (fault : SettingsError) : String :=
  "Failed to load envus configuration: " ++ fault.message

end EnvTemplate.Settings
