import EnvTemplate.FileSystem.Basic
import EnvTemplate.Settings.Json
import EnvTemplate.Settings.Section
import EnvTemplate.Settings.Toml.Document
import EnvTemplate.Settings.Variable
import EnvTemplate.Settings.Yaml.Document

/-!
# Loading the settings

The settings come from the built-in ones, then from settings files, then from the environment, the
later before the earlier. The settings files are those of a project, or in their place one file
that was asked for. A file with a relative path is looked for in the working directory and then in
the directories around it; a file that is not found counts as empty.
-/
namespace EnvTemplate.Settings

/-- The names and texts of environment variables, in the order in which the environment has them. -/
abbrev Environment := List (String × String)

/-- The settings files of a project, the least important first. -/
def projectFiles : List (Format × String) :=
  [(.toml, "envus.toml"), (.json, "envus.json"), (.yaml, "envus.yaml"), (.yaml, "envus.yml")]

/-- The notation of a file that was asked for, by its extension. -/
def Format.ofPath (path : String) : Format :=
  match Path.extension path with
  | "json" => json
  | "yaml" => yaml
  | "yml" => yaml
  | _ => toml

/-- The settings files of a run. -/
def settingsFiles (custom : Option String) : List (Format × String) :=
  match custom with
  | some path => [(.ofPath path, path)]
  | none => projectFiles

/-- The directories in which a relative path is looked for. -/
def searchDirectories (directory : Location) : List String :=
  (List.range (directory.length + 1)).reverse.map fun count => Path.ofNames (directory.take count)

/-- Where a settings file is, if it is found. -/
def locate? (fs : FileSystem) (directory : Location) (path : String) : Option String :=
  if Path.isAbsolute path then
    if fs.isFile path then some path else none
  else ((searchDirectories directory).map fun place => Path.join place path).find? fs.isFile

/-- The members of a document. -/
def Format.members? (format : Format) (text : String) : Option Members :=
  match format with
  | toml => Toml.document? text.toList
  | json => Json.document? text.toList
  | yaml => Yaml.document? text.toList

/-- The section that a settings file gives, if it gives one. -/
def fileSection (fs : FileSystem) (directory : Location) (file : Format × String) :
    Except SettingsError (Option Section) :=
  match locate? fs directory file.2 with
  | none => .ok none
  | some path =>
    let source : Source :=
      .file file.1 (Path.shownFrom (Path.ofNames directory) path)
    match (fs.readText path).toOption.bind file.1.members? with
    | none => .error (.malformed source)
    | some members => .ok ((members.get? sectionName).map (Section.ofValue source))

/-- The sections of the settings files, without those that give none. -/
def fileSections (fs : FileSystem) (directory : Location) :
    List (Format × String) → Except SettingsError (List Section)
  | [] => .ok []
  | file :: files =>
    match fileSection fs directory file with
    | .error fault => .error fault
    | .ok given =>
      match fileSections fs directory files with
      | .error fault => .error fault
      | .ok sections => .ok (given.toList ++ sections)

/-- The section that one variable gives, if it gives one. -/
def variableSection? (given : String × String) : Option Section :=
  match Variable.path? given.1 with
  | some (name :: names) =>
    if name = sectionName then
      some (.ofValue .environment ((Variable.valueOf given.2).nested names))
    else none
  | _ => none

/-- Sections laid over one another, the last on top. -/
def overlayAll : List Section → Option Section
  | [] => none
  | lowest :: later => some (later.foldl Section.overlay lowest)

/-- The section that the environment gives, if it gives one. Of variables with names for the same
setting the later one counts. -/
def environmentSection? (environment : Environment) : Option Section :=
  overlayAll (environment.filterMap variableSection?)

/-- An environment without variables gives no section. -/
@[simp] theorem environmentSection?_nil : environmentSection? [] = none := rfl

/-- Load the settings, seen from a working directory. -/
def load (fs : FileSystem) (directory : Location) (environment : Environment)
    (custom : Option String) : Except SettingsError Preferences :=
  match fileSections fs directory (settingsFiles custom) with
  | .error fault => .error fault
  | .ok sections =>
    let given := sections ++ (environmentSection? environment).toList
    Preferences.ofSection (given.foldl Section.overlay .standard)

end EnvTemplate.Settings
