import EnvTemplate.CommandLine.Examine
import EnvTemplate.Module.Source

/-!
# Generating a module

The command reads a template and writes the module for its items. A template with errors changes
nothing. The directories around the module are made before anything else is tried, then a module
that would overwrite something is refused unless that is asked for, and then the module is written.
-/
namespace EnvTemplate.CommandLine

open Settings (Preferences)

namespace InitFlags

/-- The dialect of the module; an unknown name among the settings counts as the default, with a
warning, but only when no flag chooses the dialect. -/
def dialectOf (flags : InitFlags) (preferences : Preferences) : Module.Dialect × List Message :=
  if flags.ts then (.ts, [])
  else if flags.cjs then (.cjs, [])
  else
    orDefault (Module.Dialect.ofName? preferences.dialect) .js
      ("Unknown module format \"" ++ preferences.dialect ++ "\", falling back to \"js\".")

/-- Whether something may be overwritten. -/
def mayOverwrite (flags : InitFlags) (preferences : Preferences) : Bool :=
  flags.force || preferences.force

/-- The path of the module before it is made absolute. -/
def path (flags : InitFlags) (preferences : Preferences) : String :=
  flags.output.getD preferences.output

end InitFlags

/-- The path of a module of a dialect. The ending of a JavaScript file becomes that of a TypeScript
file when the module is TypeScript. -/
def modulePath (dialect : Module.Dialect) (path : String) : String :=
  match dialect with
  | .ts =>
    match Path.withoutEnding? path [".jsx", ".js"] with
    | some stem => stem ++ ".ts"
    | none => path
  | _ => path

/-- Make the directories around an absolute path. -/
def prepare (fs : FileSystem) (path : String) : FileSystem × Option Failure :=
  match Path.parent? path with
  | none => (fs, none)
  | some parent =>
    let (made, fault) := fs.makePath parent
    (made, fault.map (.directoryNotMade parent))

/-- Write a module to an absolute path whose directories were made. -/
def store (fs : FileSystem) (path source : String) (overwrite : Bool) :
    Except Failure FileSystem :=
  if fs.exists? path && !overwrite then .error (.outputExists path)
  else
    match fs.writeText path source with
    | .ok written => .ok written
    | .error fault => .error (.outputNotWritten path fault)

/-- Make the directories around an absolute path and write a module to it. -/
def deliver (fs : FileSystem) (path source : String) (overwrite : Bool) :
    FileSystem × Option Failure :=
  match prepare fs path with
  | (made, some failure) => (made, some failure)
  | (made, none) =>
    match store made path source overwrite with
    | .ok written => (written, none)
    | .error failure => (made, some failure)

/-- Write the module for the items of a template, after what was told before. -/
def generate (place : Place) (preferences : Preferences) (flags : InitFlags)
    (items : List Template.Item) (told : List Message) : Outcome :=
  let (dialect, warnings) := flags.dialectOf preferences
  let told := told ++ warnings
  match place.absolute? (modulePath dialect (flags.path preferences)) with
  | none => ⟨told, some .emptyPath, place.files⟩
  | some path =>
    let source := Module.source dialect items
    match deliver place.files path source (flags.mayOverwrite preferences) with
    | (files, some failure) => ⟨told, some failure, files⟩
    | (files, none) => ⟨told ++ [.success ("Generated config at: " ++ path)], none, files⟩

/-- Generate a module from a template. -/
def init (place : Place) (preferences : Preferences) (flags : InitFlags) : Outcome :=
  match examine place preferences flags.about with
  | .error failure => ⟨[], some failure, place.files⟩
  | .ok examined =>
    let told := examined.warnings ++ examined.diagnostics
    match examined.failure? with
    | some failure => ⟨told, some failure, place.files⟩
    | none =>
      generate place preferences flags examined.reading.items
        (told ++ [.note ("Parsed " ++ toString examined.reading.items.length ++ " keys from " ++
          examined.path)])

end EnvTemplate.CommandLine
