import EnvTemplate.CommandLine.Outcome
import EnvTemplate.Template.Reading

/-!
# Examining a template

What the commands on a template have in common: finding the template, choosing how it is read, and
reading it. A flag counts before the setting of the same thing, and a switch counts when either is
set.
-/
namespace EnvTemplate.CommandLine

open Settings (Preferences)

/-- Where a run takes place. -/
structure Place where
  /-- The files. -/
  files : FileSystem
  /-- The working directory. -/
  directory : Location

/-- The absolute form of a path at a place. -/
def Place.absolute? (place : Place) (path : String) : Option String :=
  Path.absolute? (Path.ofNames place.directory) path

/-- A value by its name, or a default with a warning when the name is unknown. -/
def orDefault {α : Type} (named : Option α) (standard : α) (warning : String) :
    α × List Message :=
  match named with
  | some value => (value, [])
  | none => (standard, [.warning warning])

namespace TemplateFlags

/-- The path of the template. -/
def path (flags : TemplateFlags) (preferences : Preferences) : String :=
  flags.template.getD preferences.template

/-- Whether groups are disregarded. -/
def isFlat (flags : TemplateFlags) (preferences : Preferences) : Bool :=
  flags.flat || preferences.flat

/-- The grouping; an unknown name counts as the default, with a warning. -/
def groupingOf (flags : TemplateFlags) (preferences : Preferences) :
    Template.Grouping × List Message :=
  let name := flags.grouping.getD preferences.grouping
  orDefault (Template.Grouping.ofName? name) .explicit
    ("Unknown --group mode \"" ++ name ++ "\", falling back to \"explicit\".")

/-- How the template is read. -/
def options (flags : TemplateFlags) (preferences : Preferences) : Template.Options where
  grouped := !flags.isFlat preferences
  grouping := (flags.groupingOf preferences).1
  blankCloses := true
  flat := flags.isFlat preferences

end TemplateFlags

/-- A template that was read. -/
structure Examined where
  /-- Its absolute path. -/
  path : String
  /-- The warnings about the flags. -/
  warnings : List Message
  /-- What it declares and what is wrong with it. -/
  reading : Template.Reading
deriving DecidableEq, Repr

namespace Examined

/-- The messages about the problems of the template. -/
def diagnostics (examined : Examined) : List Message :=
  examined.reading.diagnostics.map .diagnostic

/-- The failure of a template with errors. -/
def failure? (examined : Examined) : Option Failure :=
  if examined.reading.hasErrors then some .templateErrors else none

end Examined

/-- Find the template and its text. -/
def readTemplate (place : Place) (path : String) : Except Failure (String × String) :=
  match place.absolute? path with
  | none => .error .emptyPath
  | some path =>
    if place.files.exists? path then
      match place.files.readText path with
      | .ok text => .ok (path, text)
      | .error fault => .error (.templateUnreadable path fault)
    else .error (.templateMissing path)

/-- Find and read the template. -/
def examine (place : Place) (preferences : Preferences) (flags : TemplateFlags) :
    Except Failure Examined :=
  match readTemplate place (flags.path preferences) with
  | .error failure => .error failure
  | .ok (path, text) =>
    .ok ⟨path, (flags.groupingOf preferences).2, Template.read (flags.options preferences) text⟩

end EnvTemplate.CommandLine
