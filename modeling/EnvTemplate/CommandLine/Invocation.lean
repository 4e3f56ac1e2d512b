import EnvTemplate.FileSystem.Basic

/-!
# Invocations

What a command line asks for: the flags that hold for every command, and the command with flags of
its own.
-/
namespace EnvTemplate.CommandLine

/-- The forms of a report on a template. -/
inductive ReportFormat
  /-- Lines of text. -/
  | text
  /-- A JSON document. -/
  | json
deriving DecidableEq, Repr

/-- The flags that choose a template and how it is read. -/
structure TemplateFlags where
  /-- The path of the template. -/
  template : Option String
  /-- The name of the grouping. -/
  grouping : Option String
  /-- Whether groups are disregarded. -/
  flat : Bool
deriving DecidableEq, Repr

/-- The flags of the command that generates a module. -/
structure InitFlags where
  /-- The flags about the template. -/
  about : TemplateFlags
  /-- The path of the generated module. -/
  output : Option String
  /-- Whether the module is TypeScript. -/
  ts : Bool
  /-- Whether the module is in the way of CommonJS. -/
  cjs : Bool
  /-- Whether an existing file may be overwritten. -/
  force : Bool
deriving DecidableEq, Repr

/-- The flags of the command that checks a template. -/
structure CheckFlags where
  /-- The flags about the template. -/
  about : TemplateFlags
  /-- The form of the report. -/
  format : ReportFormat
deriving DecidableEq, Repr

/-- The commands. -/
inductive Command
  /-- Generate a module from a template. -/
  | init (flags : InitFlags)
  /-- Check a template. -/
  | check (flags : CheckFlags)
  /-- Tell the version. -/
  | version
deriving DecidableEq, Repr

/-- How much a run tells. -/
structure Voice where
  /-- How often more was asked for. -/
  verbosity : Nat
  /-- Whether only errors and what was asked for are told. -/
  quiet : Bool
deriving DecidableEq, Repr

/-- What a command line asks for. -/
structure Invocation where
  /-- The settings file that was asked for. -/
  settings : Option String
  /-- How much the run tells. -/
  voice : Voice
  /-- The command, if one is given. -/
  command : Option Command
deriving DecidableEq, Repr

end EnvTemplate.CommandLine
