import EnvTemplate.CommandLine.Message
import EnvTemplate.Settings.Load

/-!
# Outcomes

How a run can fail, with the status of each failure, and what a run leaves: its messages, its
failure if there is one, and the file system after it.
-/
namespace EnvTemplate.CommandLine

/-- Why a run fails. -/
inductive Failure
  /-- The settings cannot be loaded. -/
  | settings (reason : Settings.SettingsError)
  /-- A path is empty. -/
  | emptyPath
  /-- There is no template. -/
  | templateMissing (path : String)
  /-- The template cannot be read. -/
  | templateUnreadable (path : String) (fault : Fault)
  /-- The template has errors. -/
  | templateErrors
  /-- A directory for the module cannot be made. -/
  | directoryNotMade (path : String) (fault : Fault)
  /-- The module would overwrite something. -/
  | outputExists (path : String)
  /-- The module cannot be written. -/
  | outputNotWritten (path : String) (fault : Fault)

namespace Failure

/-- The wording of a failure. -/
def message : Failure → String
  | settings reason => reason.report
  | emptyPath => "Failed to resolve path : cannot make an empty path absolute"
  | templateMissing path => ".env.example not found at: " ++ path
  | templateUnreadable path fault => "Failed to read " ++ path ++ ": " ++ fault.message
  | templateErrors => "Aborting due to parser errors. Fix .env.example and try again."
  | directoryNotMade path fault => "Failed to create directory " ++ path ++ ": " ++ fault.message
  | outputExists path => "File exists: " ++ path ++ ". Use --force to overwrite."
  | outputNotWritten path fault => "Failed to write " ++ path ++ ": " ++ fault.message

/-- The exit status of a failure. -/
def status : Failure → Nat
  | templateErrors => 4
  | outputExists _ => 2
  | _ => 1

end Failure

/-- What a run leaves. -/
structure Outcome where
  /-- What was told before a failure. -/
  told : List Message
  /-- The failure, if the run failed. -/
  failure : Option Failure
  /-- The file system after the run. -/
  files : FileSystem

namespace Outcome

/-- The exit status of a run. -/
def status (outcome : Outcome) : Nat := (outcome.failure.map Failure.status).getD 0

/-- All messages of a run; a failure is told last. -/
def messages (outcome : Outcome) : List Message :=
  outcome.told ++ (outcome.failure.map fun failure => .failure failure.message).toList

/-- What a run shows with its results. -/
def output (outcome : Outcome) (voice : Voice) : String :=
  shownOn .output voice outcome.messages

/-- What a run shows with its problems. -/
def errors (outcome : Outcome) (voice : Voice) : String :=
  shownOn .errors voice outcome.messages

end Outcome

end EnvTemplate.CommandLine
