import EnvTemplate.CommandLine.About
import EnvTemplate.CommandLine.Arguments
import EnvTemplate.CommandLine.Check
import EnvTemplate.CommandLine.Init

/-!
# Running a command

A run loads the settings first, whatever the command is, and then does what the command asks for.
Without a command it shows the help.
-/
namespace EnvTemplate.CommandLine

open Settings (Environment Preferences)

/-- Do what a command asks for. -/
def perform (build : Build) (place : Place) (preferences : Preferences) :
    Option Command → Outcome
  | some (.init flags) => init place preferences flags
  | some (.check flags) => check place preferences flags
  | some .version => ⟨versionMessages build, none, place.files⟩
  | none => ⟨[.document helpText], none, place.files⟩

/-- Load the settings and do what an invocation asks for. -/
def run (build : Build) (place : Place) (environment : Environment) (invocation : Invocation) :
    Outcome :=
  match Settings.load place.files place.directory environment invocation.settings with
  | .error reason => ⟨[], some (.settings reason), place.files⟩
  | .ok preferences => perform build place preferences invocation.command

end EnvTemplate.CommandLine
