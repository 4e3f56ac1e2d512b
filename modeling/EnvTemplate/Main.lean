import EnvTemplate.CommandLine.Run

/-!
# The program

The outer layer: it reads the arguments, the environment and those files and directories that the
run can depend on, lets the library decide, and then writes what changed and what is to be shown.
-/
namespace EnvTemplate.Main

open CommandLine Settings

/-- Add to a file system what the disk holds at the prefixes of an absolute path. -/
def observe (fs : FileSystem) (path : String) : IO FileSystem := do
  let here ← IO.currentDir
  let names := Path.names path
  let mut seen := fs
  for count in List.range names.length do
    let part := names.take (count + 1)
    match seen.follow [] part with
    | .error _ => pure ()
    | .ok location =>
      if (seen.entry? location).isNone then
        let disk := here / Path.ofNames part
        if ← disk.isDir then seen := seen.put location .directory
        else if ← disk.pathExists then
          seen := seen.put location (.file (← IO.FS.readBinFile disk).data.toList)
  return seen

/-- Add to a file system what the disk holds at the prefixes of absolute paths. -/
def observeAll (fs : FileSystem) (paths : List String) : IO FileSystem :=
  paths.foldlM observe fs

/-- The variables of the environment. -/
def environment : IO Environment := do
  let bytes ← try IO.FS.readBinFile "/proc/self/environ" catch _ => pure ⟨#[]⟩
  let text := (String.fromUTF8? bytes).getD ""
  return (Text.splitOn '\x00' text.toList).filterMap fun entry =>
    match entry.dropWhile (· ≠ '=') with
    | _ :: value =>
      some (String.ofList (entry.takeWhile (· ≠ '=')), String.ofList value)
    | [] => none

/-- The absolute paths at which the settings files of a run are looked for. -/
def settingsPaths (directory : Location) (custom : Option String) : List String :=
  (settingsFiles custom).flatMap fun file =>
    (searchDirectories directory).map fun place => Path.join place file.2

/-- The absolute paths of the template and the module of a command. -/
def commandPaths (place : Place) (preferences : Preferences) : Option Command → List String
  | some (.init flags) =>
    [flags.about.path preferences,
      modulePath (flags.dialectOf preferences).1 (flags.path preferences)].filterMap place.absolute?
  | some (.check flags) => [flags.about.path preferences].filterMap place.absolute?
  | _ => []

/-- Write to the disk what a run changed. -/
def apply (before after : FileSystem) : IO Unit := do
  let here ← IO.currentDir
  for (location, entry) in after.entries do
    if before.entry? location ≠ some entry then
      let disk := here / Path.ofNames location
      match entry with
      | .directory => IO.FS.createDir disk
      | .file content => IO.FS.writeBinFile disk ⟨content.toArray⟩

/-- Run an invocation on the disk and return its exit status. -/
def runOnDisk (invocation : Invocation) : IO UInt32 := do
  let build : Build := ⟨"x86_64", "release"⟩
  let directory := Path.names (← IO.currentDir).toString
  let surroundings ← environment
  let around ← observeAll ⟨[]⟩
    (Path.ofNames directory :: settingsPaths directory invocation.settings)
  let wanted := match load around directory surroundings invocation.settings with
    | .ok preferences => commandPaths ⟨around, directory⟩ preferences invocation.command
    | .error _ => []
  let place : Place := ⟨← observeAll around wanted, directory⟩
  let outcome := run build place surroundings invocation
  apply place.files outcome.files
  IO.print (outcome.output invocation.voice)
  IO.eprint (outcome.errors invocation.voice)
  return outcome.status.toUInt32

end EnvTemplate.Main

open EnvTemplate EnvTemplate.CommandLine in
/-- The program. -/
def main (arguments : List String) : IO UInt32 := do
  match Invocation.ofArguments arguments with
  | .ok invocation => Main.runOnDisk invocation
  | .error (.version program) =>
    IO.print (versionLine program)
    return 0
  | .error .help =>
    IO.print helpText
    return 0
  | .error (.refused _) =>
    IO.eprint helpText
    return 2
