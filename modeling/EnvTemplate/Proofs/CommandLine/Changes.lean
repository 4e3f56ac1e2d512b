import EnvTemplate.Proofs.CommandLine.Ending
import EnvTemplate.Proofs.FileSystem.Writing

/-!
# What the generation of a module changes

A run that fails leaves all files as they were: it has added at most directories around the module
it was to write, and nothing when it fails early. A run that comes to its end has written the
module, and besides it has added directories around it only.
-/
namespace EnvTemplate.CommandLine

open Settings (Environment Preferences)
open FileSystem (Adds Around bytesOf)

variable {place : Place} {environment : Environment} {settings : Option String} {flags : InitFlags}
  {failure : Failure} {files : FileSystem}

/-- The path of a module as it comes from the path that was asked for: the ending of a JavaScript
file becomes that of a TypeScript file when the module is TypeScript. -/
inductive NamedFrom : Module.Dialect → String → String → Prop
  /-- A module that is no TypeScript has the path that was asked for. -/
  | javaScript {dialect : Module.Dialect} {path : String} (other : dialect ≠ .ts) :
      NamedFrom dialect path path
  /-- An ending goes. -/
  | renamed {stem ending : String} (listed : ending ∈ [".jsx", ".js"]) :
      NamedFrom .ts (stem ++ ending) (stem ++ ".ts")
  /-- A path without such an ending is kept. -/
  | typeScript {path : String}
      (unended : ∀ ending ∈ [".jsx", ".js"], ∀ stem, path ≠ stem ++ ending) :
      NamedFrom .ts path path

/-- The path of a module comes from the path that was asked for. -/
theorem namedFrom_modulePath (dialect : Module.Dialect) (path : String) :
    NamedFrom dialect path (modulePath dialect path) := by
  cases dialect with
  | ts =>
    unfold modulePath
    cases dropped : Path.withoutEnding? path [".jsx", ".js"] with
    | some stem =>
      obtain ⟨ending, listed, rfl⟩ := Path.exists_of_withoutEnding? dropped
      exact .renamed listed
    | none =>
      exact .typeScript fun ending listed => Path.ne_append_of_withoutEnding? dropped listed
  | js => exact .javaScript (by decide)
  | cjs => exact .javaScript (by decide)

/-- A run that ends with a failure changes nothing, or it knew the path of the module and added
directories around that path. -/
theorem Ends.of_failure (ends : Ends place environment settings flags (some failure) files) :
    files = place.files ∨
      ¬failure.IsEarly ∧ ∃ preferences reading path,
        AimsAt place environment settings flags preferences reading path ∧
          Adds (Around path) place.files files := by
  cases ends with
  | unread nothing early status => exact .inl rfl
  | faulty read errors => exact .inl rfl
  | pathless read fine unresolved => exact .inl rfl
  | blocked aims unable => exact .inr ⟨id, _, _, _, aims, prepare_adds _ _⟩
  | taken aims able present kept => exact .inr ⟨id, _, _, _, aims, prepare_adds _ _⟩
  | unwritten aims able allowed refused => exact .inr ⟨id, _, _, _, aims, prepare_adds _ _⟩

/-- A run that ends without a failure has written the module at its path, and besides it has added
directories around that path only. -/
theorem Ends.of_success (ends : Ends place environment settings flags none files) :
    ∃ preferences reading path location,
      AimsAt place environment settings flags preferences reading path ∧
        files.find path = .ok (location, .file
          (bytesOf (Module.source (flags.dialectOf preferences).1 reading.items))) ∧
        ∀ other, other ≠ location →
          files.entry? other = place.files.entry? other ∨
            place.files.entry? other = none ∧ files.entry? other = some .directory ∧
              Around path other := by
  cases ends with
  | @written preferences reading path files aims able allowed done =>
    obtain ⟨location, found, kept⟩ := FileSystem.writeText_spec done
    refine ⟨preferences, reading, path, location, aims, found, ?_⟩
    intro other apart
    rw [kept other apart]
    exact prepare_adds place.files path other

/-- **A run that fails keeps all files.** When the generation of a module ends with a status other
than zero, every file has its content and no file is new. A failure about the settings, the template
or a path leaves everything as it was, and so does a template that cannot be had or has errors. Any
other failure has at most added directories where the path of the module passes. -/
theorem files_of_failed_run (build : Build) (place : Place) (environment : Environment)
    (settings : Option String) (voice : Voice) (flags : InitFlags)
    (failed : (run build place environment ⟨settings, voice, some (.init flags)⟩).status ≠ 0) :
    let outcome := run build place environment ⟨settings, voice, some (.init flags)⟩
    outcome.files.content? = place.files.content? ∧
      (∀ failure, outcome.failure = some failure → failure.IsEarly →
        outcome.files = place.files) ∧
      ((∀ preferences reading,
        reading? place environment settings flags.about = some (preferences, reading) →
          reading.hasErrors = true) → outcome.files = place.files) ∧
      (outcome.files = place.files ∨ ∃ preferences reading path,
        AimsAt place environment settings flags preferences reading path ∧
          Adds (Around path) place.files outcome.files) := by
  intro outcome
  have ends : Ends place environment settings flags outcome.failure outcome.files :=
    ends_run build place environment settings voice flags
  cases failure : outcome.failure with
  | none => exact absurd (Outcome.status_eq_zero_iff.mpr failure) failed
  | some reason =>
    rw [failure] at ends
    rcases ends.of_failure with same | ⟨late, preferences, reading, path, aims, adds⟩
    · rw [same]
      exact ⟨rfl, fun _ _ _ => rfl, fun _ => rfl, .inl rfl⟩
    · refine ⟨adds.content?_eq, ?_, ?_, .inr ⟨preferences, reading, path, aims, adds⟩⟩
      · intro other same early
        injection same with same
        exact absurd (same ▸ early) late
      · intro faulty
        have errors := faulty preferences reading aims.read
        rw [aims.fine] at errors
        cases errors

/-- A place with nothing but a template in its working directory. -/
def templateOnly : Place where
  files := ⟨[(["work"], .directory), (["work", ".env.example"], .file (bytesOf "PORT=3000\n"))]⟩
  directory := ["work"]

/-- The flags that ask for a module in the place of the template, which may be overwritten or not.
The path leads through a directory that has to be made. -/
def overTemplate (force : Bool) : InitFlags where
  about := ⟨none, none, false⟩
  output := some "gen/../.env.example"
  ts := false
  cjs := false
  force := force

/-- The run with these flags. -/
def runOverTemplate (force : Bool) : Outcome :=
  run ⟨"x86_64", "release"⟩ templateOnly [] ⟨none, ⟨0, false⟩, some (.init (overTemplate force))⟩

/-- A module that would overwrite the template is refused. The directory on the way to it stays, and
the template has its text. -/
theorem directory_of_refused_run :
    (runOverTemplate false).status ≠ 0 ∧
      FileSystem.entry? (runOverTemplate false).files ["work", "gen"] = some .directory ∧
      (runOverTemplate false).files.content? = templateOnly.files.content? := by
  have failed : (runOverTemplate false).status ≠ 0 := by decide +kernel
  have made :
      FileSystem.entry? (runOverTemplate false).files ["work", "gen"] = some .directory := by
    decide +kernel
  have kept := files_of_failed_run ⟨"x86_64", "release"⟩ templateOnly [] none ⟨0, false⟩
    (overTemplate false) failed
  exact ⟨failed, made, kept.1⟩

/-- **A run that comes to its end has written the module.** When the generation of a module ends
with the status zero, the settings were loaded, the template had a text, and the path of the module
has an absolute form. A file with exactly the source of the module for the items of the template, as
it was before the run, is found at that path. Everywhere else nothing has changed, save for new
directories where the path passes. -/
theorem files_of_finished_run (build : Build) (place : Place) (environment : Environment)
    (settings : Option String) (voice : Voice) (flags : InitFlags)
    (finished : (run build place environment ⟨settings, voice, some (.init flags)⟩).status = 0) :
    let outcome := run build place environment ⟨settings, voice, some (.init flags)⟩
    ∃ preferences text named path location,
      let items := (Template.read (flags.about.options preferences) text).items
      let source := Module.source (flags.dialectOf preferences).1 items
      Settings.load place.files place.directory environment settings = .ok preferences ∧
        place.templateText? (flags.about.path preferences) = some text ∧
        NamedFrom (flags.dialectOf preferences).1 (flags.output.getD preferences.output) named ∧
        place.absolute? named = some path ∧
        outcome.files.find path = .ok (location, .file (bytesOf source)) ∧
        outcome.files.readText path = .ok source ∧
        ∀ other, other ≠ location →
          outcome.files.entry? other = place.files.entry? other ∨
            place.files.entry? other = none ∧ outcome.files.entry? other = some .directory ∧
              Around path other := by
  intro outcome
  have success : outcome.failure = none := Outcome.status_eq_zero_iff.mp finished
  have ends : Ends place environment settings flags outcome.failure outcome.files :=
    ends_run build place environment settings voice flags
  rw [success] at ends
  obtain ⟨preferences, reading, path, location, aims, found, frame⟩ := ends.of_success
  obtain ⟨text, loaded, here, rfl⟩ := exists_of_reading? aims.read
  have named := namedFrom_modulePath (flags.dialectOf preferences).1 (flags.path preferences)
  exact ⟨preferences, text, _, path, location, loaded, here, named, aims.resolved, found,
    FileSystem.readText_of_find found, frame⟩

/-- A module may be written over the template that it is generated from: a text is read at its path,
and everywhere else there are only new directories. -/
theorem source_over_template :
    (runOverTemplate true).status = 0 ∧ ∃ path source location,
      (runOverTemplate true).files.readText path = .ok source ∧
        ∀ other, other ≠ location →
          FileSystem.entry? (runOverTemplate true).files other = templateOnly.files.entry? other ∨
            FileSystem.entry? (runOverTemplate true).files other = some .directory := by
  have finished : (runOverTemplate true).status = 0 := by decide +kernel
  obtain ⟨preferences, text, named, path, location, _, _, _, _, _, read, frame⟩ :=
    files_of_finished_run ⟨"x86_64", "release"⟩ templateOnly [] none ⟨0, false⟩ (overTemplate true)
      finished
  refine ⟨finished, path, _, location, read, ?_⟩
  intro other apart
  exact (frame other apart).imp_right fun ⟨_, made, _⟩ => made

end EnvTemplate.CommandLine
