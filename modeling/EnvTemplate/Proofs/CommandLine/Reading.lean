import EnvTemplate.CommandLine.Examine

/-!
# What a run has to read

Before anything else the commands on a template need the settings and the text of the template.
Where both can be had the template is read as the flags and the settings ask for; otherwise the run
fails early, with the status of failures that have none of their own.
-/
namespace EnvTemplate

/-- Where a text is read something is. -/
theorem FileSystem.exists?_of_readText {fs : FileSystem} {path text : String}
    (done : fs.readText path = .ok text) : fs.exists? path = true := by
  unfold readText at done
  unfold exists?
  cases found : fs.find path with
  | error fault =>
    rw [found] at done
    cases done
  | ok held => rfl

namespace CommandLine

open Settings (Environment Preferences)

variable {place : Place} {path : String} {flags : TemplateFlags} {preferences : Preferences}
  {failure : Failure} {environment : Environment} {settings : Option String}

/-- The text of the template at a path. There is none when the path has no absolute form, when
nothing is there, and when what is there cannot be read as text. -/
def Place.templateText? (place : Place) (path : String) : Option String :=
  (place.absolute? path).bind fun full => (place.files.readText full).toOption

/-- The settings of a run and what its template reads as. There are none when the settings cannot
be loaded or the template has no text. -/
def reading? (place : Place) (environment : Environment) (settings : Option String)
    (flags : TemplateFlags) : Option (Preferences × Template.Reading) :=
  match Settings.load place.files place.directory environment settings with
  | .error _ => none
  | .ok preferences =>
    (place.templateText? (flags.path preferences)).map fun text =>
      (preferences, Template.read (flags.options preferences) text)

namespace Failure

/-- Whether a failure is met before anything is written: it is about the settings, about a path
without an absolute form, or about the template. -/
def IsEarly : Failure → Prop
  | .settings _ => True
  | .emptyPath => True
  | .templateMissing _ => True
  | .templateUnreadable _ _ => True
  | .templateErrors => True
  | .directoryNotMade _ _ => False
  | .outputExists _ => False
  | .outputNotWritten _ _ => False

/-- No failure has the status of success. -/
theorem status_ne_zero (failure : Failure) : failure.status ≠ 0 := by
  cases failure <;> simp [status]

end Failure

/-- The status is zero when nothing failed. -/
theorem Outcome.status_eq_zero_iff {outcome : Outcome} :
    outcome.status = 0 ↔ outcome.failure = none := by
  unfold status
  cases outcome.failure with
  | none => simp
  | some failure => simp [failure.status_ne_zero]

/-- Finding the template ends with its text, or early when it has none. -/
theorem readTemplate_spec (place : Place) (path : String) :
    match readTemplate place path with
    | .error failure =>
      place.templateText? path = none ∧ failure.IsEarly ∧ failure.status = 1
    | .ok (_, text) => place.templateText? path = some text := by
  unfold readTemplate Place.templateText?
  cases place.absolute? path with
  | none => exact ⟨rfl, trivial, rfl⟩
  | some full =>
    simp only [Option.bind_some]
    cases done : place.files.readText full with
    | ok text =>
      rw [if_pos (FileSystem.exists?_of_readText done)]
      rfl
    | error fault =>
      by_cases there : place.files.exists? full = true
      · rw [if_pos there]
        exact ⟨rfl, trivial, rfl⟩
      · rw [if_neg there]
        exact ⟨rfl, trivial, rfl⟩

/-- Examining the template ends with what its text reads as, or early when it has none. -/
theorem examine_spec (place : Place) (preferences : Preferences) (flags : TemplateFlags) :
    match examine place preferences flags with
    | .error failure =>
      place.templateText? (flags.path preferences) = none ∧ failure.IsEarly ∧ failure.status = 1
    | .ok examined =>
      ∃ text, place.templateText? (flags.path preferences) = some text ∧
        examined.reading = Template.read (flags.options preferences) text := by
  have found := readTemplate_spec place (flags.path preferences)
  unfold examine
  cases read : readTemplate place (flags.path preferences) with
  | error failure =>
    rw [read] at found
    exact found
  | ok held =>
    rw [read] at found
    exact ⟨held.2, found, rfl⟩

/-- Without settings there is nothing to read. -/
theorem reading?_of_not_loaded {reason : Settings.SettingsError}
    (failed : Settings.load place.files place.directory environment settings = .error reason) :
    reading? place environment settings flags = none := by
  rw [reading?, failed]

/-- With settings the template is read when it has a text. -/
theorem reading?_of_loaded (flags : TemplateFlags)
    (loaded : Settings.load place.files place.directory environment settings = .ok preferences) :
    reading? place environment settings flags =
      (place.templateText? (flags.path preferences)).map fun text =>
        (preferences, Template.read (flags.options preferences) text) := by
  rw [reading?, loaded]

/-- What there is to read comes from the settings and from the text of the template. -/
theorem exists_of_reading? {reading : Template.Reading}
    (read : reading? place environment settings flags = some (preferences, reading)) :
    ∃ text, Settings.load place.files place.directory environment settings = .ok preferences ∧
      place.templateText? (flags.path preferences) = some text ∧
        reading = Template.read (flags.options preferences) text := by
  cases loaded : Settings.load place.files place.directory environment settings with
  | error reason =>
    rw [reading?_of_not_loaded loaded] at read
    cases read
  | ok found =>
    rw [reading?_of_loaded flags loaded] at read
    obtain ⟨text, here, same⟩ := Option.map_eq_some_iff.mp read
    obtain ⟨rfl, rfl⟩ := Prod.mk.inj same
    exact ⟨text, rfl, here, rfl⟩

end CommandLine

end EnvTemplate
