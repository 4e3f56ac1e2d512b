import EnvTemplate.Proofs.CommandLine.Ending
import EnvTemplate.Proofs.Text.Lines

/-!
# The exit status

The status of a run on a template is decided by a list of conditions, of which the first that is met
counts. Whenever the status is not zero, the last line that is shown with the problems tells why,
and it is a line of its own.
-/
namespace EnvTemplate

/-- Two finished texts are finished together. -/
theorem Text.IsFinished.append {first second : List Char} (left : IsFinished first)
    (right : IsFinished second) : IsFinished (first ++ second) := by
  rcases right with rfl | ended
  · rwa [List.append_nil]
  · obtain ⟨front, rfl⟩ := List.getLast?_eq_some_iff.mp ended
    exact .inr (by rw [← List.append_assoc, List.getLast?_concat])

namespace CommandLine

open Settings (Environment Preferences)

variable {place : Place} {environment : Environment} {settings : Option String} {flags : InitFlags}
  {failure : Option Failure} {files : FileSystem}

/-- The status of a run that is to generate a module: the first of the conditions that is met
decides. -/
def initStatus (place : Place) (environment : Environment) (settings : Option String)
    (flags : InitFlags) : Nat :=
  match reading? place environment settings flags.about with
  | none => 1
  | some (preferences, reading) =>
    if reading.hasErrors then 4
    else
      match modulePath? place preferences flags with
      | none => 1
      | some path =>
        let made := (prepare place.files path).1
        if ¬CanPrepare place.files path then 1
        else if made.exists? path ∧ ¬(flags.force ∨ preferences.force) then 2
        else
          match made.writeText path
            (Module.source (flags.dialectOf preferences).1 reading.items) with
          | .error _ => 1
          | .ok _ => 0

/-- The status of a run that is to check a template. -/
def checkStatus (place : Place) (environment : Environment) (settings : Option String)
    (flags : CheckFlags) : Nat :=
  match reading? place environment settings flags.about with
  | none => 1
  | some (_, reading) => if reading.hasErrors then 4 else 0

/-- Something may be overwritten when the flags or the settings allow it. -/
theorem mayOverwrite_iff {preferences : Preferences} :
    flags.mayOverwrite preferences = true ↔ flags.force = true ∨ preferences.force = true := by
  rw [InitFlags.mayOverwrite, Bool.or_eq_true]

/-- Nothing is in the way of a module when what is at its path may be overwritten. -/
theorem not_clash {preferences : Preferences} {made : FileSystem} {path : String}
    (allowed : made.exists? path = true → flags.mayOverwrite preferences = true) :
    ¬(made.exists? path = true ∧ ¬(flags.force = true ∨ preferences.force = true)) := by
  rw [← mayOverwrite_iff]
  rintro ⟨present, kept⟩
  exact kept (allowed present)

/-- The way in which the generation of a module ends decides its status. -/
theorem Ends.status (ends : Ends place environment settings flags failure files) :
    (failure.map Failure.status).getD 0 = initStatus place environment settings flags := by
  unfold initStatus
  cases ends with
  | unread nothing early status => simp [nothing, status]
  | faulty read errors => simp [read, errors, Failure.status]
  | pathless read fine unresolved => simp [read, fine, unresolved, Failure.status]
  | blocked aims unable => simp [aims.read, aims.fine, aims.resolved, unable, Failure.status]
  | @taken preferences reading path aims able present kept =>
    have clash : (prepare place.files path).1.exists? path = true ∧
        ¬(flags.force = true ∨ preferences.force = true) := by
      rw [← mayOverwrite_iff, kept]
      exact ⟨present, Bool.false_ne_true⟩
    simp only [aims.read, aims.fine, aims.resolved, able, clash]
    rfl
  | @unwritten preferences reading path fault aims able allowed refused =>
    have clear := not_clash allowed
    simp only [aims.read, aims.fine, aims.resolved, able, clear, refused]
    rfl
  | @written preferences reading path files aims able allowed done =>
    have clear := not_clash allowed
    simp only [aims.read, aims.fine, aims.resolved, able, clear, done]
    rfl

/-- A message that is shown with the problems is a whole number of lines. -/
theorem isFinished_text {message : Message} (shown : message.channel = .errors) :
    Text.IsFinished message.text.toList := by
  have ended (text : String) : Text.IsFinished (text ++ "\n").toList := by
    rw [String.toList_append]
    exact .inr List.getLast?_concat
  cases message with
  | warning text => exact ended _
  | diagnostic found => exact ended _
  | failure text => exact ended _
  | _ => cases shown

/-- Messages are shown one after the other. -/
theorem shownOn_append (channel : Channel) (voice : Voice) (first second : List Message) :
    shownOn channel voice (first ++ second) =
      shownOn channel voice first ++ shownOn channel voice second := by
  simp only [shownOn, List.filter_append, List.map_append, String.join_append]

/-- What is shown with the problems is a whole number of lines. -/
theorem isFinished_shownOn_errors (voice : Voice) (messages : List Message) :
    Text.IsFinished (shownOn .errors voice messages).toList := by
  induction messages with
  | nil => exact .inl rfl
  | cons message rest ih =>
    rw [← List.singleton_append, shownOn_append, String.toList_append]
    refine Text.IsFinished.append ?_ ih
    by_cases shown : message.channel = .errors ∧ message.appears voice = true
    · have alone : shownOn .errors voice [message] = message.text := by
        simp [shownOn, shown.1, shown.2]
      rw [alone]
      exact isFinished_text shown.1
    · have nothing : shownOn .errors voice [message] = "" := by
        simp [shownOn, shown]
      rw [nothing]
      exact .inl rfl

/-- The failure of a run is the last line that is shown with the problems. -/
theorem errors_of_failure {outcome : Outcome} {reason : Failure} (voice : Voice)
    (failed : outcome.failure = some reason) :
    ∃ front, Text.IsFinished front.toList ∧
      outcome.errors voice = front ++ ("✖ " ++ reason.message ++ "\n") := by
  refine ⟨shownOn .errors voice outcome.told, isFinished_shownOn_errors voice outcome.told, ?_⟩
  have last : shownOn .errors voice [.failure reason.message] = "✖ " ++ reason.message ++ "\n" := by
    simp [shownOn, Message.channel, Message.appears, Message.text]
  rw [Outcome.errors, Outcome.messages, failed, shownOn_append, ← last]
  rfl

/-- The status of a run that is to check a template. -/
theorem status_check (build : Build) (place : Place) (environment : Environment)
    (settings : Option String) (voice : Voice) (flags : CheckFlags) :
    (run build place environment ⟨settings, voice, some (.check flags)⟩).status =
      checkStatus place environment settings flags := by
  unfold run checkStatus
  cases loaded : Settings.load place.files place.directory environment settings with
  | error reason =>
    rw [reading?_of_not_loaded loaded]
    rfl
  | ok preferences =>
    have examined := examine_spec place preferences flags.about
    rw [reading?_of_loaded flags.about loaded]
    simp only [perform, check]
    cases done : examine place preferences flags.about with
    | error failure =>
      rw [done] at examined
      obtain ⟨nothing, _, status⟩ := examined
      simp [nothing, Outcome.status, status]
    | ok found =>
      rw [done] at examined
      obtain ⟨text, here, same⟩ := examined
      rw [here, Option.map_some, ← same]
      cases errors : found.reading.hasErrors with
      | true => simp [Outcome.status, Examined.failure?, errors, Failure.status]
      | false => simp [Outcome.status, Examined.failure?, errors]

/-- **The exit status.** The generation of a module and the check of a template end with the status
that their conditions decide. Whatever the command is, a run with a status other than zero shows the
failure in the last line of the problems. -/
theorem status_run (build : Build) (place : Place) (environment : Environment)
    (settings : Option String) (voice : Voice) :
    (∀ flags, (run build place environment ⟨settings, voice, some (.init flags)⟩).status =
      initStatus place environment settings flags) ∧
    (∀ flags, (run build place environment ⟨settings, voice, some (.check flags)⟩).status =
      checkStatus place environment settings flags) ∧
    ∀ command, (run build place environment ⟨settings, voice, command⟩).status ≠ 0 →
      ∃ reason front, (run build place environment ⟨settings, voice, command⟩).failure =
          some reason ∧ Text.IsFinished front.toList ∧
        (run build place environment ⟨settings, voice, command⟩).errors voice =
          front ++ ("✖ " ++ reason.message ++ "\n") := by
  refine ⟨?_, ?_, ?_⟩
  · intro flags
    exact (ends_run build place environment settings voice flags).status
  · intro flags
    exact status_check build place environment settings voice flags
  · intro command failed
    rw [Ne, Outcome.status_eq_zero_iff] at failed
    obtain ⟨reason, told⟩ := Option.ne_none_iff_exists'.mp failed
    obtain ⟨front, finished, shown⟩ := errors_of_failure voice told
    exact ⟨reason, front, told, finished, shown⟩

end CommandLine

end EnvTemplate
