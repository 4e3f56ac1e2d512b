import EnvTemplate.Proofs.CommandLine.Session
import EnvTemplate.Proofs.CommandLine.Status

/-!
# Checking before generating

The check of a template and the generation of a module from it begin alike: both load the settings
and read the template, and neither goes on when the template has errors. A check therefore fails
exactly when the generation stops before it comes to the module, and it tells the same problems. The
generation can only add problems of its own to them, and these are about the path of the module.
-/
namespace EnvTemplate.CommandLine

open Settings (Environment Preferences)

variable {place : Place} {environment : Environment} {settings : Option String}
  {failure : Failure} {preferences : Preferences}

/-- The failures that a command meets before it goes on with the template: in the settings, on the
way to the template, or in the template. -/
inductive Stops (place : Place) (environment : Environment) (settings : Option String)
    (flags : TemplateFlags) : Failure → Prop
  /-- The settings cannot be loaded. -/
  | unsettled {reason : Settings.SettingsError}
      (failed : Settings.load place.files place.directory environment settings = .error reason) :
      Stops place environment settings flags (.settings reason)
  /-- The path of the template has no absolute form. -/
  | pathless {preferences : Preferences}
      (loaded : Settings.load place.files place.directory environment settings = .ok preferences)
      (unresolved : place.absolute? (flags.path preferences) = none) :
      Stops place environment settings flags .emptyPath
  /-- Nothing is at the path of the template. -/
  | missing {preferences : Preferences} {path : String}
      (loaded : Settings.load place.files place.directory environment settings = .ok preferences)
      (resolved : place.absolute? (flags.path preferences) = some path)
      (absent : place.files.exists? path = false) :
      Stops place environment settings flags (.templateMissing path)
  /-- What is at the path of the template cannot be read. -/
  | unreadable {preferences : Preferences} {path : String} {fault : Fault}
      (loaded : Settings.load place.files place.directory environment settings = .ok preferences)
      (resolved : place.absolute? (flags.path preferences) = some path)
      (present : place.files.exists? path = true)
      (unread : place.files.readText path = .error fault) :
      Stops place environment settings flags (.templateUnreadable path fault)
  /-- The template has errors. -/
  | faulty {preferences : Preferences} {reading : Template.Reading}
      (read : reading? place environment settings flags = some (preferences, reading))
      (errors : reading.hasErrors = true) :
      Stops place environment settings flags .templateErrors

/-- The failures about the path of the module of a run. -/
inductive AboutModule (place : Place) (preferences : Preferences) (flags : InitFlags) :
    Failure → Prop
  /-- The path has no absolute form. -/
  | pathless (unresolved : modulePath? place preferences flags = none) :
      AboutModule place preferences flags .emptyPath
  /-- The directories around the path cannot be made. -/
  | blocked {path parent : String} {fault : Fault}
      (resolved : modulePath? place preferences flags = some path)
      (unable : ¬CanPrepare place.files path) :
      AboutModule place preferences flags (.directoryNotMade parent fault)
  /-- Something is at the path and must not be overwritten. -/
  | taken {path : String} (resolved : modulePath? place preferences flags = some path)
      (present : (prepare place.files path).1.exists? path = true)
      (kept : flags.mayOverwrite preferences = false) :
      AboutModule place preferences flags (.outputExists path)
  /-- Nothing can be written to the path. -/
  | unwritten {path source : String} {fault : Fault}
      (resolved : modulePath? place preferences flags = some path)
      (refused : (prepare place.files path).1.writeText path source = .error fault) :
      AboutModule place preferences flags (.outputNotWritten path fault)

/-- What the commands on a template have in common: the settings, and the template as it is read
with them. -/
def examineAt (place : Place) (environment : Environment) (settings : Option String)
    (flags : TemplateFlags) : Except Failure (Preferences × Examined) :=
  match Settings.load place.files place.directory environment settings with
  | .error reason => .error (.settings reason)
  | .ok preferences =>
    match examine place preferences flags with
    | .error failure => .error failure
    | .ok examined => .ok (preferences, examined)

/-- The check of a template by what the commands on a template have in common. -/
theorem run_check (build : Build) (place : Place) (environment : Environment)
    (settings : Option String) (voice : Voice) (flags : CheckFlags) :
    run build place environment ⟨settings, voice, some (.check flags)⟩ =
      match examineAt place environment settings flags.about with
      | .error failure => ⟨[], some failure, place.files⟩
      | .ok (_, examined) =>
        ⟨examined.warnings ++ report flags.format examined, examined.failure?, place.files⟩ := by
  unfold run examineAt
  cases Settings.load place.files place.directory environment settings with
  | error reason => rfl
  | ok preferences =>
    simp only [perform, check]
    cases examine place preferences flags.about <;> rfl

/-- The generation of a module by what the commands on a template have in common. -/
theorem run_init (build : Build) (place : Place) (environment : Environment)
    (settings : Option String) (voice : Voice) (flags : InitFlags) :
    run build place environment ⟨settings, voice, some (.init flags)⟩ =
      match examineAt place environment settings flags.about with
      | .error failure => ⟨[], some failure, place.files⟩
      | .ok (preferences, examined) =>
        match examined.failure? with
        | some failure => ⟨examined.warnings ++ examined.diagnostics, some failure, place.files⟩
        | none =>
          generate place preferences flags examined.reading.items
            (examined.warnings ++ examined.diagnostics ++
              [.note ("Parsed " ++ toString examined.reading.items.length ++ " keys from " ++
                examined.path)]) := by
  unfold run examineAt
  cases Settings.load place.files place.directory environment settings with
  | error reason => rfl
  | ok preferences =>
    simp only [perform, init]
    cases examine place preferences flags.about <;> rfl

/-- What is read is what the commands on a template have in common. -/
theorem reading?_eq_examineAt (flags : TemplateFlags) :
    reading? place environment settings flags =
      (examineAt place environment settings flags).toOption.map fun found =>
        (found.1, found.2.reading) := by
  unfold examineAt
  cases loaded : Settings.load place.files place.directory environment settings with
  | error reason => exact reading?_of_not_loaded loaded
  | ok preferences =>
    have spec := examine_spec place preferences flags
    rw [reading?_of_loaded flags loaded]
    cases done : examine place preferences flags with
    | error failure =>
      rw [done] at spec
      simp only [spec.1, done]
      rfl
    | ok examined =>
      rw [done] at spec
      obtain ⟨text, here, same⟩ := spec
      simp only [here, done, Option.map_some, Except.toOption, same]

/-- The settings are loaded before the template is examined, and the only warning is that of the
grouping. -/
theorem loaded_of_examineAt {flags : TemplateFlags} {examined : Examined}
    (begun : examineAt place environment settings flags = .ok (preferences, examined)) :
    Settings.load place.files place.directory environment settings = .ok preferences ∧
      examined.warnings = (flags.groupingOf preferences).2 := by
  unfold examineAt at begun
  cases loaded : Settings.load place.files place.directory environment settings with
  | error reason =>
    rw [loaded] at begun
    cases begun
  | ok found =>
    simp only [loaded, examine] at begun
    cases read : readTemplate place (flags.path found) with
    | error failure =>
      rw [read] at begun
      cases begun
    | ok pair =>
      rw [read] at begun
      cases begun
      exact ⟨rfl, rfl⟩

/-- What was examined was read. -/
theorem reading?_of_examineAt {flags : TemplateFlags} {examined : Examined}
    (begun : examineAt place environment settings flags = .ok (preferences, examined)) :
    reading? place environment settings flags = some (preferences, examined.reading) := by
  rw [reading?_eq_examineAt, begun]
  rfl

/-- What was read was examined. -/
theorem examineAt_of_reading? {flags : TemplateFlags} {reading : Template.Reading}
    (read : reading? place environment settings flags = some (preferences, reading)) :
    ∃ examined, examineAt place environment settings flags = .ok (preferences, examined) ∧
      examined.reading = reading := by
  rw [reading?_eq_examineAt] at read
  cases begun : examineAt place environment settings flags with
  | error failure =>
    rw [begun] at read
    cases read
  | ok found =>
    rw [begun] at read
    cases read
    exact ⟨found.2, rfl, rfl⟩

/-- A template that is not found or has no text stops a command. -/
theorem stops_of_readTemplate {flags : TemplateFlags}
    (loaded : Settings.load place.files place.directory environment settings = .ok preferences)
    (failed : readTemplate place (flags.path preferences) = .error failure) :
    Stops place environment settings flags failure := by
  unfold readTemplate at failed
  cases resolved : place.absolute? (flags.path preferences) with
  | none =>
    rw [resolved] at failed
    cases failed
    exact .pathless loaded resolved
  | some path =>
    simp only [resolved] at failed
    cases there : place.files.exists? path with
    | false =>
      rw [there] at failed
      cases failed
      exact .missing loaded resolved there
    | true =>
      simp only [there, if_true] at failed
      cases unread : place.files.readText path with
      | ok text =>
        rw [unread] at failed
        cases failed
      | error fault =>
        rw [unread] at failed
        cases failed
        exact .unreadable loaded resolved there unread

/-- Settings that cannot be loaded and a template that cannot be read stop a command. -/
theorem stops_of_examineAt {flags : TemplateFlags}
    (failed : examineAt place environment settings flags = .error failure) :
    Stops place environment settings flags failure := by
  unfold examineAt at failed
  cases loaded : Settings.load place.files place.directory environment settings with
  | error reason =>
    rw [loaded] at failed
    cases failed
    exact .unsettled loaded
  | ok preferences =>
    simp only [loaded, examine] at failed
    cases read : readTemplate place (flags.path preferences) with
    | error reason =>
      rw [read] at failed
      cases failed
      exact stops_of_readTemplate loaded read
    | ok found =>
      rw [read] at failed
      cases failed

/-- A command stops when it cannot read the template, or when the template has errors. -/
theorem stops_iff {flags : TemplateFlags} :
    Stops place environment settings flags failure ↔
      examineAt place environment settings flags = .error failure ∨
        ∃ preferences examined,
          examineAt place environment settings flags = .ok (preferences, examined) ∧
            examined.failure? = some failure := by
  constructor
  · intro stops
    cases stops with
    | unsettled failed => exact .inl (by simp only [examineAt, failed])
    | pathless loaded unresolved =>
      exact .inl (by simp only [examineAt, loaded, examine, readTemplate, unresolved])
    | missing loaded resolved absent =>
      refine .inl ?_
      simp only [examineAt, loaded, examine, readTemplate, resolved, absent, Bool.false_eq_true,
        if_false]
    | unreadable loaded resolved present unread =>
      refine .inl ?_
      simp only [examineAt, loaded, examine, readTemplate, resolved, present, unread, if_true]
    | @faulty preferences reading read errors =>
      cases begun : examineAt place environment settings flags with
      | error reason =>
        rw [reading?_eq_examineAt, begun] at read
        cases read
      | ok found =>
        obtain ⟨held, examined⟩ := found
        have known := reading?_of_examineAt begun
        rw [known] at read
        cases read
        exact .inr ⟨_, _, rfl, by rw [Examined.failure?, if_pos errors]⟩
  · rintro (failed | ⟨preferences, examined, begun, found⟩)
    · exact stops_of_examineAt failed
    · have known := reading?_of_examineAt begun
      unfold Examined.failure? at found
      cases errors : examined.reading.hasErrors with
      | false =>
        rw [errors] at found
        cases found
      | true =>
        rw [errors] at found
        cases found
        exact .faulty known errors

/-- A check fails exactly where a command on its template stops. -/
theorem failure_check_iff (build : Build) (voice : Voice) (flags : CheckFlags) :
    (run build place environment ⟨settings, voice, some (.check flags)⟩).failure = some failure ↔
      Stops place environment settings flags.about failure := by
  rw [run_check, stops_iff]
  cases examineAt place environment settings flags.about with
  | error reason => simp
  | ok found =>
    obtain ⟨preferences, examined⟩ := found
    simp

/-- The generation of a module fails where a command on its template stops. -/
theorem failure_init_of_stops (build : Build) (voice : Voice) {flags : InitFlags}
    (stops : Stops place environment settings flags.about failure) :
    (run build place environment ⟨settings, voice, some (.init flags)⟩).failure = some failure := by
  rw [run_init]
  rcases stops_iff.mp stops with failed | ⟨preferences, examined, begun, found⟩
  · rw [failed]
  · simp only [begun, found]

/-- When the template is read without errors, the generation of a module can only fail with the path
of the module. -/
theorem Ends.aboutModule {flags : InitFlags} {reading : Template.Reading} {files : FileSystem}
    (ends : Ends place environment settings flags (some failure) files)
    (read : reading? place environment settings flags.about = some (preferences, reading))
    (fine : reading.hasErrors = false) : AboutModule place preferences flags failure := by
  cases ends with
  | unread nothing early status =>
    rw [nothing] at read
    cases read
  | faulty other errors =>
    rw [other] at read
    cases read
    rw [fine] at errors
    cases errors
  | pathless other _ unresolved =>
    rw [other] at read
    cases read
    exact .pathless unresolved
  | blocked aims unable =>
    have same := aims.read
    rw [read] at same
    cases same
    exact .blocked aims.resolved unable
  | taken aims able present kept =>
    have same := aims.read
    rw [read] at same
    cases same
    exact .taken aims.resolved present kept
  | unwritten aims able allowed refused =>
    have same := aims.read
    rw [read] at same
    cases same
    exact .unwritten aims.resolved refused

/-- What was told before the generation of a module is told first. -/
theorem told_generate (place : Place) (preferences : Preferences) (flags : InitFlags)
    (items : List Template.Item) (told : List Message) :
    told <+: (generate place preferences flags items told).told := by
  unfold generate
  cases resolved : modulePath? place preferences flags with
  | none =>
    rw [modulePath?] at resolved
    simp only [resolved]
    exact List.prefix_append _ _
  | some path =>
    rw [modulePath?] at resolved
    simp only [resolved]
    rcases deliver place.files path (Module.source (flags.dialectOf preferences).1 items)
      (flags.mayOverwrite preferences) with ⟨files, _ | failure⟩
    · simp only [List.append_assoc]
      exact List.prefix_append _ _
    · exact List.prefix_append _ _

/-- The messages of a run that a voice lets appear on a channel, in their order. -/
def Outcome.shown (outcome : Outcome) (channel : Channel) (voice : Voice) : List Message :=
  outcome.messages.filter fun message => message.channel = channel && message.appears voice

/-- What a run shows with its problems are the texts of the messages that appear there. -/
theorem Outcome.errors_eq (outcome : Outcome) (voice : Voice) :
    outcome.errors voice = String.join ((outcome.shown .errors voice).map Message.text) := rfl

/-- The problems that a template is told with: the warning about an unknown grouping, and what is
wrong with the lines, in their order. -/
def problems (flags : TemplateFlags) (preferences : Preferences) (reading : Template.Reading) :
    List Message :=
  (flags.groupingOf preferences).2 ++ reading.diagnostics.map .diagnostic

/-- The only message about a default is the warning. -/
theorem eq_of_mem_orDefault {α : Type} {named : Option α} {standard : α} {warning : String}
    {message : Message} (member : message ∈ (orDefault named standard warning).2) :
    message = .warning warning := by
  cases named with
  | none => exact List.mem_singleton.mp member
  | some value => cases member

/-- All problems of a template are told on the channel for them. -/
theorem channel_of_mem_problems {flags : TemplateFlags} {reading : Template.Reading}
    {message : Message} (member : message ∈ problems flags preferences reading) :
    message.channel = .errors := by
  rcases List.mem_append.mp member with warned | diagnosed
  · rw [eq_of_mem_orDefault warned]
    rfl
  · obtain ⟨found, _, rfl⟩ := List.mem_map.mp diagnosed
    rfl

/-- Of the report on a template as lines of text only the diagnostics are problems. -/
theorem filter_textReport (examined : Examined) (voice : Voice) :
    (textReport examined).filter
        (fun message => message.channel = .errors && message.appears voice) =
      examined.diagnostics.filter
        fun message => message.channel = .errors && message.appears voice := by
  unfold textReport
  cases examined.reading.hasErrors <;> simp [Message.channel]

/-- The message about a failure. -/
def failureMessages (failure : Option Failure) : List Message :=
  (failure.map fun failure => Message.failure failure.message).toList

/-- A voice decides alone which of the problems of a template, and which failure after them, appear
on the channel for them. -/
theorem filter_problems (voice : Voice) (flags : TemplateFlags) (preferences : Preferences)
    (reading : Template.Reading) (failure : Option Failure) :
    (problems flags preferences reading ++ failureMessages failure).filter
        (fun message => message.channel = .errors && message.appears voice) =
      (problems flags preferences reading ++ failureMessages failure).filter
        (·.appears voice) := by
  apply List.filter_congr
  intro message member
  have channel : message.channel = .errors := by
    rcases List.mem_append.mp member with problem | failed
    · exact channel_of_mem_problems problem
    · obtain ⟨reason, _, rfl⟩ := Option.map_eq_some_iff.mp (Option.mem_toList.mp failed)
      rfl
  simp [channel]

/-- What a check with a report as lines of text shows of problems are those of the template, and its
own failure. -/
theorem shown_check (build : Build) (voice : Voice) {flags : TemplateFlags} {examined : Examined}
    (begun : examineAt place environment settings flags = .ok (preferences, examined)) :
    (run build place environment ⟨settings, voice, some (.check ⟨flags, .text⟩)⟩).shown
        .errors voice =
      (problems flags preferences examined.reading ++ failureMessages examined.failure?).filter
        fun message => message.channel = .errors && message.appears voice := by
  rw [run_check, begun, problems, ← (loaded_of_examineAt begun).2]
  simp only [Outcome.shown, Outcome.messages, report, List.filter_append, filter_textReport]
  rfl

/-- What a check with a report as lines of text shows of problems is the first that the generation
of a module shows of them. -/
theorem shown_check_prefix (build : Build) (voice : Voice) (flags : InitFlags) :
    (run build place environment ⟨settings, voice, some (.check ⟨flags.about, .text⟩)⟩).shown
        .errors voice <+:
      (run build place environment ⟨settings, voice, some (.init flags)⟩).shown .errors voice := by
  cases begun : examineAt place environment settings flags.about with
  | error failure =>
    rw [run_check, run_init]
    simp only [begun]
    exact List.prefix_refl _
  | ok found =>
    obtain ⟨preferences, examined⟩ := found
    have told : problems flags.about preferences examined.reading =
        examined.warnings ++ examined.diagnostics := by
      rw [problems, (loaded_of_examineAt begun).2]
      rfl
    rw [shown_check build voice begun, run_init, told]
    simp only [begun]
    apply List.IsPrefix.filter
    cases failed : examined.failure? with
    | some failure => exact List.prefix_refl _
    | none =>
      have first := told_generate place preferences flags examined.reading.items
        (examined.warnings ++ examined.diagnostics ++
          [.note ("Parsed " ++ toString examined.reading.items.length ++ " keys from " ++
            examined.path)])
      calc examined.warnings ++ examined.diagnostics ++ failureMessages none
          = examined.warnings ++ examined.diagnostics := List.append_nil _
        _ <+: _ := List.prefix_append _ _
        _ <+: _ := first
        _ <+: _ := List.prefix_append _ _

/-- The problems that a check with a report as lines of text shows, by what is read. -/
theorem shown_check_of_reading? (build : Build) (voice : Voice) {flags : TemplateFlags}
    {reading : Template.Reading}
    (read : reading? place environment settings flags = some (preferences, reading)) :
    let checked := run build place environment ⟨settings, voice, some (.check ⟨flags, .text⟩)⟩
    checked.shown .errors voice =
      (problems flags preferences reading ++ failureMessages checked.failure).filter
        (·.appears voice) := by
  obtain ⟨examined, begun, rfl⟩ := examineAt_of_reading? read
  intro checked
  have failure : checked.failure = examined.failure? := by
    show (run build place environment _).failure = _
    rw [run_check, begun]
  rw [failure, ← filter_problems]
  exact shown_check build voice begun

/-- Runs with the same failure have the same status and tell the failure in the same last line. -/
theorem ending_of_failure {first second : Outcome} {reason : Failure} (voice : Voice)
    (failed : first.failure = some reason) (same : second.failure = some reason) :
    first.status = second.status ∧
      ∃ front other, Text.IsFinished front.toList ∧ Text.IsFinished other.toList ∧
        first.errors voice = front ++ ("✖ " ++ reason.message ++ "\n") ∧
        second.errors voice = other ++ ("✖ " ++ reason.message ++ "\n") := by
  obtain ⟨front, finished, shown⟩ := errors_of_failure voice failed
  obtain ⟨other, ended, shownLater⟩ := errors_of_failure voice same
  refine ⟨?_, front, other, finished, ended, shown, shownLater⟩
  rw [Outcome.status, Outcome.status, failed, same]

/-- When nothing stops a command on the template, the generation of a module can only fail with the
path of the module. -/
theorem aboutModule_of_failure (build : Build) (voice : Voice) {flags : InitFlags}
    (goesOn : ∀ reason, ¬Stops place environment settings flags.about reason)
    (failed : (run build place environment ⟨settings, voice, some (.init flags)⟩).failure =
      some failure) :
    ∃ preferences,
      Settings.load place.files place.directory environment settings = .ok preferences ∧
        AboutModule place preferences flags failure := by
  cases begun : examineAt place environment settings flags.about with
  | error reason => exact absurd (stops_of_examineAt begun) (goesOn reason)
  | ok found =>
    obtain ⟨preferences, examined⟩ := found
    have read := reading?_of_examineAt begun
    have fine : examined.reading.hasErrors = false := by
      cases errors : examined.reading.hasErrors with
      | false => rfl
      | true => exact absurd (.faulty read errors) (goesOn _)
    have ends := ends_run build place environment settings voice flags
    rw [failed] at ends
    exact ⟨preferences, (loaded_of_examineAt begun).1, ends.aboutModule read fine⟩

/-- **A check foretells the generation.** A check changes nothing. It fails exactly when the
generation of a module with the same flags about the template fails before it goes on with the
template, and then with the same failure: both have its status and tell it in their last line. With
a report as lines of text the problems that the check shows, which are those of the template and its
failure, are the first that the generation shows. When the check does not fail, the generation can
fail with the path of the module only. -/
theorem check_foretells (build : Build) (place : Place) (environment : Environment)
    (settings : Option String) (voice : Voice) (flags : InitFlags) :
    let checked (format : ReportFormat) :=
      run build place environment ⟨settings, voice, some (.check ⟨flags.about, format⟩)⟩
    let generated := run build place environment ⟨settings, voice, some (.init flags)⟩
    (∀ format, (checked format).files = place.files) ∧
      (∀ format failure, (checked format).failure = some failure ↔
        generated.failure = some failure ∧
          Stops place environment settings flags.about failure) ∧
      (∀ format, (checked format).status ≠ 0 → (checked format).status = generated.status ∧
        ∃ reason front other, Text.IsFinished front.toList ∧ Text.IsFinished other.toList ∧
          (checked format).failure = some reason ∧
          (checked format).errors voice = front ++ ("✖ " ++ reason.message ++ "\n") ∧
          generated.errors voice = other ++ ("✖ " ++ reason.message ++ "\n")) ∧
      (checked .text).shown .errors voice <+: generated.shown .errors voice ∧
      (∀ preferences reading,
        reading? place environment settings flags.about = some (preferences, reading) →
          (checked .text).shown .errors voice =
            (problems flags.about preferences reading ++
              failureMessages (checked .text).failure).filter (·.appears voice)) ∧
      ∀ format, (checked format).status = 0 → ∀ failure, generated.failure = some failure →
        ∃ preferences,
          Settings.load place.files place.directory environment settings = .ok preferences ∧
            AboutModule place preferences flags failure := by
  intro checked generated
  have agrees (format : ReportFormat) (failure : Failure) :
      (checked format).failure = some failure ↔ generated.failure = some failure ∧
        Stops place environment settings flags.about failure := by
    rw [failure_check_iff]
    exact ⟨fun stops => ⟨failure_init_of_stops build voice stops, stops⟩, fun both => both.2⟩
  refine ⟨?_, agrees, ?_, shown_check_prefix build voice flags, ?_, ?_⟩
  · intro format
    exact files_run_of_other build place environment _ (fun _ => by nofun)
  · intro format failed
    rw [Ne, Outcome.status_eq_zero_iff] at failed
    obtain ⟨reason, told⟩ := Option.ne_none_iff_exists'.mp failed
    have same := ((agrees format reason).mp told).1
    obtain ⟨status, front, other, finished, ended, shown, shownLater⟩ :=
      ending_of_failure voice told same
    exact ⟨status, reason, front, other, finished, ended, told, shown, shownLater⟩
  · intro preferences reading read
    exact shown_check_of_reading? build voice read
  · intro format fine failure failed
    rw [Outcome.status_eq_zero_iff] at fine
    apply aboutModule_of_failure build voice ?_ failed
    intro reason stops
    have stopped : (checked format).failure = some reason :=
      (failure_check_iff build voice ⟨flags.about, format⟩).mpr stops
    rw [fine] at stopped
    cases stopped

end EnvTemplate.CommandLine
