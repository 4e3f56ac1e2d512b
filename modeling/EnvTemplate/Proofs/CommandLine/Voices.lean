import EnvTemplate.Proofs.CommandLine.Agreement
import EnvTemplate.Proofs.CommandLine.VoiceSwitches

/-!
# What the voice changes

A run does the same in every voice; the voice decides only which of its messages appear. A quiet
voice keeps back the warnings, and with the results shows nothing but documents, so either everything
that a command prints there or nothing. Asking for more adds one note, which is told when a module is
generated from a template without errors.
-/
namespace EnvTemplate.CommandLine

open Settings (Environment Preferences)

namespace Message

/-- Whether a message is a warning: about a default, or about a line that is read nevertheless. -/
def isWarning : Message → Bool
  | warning _ => true
  | diagnostic found => !found.isError
  | _ => false

/-- Whether a message is a document. -/
def isDocument : Message → Bool
  | document _ => true
  | _ => false

/-- Whether a message is a note. -/
def isNote : Message → Bool
  | note _ => true
  | _ => false

/-- A quiet voice keeps back the warnings, and with the results all but documents. -/
theorem appears_quiet (verbosity : Nat) (message : Message) :
    message.appears ⟨verbosity, true⟩ =
      match message.channel with
      | .errors => !message.isWarning
      | .output => message.isDocument := by
  cases message <;> simp [appears, channel, isWarning, isDocument]

/-- Any other voice lets everything appear, and notes when more is asked for. -/
theorem appears_loud (verbosity : Nat) (message : Message) :
    message.appears ⟨verbosity, false⟩ = (!message.isNote || verbosity ≠ 0) := by
  cases message <;> simp [appears, isNote]

end Message

/-- The messages of a run that are told on a channel, in their order. -/
def Outcome.on (outcome : Outcome) (channel : Channel) : List Message :=
  outcome.messages.filter (·.channel = channel)

section Telling

variable {outcome : Outcome} {message : Message} {channel : Channel}

/-- The messages on a channel. -/
theorem mem_on_iff :
    message ∈ outcome.on channel ↔ message ∈ outcome.messages ∧ message.channel = channel := by
  simp [Outcome.on]

/-- What is shown on a channel are the messages there that appear. -/
theorem shownOn_eq (channel : Channel) (voice : Voice) (outcome : Outcome) :
    shownOn channel voice outcome.messages =
      String.join (((outcome.on channel).filter (·.appears voice)).map Message.text) := by
  rw [shownOn, Outcome.on, List.filter_filter]
  simp only [Bool.and_comm]

/-- The problems that a quiet run shows: all but the warnings. -/
theorem errors_quiet (outcome : Outcome) (verbosity : Nat) :
    outcome.errors ⟨verbosity, true⟩ =
      String.join (((outcome.on .errors).filter (!·.isWarning)).map Message.text) := by
  rw [Outcome.errors, shownOn_eq]
  congr 2
  refine List.filter_congr fun message member => ?_
  rw [Message.appears_quiet, (mem_on_iff.mp member).2]

/-- The problems that any other run shows: all of them. -/
theorem errors_loud (outcome : Outcome) (verbosity : Nat) :
    outcome.errors ⟨verbosity, false⟩ = String.join ((outcome.on .errors).map Message.text) := by
  rw [Outcome.errors, shownOn_eq, List.filter_eq_self.mpr]
  intro message member
  have problem := (mem_on_iff.mp member).2
  rw [Message.appears_loud]
  cases message with
  | note text => cases problem
  | _ => rfl

/-- The results that a quiet run shows: the documents. -/
theorem output_quiet (outcome : Outcome) (verbosity : Nat) :
    outcome.output ⟨verbosity, true⟩ =
      String.join (((outcome.on .output).filter Message.isDocument).map Message.text) := by
  rw [Outcome.output, shownOn_eq]
  congr 2
  refine List.filter_congr fun message member => ?_
  rw [Message.appears_quiet, (mem_on_iff.mp member).2]

/-- The results that any other run shows: all of them, or all but the notes. -/
theorem output_loud (outcome : Outcome) (verbosity : Nat) :
    outcome.output ⟨verbosity, false⟩ =
      String.join (((outcome.on .output).filter
        fun message => !message.isNote || verbosity ≠ 0).map Message.text) := by
  rw [Outcome.output, shownOn_eq]
  simp only [Message.appears_loud]

end Telling

/-- Whether a command prints documents with its results, and nothing else there: the help, and a
report as a JSON document. -/
def printsDocuments : Option Command → Bool
  | none => true
  | some (.check flags) => flags.format = .json
  | _ => false

section Runs

variable {build : Build} {place : Place} {environment : Environment} {invocation : Invocation}
  {message : Message} {reading : Template.Reading}

/-- An invocation generates a module from a template that is read without errors. -/
def PassesParsing (place : Place) (environment : Environment) (invocation : Invocation)
    (reading : Template.Reading) : Prop :=
  ∃ flags preferences, invocation.command = some (.init flags) ∧
    reading? place environment invocation.settings flags.about = some (preferences, reading) ∧
    reading.hasErrors = false

/-- What the generation of a module tells after what was told before are warnings and successes. -/
theorem later_generate (place : Place) (preferences : Preferences) (flags : InitFlags)
    (items : List Template.Item) (told : List Message) :
    ∃ later, (generate place preferences flags items told).told = told ++ later ∧
      ∀ message ∈ later, message.isDocument = false ∧ message.isNote = false := by
  have warnings : ∀ message ∈ (flags.dialectOf preferences).2,
      message.isDocument = false ∧ message.isNote = false := by
    intro message member
    unfold InitFlags.dialectOf at member
    split at member
    · cases member
    · split at member
      · cases member
      · rw [eq_of_mem_orDefault member]
        exact ⟨rfl, rfl⟩
  unfold generate
  cases resolved : modulePath? place preferences flags with
  | none =>
    rw [modulePath?] at resolved
    simp only [resolved]
    exact ⟨_, rfl, warnings⟩
  | some path =>
    rw [modulePath?] at resolved
    simp only [resolved]
    rcases deliver place.files path (Module.source (flags.dialectOf preferences).1 items)
      (flags.mayOverwrite preferences) with ⟨files, _ | failure⟩
    · refine ⟨_, List.append_assoc _ _ _, List.forall_mem_append.mpr ⟨warnings, ?_⟩⟩
      exact List.forall_mem_singleton.mpr ⟨rfl, rfl⟩
    · exact ⟨_, rfl, warnings⟩

/-- What is told about a template before it is used are problems. -/
theorem channel_of_examined {settings : Option String} {flags : TemplateFlags}
    {preferences : Preferences} {examined : Examined}
    (begun : examineAt place environment settings flags = .ok (preferences, examined)) :
    ∀ message ∈ examined.warnings ++ examined.diagnostics, message.channel = .errors := by
  intro message member
  rw [(loaded_of_examineAt begun).2] at member
  exact channel_of_mem_problems member

/-- A failure is no result. -/
theorem on_output_eq (outcome : Outcome) :
    outcome.on .output = outcome.told.filter (·.channel = .output) := by
  unfold Outcome.on Outcome.messages
  rw [List.filter_append]
  cases outcome.failure <;> exact List.append_nil _

/-- Problems are no results. -/
theorem filter_problems_output {told : List Message}
    (problems : ∀ message ∈ told, message.channel = .errors) :
    told.filter (·.channel = .output) = [] := by
  refine List.filter_eq_nil_iff.mpr fun message member => ?_
  simp [problems message member]

/-- The note about a template that is read without errors. -/
def parsedNote (items : Nat) (path : String) : Message :=
  .note ("Parsed " ++ toString items ++ " keys from " ++ path)

/-- The results of the generation of a module: a note first and neither notes nor documents after it
when the template is read without errors, and nothing otherwise. -/
theorem results_init (build : Build) {flags : InitFlags}
    (commanded : invocation.command = some (.init flags)) :
    (∃ reading path later, PassesParsing place environment invocation reading ∧
      (run build place environment invocation).on .output =
        parsedNote reading.items.length path :: later ∧
      ∀ message ∈ later, message.isDocument = false ∧ message.isNote = false) ∨
    (∀ reading, ¬PassesParsing place environment invocation reading) ∧
      (run build place environment invocation).on .output = [] := by
  obtain ⟨settings, voice, command⟩ := invocation
  cases commanded
  rw [run_init]
  cases begun : examineAt place environment settings flags.about with
  | error failure =>
    right
    refine ⟨?_, on_output_eq _⟩
    rintro reading ⟨_, preferences, same, read, _⟩
    cases same
    rw [reading?_eq_examineAt, begun] at read
    cases read
  | ok found =>
    obtain ⟨preferences, examined⟩ := found
    have known := reading?_of_examineAt begun
    have problems := channel_of_examined begun
    cases errors : examined.reading.hasErrors with
    | true =>
      right
      simp only [Examined.failure?, errors, if_true]
      refine ⟨?_, (on_output_eq _).trans (filter_problems_output problems)⟩
      rintro reading ⟨_, _, same, read, fine⟩
      cases same
      rw [known] at read
      cases read
      rw [errors] at fine
      cases fine
    | false =>
      left
      simp only [Examined.failure?, errors, Bool.false_eq_true, if_false]
      obtain ⟨later, told, plain⟩ := later_generate place preferences flags examined.reading.items
        (examined.warnings ++ examined.diagnostics ++
          [parsedNote examined.reading.items.length examined.path])
      refine ⟨examined.reading, examined.path, later.filter (·.channel = .output),
        ⟨flags, preferences, rfl, known, errors⟩, ?_, ?_⟩
      · rw [on_output_eq]
        refine (congrArg _ told).trans ?_
        rw [List.filter_append, List.filter_append, filter_problems_output problems]
        rfl
      · exact fun message member => plain message (List.mem_filter.mp member).1

/-- The report on a template tells documents only, or none, with the results. -/
theorem plain_of_mem_report {format : ReportFormat} {examined : Examined}
    (told : message ∈ report format examined) (result : message.channel = .output) :
    message.isDocument = (format = .json : Bool) ∧ message.isNote = false := by
  cases format with
  | json =>
    cases List.mem_singleton.mp told
    exact ⟨rfl, rfl⟩
  | text =>
    rcases List.mem_append.mp told with before | after
    · rcases List.mem_append.mp before with diagnosed | counted
      · obtain ⟨found, _, rfl⟩ := List.mem_map.mp diagnosed
        cases result
      · simp only [List.mem_cons, List.not_mem_nil, or_false] at counted
        rcases counted with rfl | rfl | rfl | rfl <;> exact ⟨rfl, rfl⟩
    · split at after
      · cases after
      · simp only [List.mem_cons, List.not_mem_nil, or_false] at after
        rcases after with rfl | rfl <;> exact ⟨rfl, rfl⟩

/-- Without a module to generate there are no notes, and with the results documents only, or none. -/
theorem plain_of_mem_told (build : Build) (voice : Voice) {settings : Option String}
    {command : Option Command} (other : ∀ flags, command ≠ some (.init flags))
    (told : message ∈ (run build place environment ⟨settings, voice, command⟩).told)
    (result : message.channel = .output) :
    message.isDocument = printsDocuments command ∧ message.isNote = false := by
  cases command with
  | none =>
    unfold run at told
    split at told
    · cases told
    · cases List.mem_singleton.mp told
      exact ⟨rfl, rfl⟩
  | some command =>
    cases command with
    | init flags => exact absurd rfl (other flags)
    | version =>
      unfold run at told
      split at told
      · cases told
      · have plain : ∀ message ∈ versionMessages build,
            message.isDocument = false ∧ message.isNote = false := by
          simp [versionMessages, Message.isDocument, Message.isNote]
        exact plain message told
    | check flags =>
      rw [run_check] at told
      split at told
      · cases told
      · next preferences examined begun =>
        rcases List.mem_append.mp told with warned | reported
        · have problem := channel_of_examined begun message (List.mem_append_left _ warned)
          rw [result] at problem
          cases problem
        · exact plain_of_mem_report reported result

/-- With its results a command prints documents only, or none. -/
theorem isDocument_of_mem_output (build : Build)
    (member : message ∈ (run build place environment invocation).on .output) :
    message.isDocument = printsDocuments invocation.command := by
  by_cases generates : ∃ flags, invocation.command = some (.init flags)
  · obtain ⟨flags, commanded⟩ := generates
    have nothing : printsDocuments invocation.command = false := by
      rw [commanded]
      rfl
    rw [nothing]
    rcases results_init build commanded with ⟨_, _, _, _, results, plain⟩ | ⟨_, results⟩
    · rw [results] at member
      rcases List.mem_cons.mp member with rfl | after
      · rfl
      · exact (plain message after).1
    · rw [results] at member
      cases member
  · rw [on_output_eq] at member
    obtain ⟨told, result⟩ := List.mem_filter.mp member
    have other : ∀ flags, invocation.command ≠ some (.init flags) := fun flags same =>
      generates ⟨flags, same⟩
    exact (plain_of_mem_told build invocation.voice other told (of_decide_eq_true result)).1

/-- A run tells a note when it generates a module from a template that is read without errors: one,
before its other results. -/
theorem notes_of_run (build : Build) (place : Place) (environment : Environment)
    (invocation : Invocation) :
    (∃ reading path later, PassesParsing place environment invocation reading ∧
      (run build place environment invocation).on .output =
        parsedNote reading.items.length path :: later ∧
      ∀ message ∈ later, message.isNote = false) ∨
    (∀ reading, ¬PassesParsing place environment invocation reading) ∧
      ∀ message ∈ (run build place environment invocation).on .output, message.isNote = false := by
  by_cases generates : ∃ flags, invocation.command = some (.init flags)
  · obtain ⟨flags, commanded⟩ := generates
    rcases results_init build commanded with ⟨reading, path, later, passes, results, plain⟩ | nothing
    · exact .inl ⟨reading, path, later, passes, results, fun message after =>
        (plain message after).2⟩
    · refine .inr ⟨nothing.1, ?_⟩
      rw [nothing.2]
      nofun
  · refine .inr ⟨fun reading passes => ?_, fun message member => ?_⟩
    · obtain ⟨flags, _, commanded, _⟩ := passes
      exact generates ⟨flags, commanded⟩
    · rw [on_output_eq] at member
      obtain ⟨told, result⟩ := List.mem_filter.mp member
      have other : ∀ flags, invocation.command ≠ some (.init flags) := fun flags same =>
        generates ⟨flags, same⟩
      exact (plain_of_mem_told build invocation.voice other told (of_decide_eq_true result)).2

/-- When a command prints documents they appear in every voice. -/
theorem output_of_documents {outcome : Outcome} (voice : Voice)
    (documents : ∀ message ∈ outcome.on .output, message.isDocument = true) :
    outcome.output voice = String.join ((outcome.on .output).map Message.text) := by
  rw [Outcome.output, shownOn_eq, List.filter_eq_self.mpr]
  intro message member
  have document := documents message member
  cases message with
  | document text => rfl
  | _ => cases document

/-- With its results a quiet run shows the documents that a command prints, as any other run does, and
otherwise nothing. -/
theorem output_of_quiet_run (build : Build) (verbosity : Nat) (voice : Voice) :
    (run build place environment invocation).output ⟨verbosity, true⟩ =
      if printsDocuments invocation.command then
        (run build place environment invocation).output voice
      else "" := by
  have kinds := fun message => @isDocument_of_mem_output place environment invocation message build
  cases prints : printsDocuments invocation.command with
  | true =>
    rw [prints] at kinds
    rw [if_pos rfl, output_of_documents _ kinds, output_of_documents _ kinds]
  | false =>
    rw [prints] at kinds
    rw [if_neg Bool.false_ne_true, output_quiet, List.filter_eq_nil_iff.mpr]
    · rfl
    · intro message member
      rw [kinds message member]
      exact Bool.false_ne_true

/-- Asking for more shows one note before the other results, when a module is generated from a
template that is read without errors, and changes nothing otherwise. -/
theorem output_of_verbose_run (build : Build) {verbosity : Nat} (more : verbosity ≠ 0) :
    (∃ reading path, PassesParsing place environment invocation reading ∧
      (run build place environment invocation).output ⟨verbosity, false⟩ =
        (parsedNote reading.items.length path).text ++
          (run build place environment invocation).output ⟨0, false⟩) ∨
    (∀ reading, ¬PassesParsing place environment invocation reading) ∧
      (run build place environment invocation).output ⟨verbosity, false⟩ =
        (run build place environment invocation).output ⟨0, false⟩ := by
  have all : decide (verbosity ≠ 0) = true := decide_eq_true more
  rw [output_loud, output_loud]
  simp only [all, ne_eq, not_true_eq_false, decide_false, Bool.or_true, Bool.or_false]
  rcases notes_of_run build place environment invocation with
    ⟨reading, path, later, passes, results, plain⟩ | ⟨nothing, plain⟩
  · refine .inl ⟨reading, path, passes, ?_⟩
    have kept : later.filter (fun message => !message.isNote) = later :=
      List.filter_eq_self.mpr fun message member => by rw [plain message member]; rfl
    rw [results, List.filter_true, List.filter_cons_of_neg (by simp [parsedNote, Message.isNote]),
      kept, List.map_cons, String.join_cons]
  · refine .inr ⟨nothing, ?_⟩
    rw [List.filter_true, List.filter_eq_self.mpr]
    intro message member
    rw [plain message member]
    rfl

/-- **The voice changes only what is told.** Of two command lines that differ in the switches of the
voice only, both end with the same status and leave the same files. A quiet run shows with its results
the documents that its command prints and nothing else, and of the problems it shows all but the
warnings, in their order. Of two runs that are not quiet, both show the same problems, and the one
that is asked for more shows one note more, when it generates a module from a template that is read
without errors. -/
theorem voice_changes_telling (build : Build) (place : Place) (environment : Environment)
    {first second : List String} {one two : Invocation}
    (accepted : Invocation.ofArguments first = .ok one)
    (acceptedToo : Invocation.ofArguments second = .ok two)
    (alike : voiceless first = voiceless second) :
    let ran := run build place environment one
    let other := run build place environment two
    ran.status = other.status ∧ ran.files = other.files ∧
      (one.voice.quiet = true →
        (ran.output one.voice =
          if printsDocuments one.command then other.output two.voice else "") ∧
        ran.errors one.voice =
          String.join (((other.on .errors).filter (!·.isWarning)).map Message.text) ∧
        (two.voice.quiet = false →
          other.errors two.voice = String.join ((other.on .errors).map Message.text))) ∧
      (one.voice.quiet = false → two.voice.quiet = false →
        ran.errors one.voice = other.errors two.voice ∧
        ((one.voice.verbosity = 0 ↔ two.voice.verbosity = 0) →
          ran.output one.voice = other.output two.voice) ∧
        (one.voice.verbosity ≠ 0 → two.voice.verbosity = 0 →
          (∃ reading path, PassesParsing place environment one reading ∧
            ran.output one.voice =
              (parsedNote reading.items.length path).text ++ other.output two.voice) ∨
          (∀ reading, ¬PassesParsing place environment one reading) ∧
            ran.output one.voice = other.output two.voice)) := by
  intro ran other
  -- Both invocations are one and the same without their voices, and a run looks at nothing else.
  have same : one.voiceless = two.voiceless := by
    have reads := ofArguments_voiceless accepted
    rw [alike, ofArguments_voiceless acceptedToo] at reads
    exact (Except.ok.inj reads).symm
  have runs : ran = other := by
    show run build place environment one.voiceless = run build place environment two.voiceless
    rw [same]
  obtain ⟨settings, ⟨verbosity, quiet⟩, command⟩ := one
  obtain ⟨_, ⟨verbosityToo, quietToo⟩, _⟩ := two
  cases same
  rw [← runs]
  refine ⟨rfl, rfl, ?_, ?_⟩
  · rintro rfl
    refine ⟨output_of_quiet_run build verbosity _, errors_quiet ran verbosity, ?_⟩
    rintro rfl
    exact errors_loud ran verbosityToo
  · rintro rfl rfl
    refine ⟨?_, ?_, ?_⟩
    · exact (errors_loud ran verbosity).trans (errors_loud ran verbosityToo).symm
    · intro both
      have asked : decide (verbosity ≠ 0) = decide (verbosityToo ≠ 0) :=
        decide_eq_decide.mpr (not_congr both)
      rw [output_loud, output_loud, asked]
    · rintro more rfl
      exact output_of_verbose_run build more

/-- A command line that generates a module, in a voice. -/
def plainInit (voice : Voice) : Invocation :=
  ⟨none, voice, some (.init ⟨⟨none, none, false⟩, none, false, false, false⟩)⟩

/-- A quiet line, and a line that asks for more twice. -/
theorem voice_of_plainInit :
    let quiet := run ⟨"x86_64", "release"⟩ templateOnly [] (plainInit ⟨0, true⟩)
    let verbose := run ⟨"x86_64", "release"⟩ templateOnly [] (plainInit ⟨2, false⟩)
    quiet.status = verbose.status ∧ quiet.files = verbose.files ∧ quiet.output ⟨0, true⟩ = "" := by
  have accepted : Invocation.ofArguments ["-q", "init"] = .ok (plainInit ⟨0, true⟩) := by decide
  have acceptedToo : Invocation.ofArguments ["init", "-vv"] = .ok (plainInit ⟨2, false⟩) := by
    decide
  have alike : voiceless ["-q", "init"] = voiceless ["init", "-vv"] := by decide
  obtain ⟨status, files, quiet, _⟩ := voice_changes_telling ⟨"x86_64", "release"⟩ templateOnly []
    accepted acceptedToo alike
  exact ⟨status, files, (quiet rfl).1⟩

end Runs

end EnvTemplate.CommandLine
