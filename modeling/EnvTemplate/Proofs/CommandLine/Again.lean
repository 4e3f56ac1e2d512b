import EnvTemplate.Proofs.CommandLine.Changes
import EnvTemplate.Proofs.CommandLine.Status
import EnvTemplate.Proofs.FileSystem.Again
import EnvTemplate.Proofs.Settings.Lookup

/-!
# Generating a module again

A run that generated a module has left a file and directories around it. When neither is in the way
of the template and of the settings, a later run reads what the first one read. It makes the same
directories, which are there, and writes the same text to the same file, so it changes nothing; and
without leave to overwrite it finds the module and refuses. The directories count as well as the
module: a path that leads through one of them may lead to a settings file only once it is made.
-/
namespace EnvTemplate.CommandLine

open Settings (Environment Preferences triedPaths)
open FileSystem (KeepsDirectories destination)

variable {place : Place} {environment : Environment} {settings : Option String} {flags : InitFlags}
  {preferences : Preferences} {reading : Template.Reading} {path template source : String}
  {fs files later : FileSystem}

/-- Where the directories around a path were made they are made again without a change. -/
theorem prepare_again (able : CanPrepare fs path)
    (kept : KeepsDirectories (prepare fs path).1 later) : prepare later path = (later, none) := by
  have ended := (prepare_ends_iff fs path).mpr able
  unfold prepare at ended kept ⊢
  cases around : Path.parent? path with
  | none => rfl
  | some parent =>
    rw [around] at ended kept
    have done : fs.makePath parent = ((fs.makePath parent).1, none) :=
      Prod.ext rfl (Option.map_eq_none_iff.mp ended)
    simp only [FileSystem.makePath_again done kept, Option.map_none]

/-- What a module and the directories around it must not meet, so that a later run reads the same:
the template, the paths at which settings files are looked for, and a settings file that is not found
before. -/
structure Apart (place : Place) (settings : Option String) (path template : String) : Prop where
  /-- The module is not written over the template. -/
  fromTemplate : destination template ≠ destination path
  /-- The module is not written where a settings file is looked for. -/
  fromSettings : ∀ tried ∈ triedPaths place.files place.directory settings,
    destination tried ≠ destination path
  /-- The directories around the module lead to no settings file that was not found without them. -/
  unrevealing : ∀ tried ∈ triedPaths place.files place.directory settings,
    (prepare place.files path).1.isFile tried = true → place.files.isFile tried = true

/-- Where the module and its directories are apart from the settings the same files are found. -/
theorem Apart.find_iff (apart : Apart place settings path template)
    (done : (prepare place.files path).1.writeText path source = .ok files) {tried : String}
    (listed : tried ∈ triedPaths place.files place.directory settings) (location : Location)
    (content : List UInt8) :
    files.find tried = .ok (location, .file content) ↔
      place.files.find tried = .ok (location, .file content) := by
  rw [FileSystem.find_file_of_writeText done (apart.fromSettings tried listed)]
  have keeps := (prepare_adds place.files path).keeps
  constructor
  · intro found
    have file := apart.unrevealing tried listed (FileSystem.isFile_iff.mpr ⟨location, content, found⟩)
    obtain ⟨there, held, before⟩ := FileSystem.isFile_iff.mp file
    rw [keeps.find before] at found
    cases found
    exact before
  · exact keeps.find

/-- Where the module and its directories are apart from settings and template the same is read. -/
theorem Apart.reading? (apart : Apart place settings path template)
    (done : (prepare place.files path).1.writeText path source = .ok files)
    (read : reading? place environment settings flags.about = some (preferences, reading))
    (resolved : place.absolute? (flags.about.path preferences) = some template) :
    CommandLine.reading? ⟨files, place.directory⟩ environment settings flags.about =
      some (preferences, reading) := by
  obtain ⟨text, loaded, here, rfl⟩ := exists_of_reading? read
  have settled : Settings.load files place.directory environment settings = .ok preferences :=
    (Settings.load_of_tried fun tried listed => apart.find_iff done listed).trans loaded
  -- The template is a file that is found by the same path as before.
  have same : files.find template = place.files.find template := by
    rw [Place.templateText?, resolved, Option.bind_some] at here
    unfold FileSystem.readText at here
    cases found : place.files.find template with
    | error fault =>
      rw [found] at here
      cases here
    | ok held =>
      obtain ⟨location, directory | content⟩ := held
      · have kept := (prepare_adds place.files path).keeps.find found
        exact (FileSystem.find_file_of_writeText done apart.fromTemplate).mpr kept
      · rw [found] at here
        cases here
  have still : (Place.mk files place.directory).templateText? (flags.about.path preferences) =
      some text := by
    rw [← here]
    show ((place.absolute? (flags.about.path preferences)).bind _) = _
    rw [Place.templateText?, resolved, Option.bind_some, Option.bind_some, FileSystem.readText,
      FileSystem.readText, same]
  rw [reading?_of_loaded flags.about settled, still]
  rfl

/-- What a run has found out before it changes anything is determined by where it runs. -/
theorem AimsAt.unique {preferencesToo : Preferences} {readingToo : Template.Reading} {pathToo : String}
    (aims : AimsAt place environment settings flags preferences reading path)
    (other : AimsAt place environment settings flags preferencesToo readingToo pathToo) :
    preferencesToo = preferences ∧ readingToo = reading ∧ pathToo = path := by
  obtain ⟨rfl, rfl⟩ := Prod.mk.inj (Option.some.inj (other.read.symm.trans aims.read))
  exact ⟨rfl, rfl, Option.some.inj (other.resolved.symm.trans aims.resolved)⟩

/-- A run that finds the directories around its module made and the module written has nothing to
change: it writes the same or refuses, as it may overwrite or not. -/
theorem Ends.again {failure : Option Failure} {left : FileSystem}
    (ends : Ends place environment settings flags failure left)
    (aims : AimsAt place environment settings flags preferences reading path)
    (made : prepare place.files path = (place.files, none))
    (present : place.files.exists? path = true)
    (done : place.files.writeText path
      (Module.source (flags.dialectOf preferences).1 reading.items) = .ok place.files) :
    left = place.files ∧
      failure = if flags.mayOverwrite preferences then none else some (.outputExists path) := by
  have able := (prepare_ends_iff place.files path).mp (by rw [made])
  cases ends with
  | unread nothing _ _ =>
    rw [aims.read] at nothing
    cases nothing
  | faulty read errors =>
    rw [aims.read] at read
    cases read
    rw [aims.fine] at errors
    cases errors
  | pathless read _ unresolved =>
    rw [aims.read] at read
    cases read
    rw [aims.resolved] at unresolved
    cases unresolved
  | blocked other unable =>
    obtain ⟨rfl, rfl, rfl⟩ := aims.unique other
    exact absurd able unable
  | taken other _ _ kept =>
    obtain ⟨rfl, rfl, rfl⟩ := aims.unique other
    rw [made, kept]
    exact ⟨rfl, rfl⟩
  | unwritten other _ _ refused =>
    obtain ⟨rfl, rfl, rfl⟩ := aims.unique other
    rw [made, done] at refused
    cases refused
  | written other _ allowed wrote =>
    obtain ⟨rfl, rfl, rfl⟩ := aims.unique other
    rw [made] at allowed wrote
    rw [allowed present, if_pos rfl]
    exact ⟨Except.ok.inj (wrote.symm.trans done), rfl⟩

/-- **Generating a module again.** When a module was generated, apart from the template and from the
settings, the same command in the files it left changes nothing. Asked to overwrite, it ends with the
status zero; neither asked to nor set to, it refuses with the status of a module that exists. -/
theorem generated_again (build : Build) (place : Place) (environment : Environment)
    (settings : Option String) (voice : Voice) (flags : InitFlags)
    (finished : (run build place environment ⟨settings, voice, some (.init flags)⟩).status = 0)
    (loaded : Settings.load place.files place.directory environment settings = .ok preferences)
    (found : place.absolute? (flags.about.path preferences) = some template)
    (resolved : modulePath? place preferences flags = some path)
    (apart : Apart place settings path template) :
    let files := (run build place environment ⟨settings, voice, some (.init flags)⟩).files
    let again (force : Bool) := run build ⟨files, place.directory⟩ environment
      ⟨settings, voice, some (.init { flags with force := force })⟩
    (again true).status = 0 ∧ (again true).files = files ∧
      (preferences.force = false → (again false).status = 2 ∧ (again false).files = files) := by
  intro files again
  have ends : Ends place environment settings flags none files := by
    have ended := ends_run build place environment settings voice flags
    rwa [Outcome.status_eq_zero_iff.mp finished] at ended
  cases ends with
  | @written known reading out _ aims able allowed done =>
    -- What was known before the first run is what the hypotheses name.
    obtain ⟨text, loadedFirst, _, _⟩ := exists_of_reading? aims.read
    cases loadedFirst.symm.trans loaded
    cases aims.resolved.symm.trans resolved
    have read := apart.reading? done aims.read found
    have made := prepare_again able (FileSystem.keepsDirectories_of_writeText done)
    obtain ⟨location, there, _⟩ := FileSystem.writeText_spec done
    have present : files.exists? path = true := by
      rw [FileSystem.exists?, there]
      rfl
    have aimsAgain (force : Bool) : AimsAt ⟨files, place.directory⟩ environment settings
        { flags with force := force } preferences reading path := ⟨read, aims.fine, resolved⟩
    have later (force : Bool) :=
      (ends_run build ⟨files, place.directory⟩ environment settings voice
        { flags with force := force }).again (aimsAgain force) made present
        (FileSystem.writeText_again done)
    refine ⟨?_, (later true).1, ?_⟩
    · have ended := (later true).2
      rw [if_pos (by rw [InitFlags.mayOverwrite, Bool.true_or])] at ended
      exact Outcome.status_eq_zero_iff.mpr ended
    · intro unforced
      obtain ⟨same, ended⟩ := later false
      have kept : ¬InitFlags.mayOverwrite { flags with force := false } preferences = true := by
        rw [InitFlags.mayOverwrite, unforced]
        exact Bool.false_ne_true
      rw [if_neg kept] at ended
      refine ⟨?_, same⟩
      show ((again false).failure.map Failure.status).getD 0 = 2
      rw [ended]
      rfl

/-- A place with a template, and with a settings file that has a setting of the wrong type. -/
def mistakenPlace : Place where
  files := ⟨[(["work"], .directory),
    (["work", ".env.example"], .file (FileSystem.bytesOf "FOO=1\n")),
    (["work", "conf.json"], .file (FileSystem.bytesOf Settings.mistaken))]⟩
  directory := ["work"]

/-- A run that asks for that settings file by a path through the directory around the module, which
is not there before the first run. -/
def runThroughDirectory (files : FileSystem) (force : Bool) : Outcome :=
  run ⟨"x86_64", "release"⟩ ⟨files, mistakenPlace.directory⟩ []
    ⟨some "gen/../conf.json", ⟨0, false⟩,
      some (.init ⟨⟨none, none, false⟩, some "gen/index.js", false, false, force⟩)⟩

/-- The files that the first of these runs leaves. -/
def filesThroughDirectory : FileSystem := (runThroughDirectory mistakenPlace.files false).files

/-- The settings file is found once there is a directory around the module. -/
theorem load_throughDirectory :
    ∃ reason, Settings.load filesThroughDirectory mistakenPlace.directory []
      (some "gen/../conf.json") = .error reason := by
  have located : Settings.locate? filesThroughDirectory ["work"] "gen/../conf.json" =
      some "/work/gen/../conf.json" := by decide +kernel
  have text : (filesThroughDirectory.readText "/work/gen/../conf.json").toOption =
      some Settings.mistaken := by decide +kernel
  have format : Settings.Format.ofPath "gen/../conf.json" = .json := by decide
  have given : Settings.fileSection filesThroughDirectory mistakenPlace.directory
      (.json, "gen/../conf.json") = .ok (some (.named [("flat", ⟨.text "no", .file .json
        (Path.shownFrom (Path.ofNames ["work"]) "/work/gen/../conf.json")⟩)])) := by
    unfold Settings.fileSection mistakenPlace
    simp only [located, text, Option.bind_some, Settings.Format.members?,
      Settings.document?_mistaken]
    rfl
  unfold Settings.load
  simp only [Settings.settingsFiles, Settings.fileSections, format, given,
    Settings.environmentSection?_nil]
  exact ⟨_, rfl⟩

/-- The module meets neither the template nor a path at which the settings file is looked for, and
yet the same command finds that settings file in the files of the first run, and fails. -/
theorem failed_throughDirectory :
    (runThroughDirectory mistakenPlace.files false).status = 0 ∧
      filesThroughDirectory.isFile "/work/gen/index.js" = true ∧
      destination "/work/.env.example" ≠ destination "/work/gen/index.js" ∧
      (∀ tried ∈ triedPaths mistakenPlace.files mistakenPlace.directory (some "gen/../conf.json"),
        destination tried ≠ destination "/work/gen/index.js") ∧
      (runThroughDirectory filesThroughDirectory true).status = 1 := by
  refine ⟨by decide +kernel, by decide +kernel, by decide, by decide, ?_⟩
  obtain ⟨reason, failed⟩ := load_throughDirectory
  unfold runThroughDirectory run
  simp only [failed]
  rfl

/-- A template alone in its working directory gives a module again without a change. -/
theorem generated_again_from_templateOnly :
    let flags : InitFlags := ⟨⟨none, none, false⟩, none, false, false, false⟩
    let first := run ⟨"x86_64", "release"⟩ templateOnly [] ⟨none, ⟨0, false⟩, some (.init flags)⟩
    let again (force : Bool) := run ⟨"x86_64", "release"⟩ ⟨first.files, templateOnly.directory⟩ []
      ⟨none, ⟨0, false⟩, some (.init { flags with force := force })⟩
    first.status = 0 ∧ (again true).status = 0 ∧ (again true).files = first.files ∧
      (again false).status = 2 ∧ (again false).files = first.files := by
  intro flags first again
  have finished : first.status = 0 := by decide +kernel
  have loaded : Settings.load templateOnly.files templateOnly.directory [] none =
      .ok .standard := by
    have known : (Settings.load templateOnly.files templateOnly.directory [] none).toOption =
        some .standard := by decide +kernel
    cases held : Settings.load templateOnly.files templateOnly.directory [] none with
    | error reason =>
      rw [held] at known
      cases known
    | ok preferences =>
      rw [held] at known
      exact congrArg Except.ok (Option.some.inj known)
  have resolved : modulePath? templateOnly .standard flags = some "/work/config/index.js" := by
    decide
  have found : templateOnly.absolute? (flags.about.path .standard) =
      some "/work/.env.example" := by decide
  have apart : Apart templateOnly none "/work/config/index.js" "/work/.env.example" :=
    ⟨by decide, by decide, by decide⟩
  obtain ⟨status, files, unforced⟩ := generated_again ⟨"x86_64", "release"⟩ templateOnly [] none
    ⟨0, false⟩ flags finished loaded found resolved apart
  exact ⟨finished, status, files, unforced rfl⟩

end EnvTemplate.CommandLine
