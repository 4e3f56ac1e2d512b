import EnvTemplate.CommandLine.Run
import EnvTemplate.Proofs.CommandLine.Reading
import EnvTemplate.Proofs.FileSystem.Path

/-!
# How the generation of a module ends

A run that is to generate a module ends in one of seven ways. Up to the point where the absolute
path of the module is known it has changed nothing. From there on the directories around the module
are made, the module may be refused because something is at its path, and it is written at last.
-/
namespace EnvTemplate.CommandLine

open Settings (Environment Preferences)
open FileSystem (Adds Around)

variable {fs : FileSystem} {path : String} {failure : Failure} {place : Place}
  {environment : Environment} {settings : Option String} {flags : InitFlags}
  {preferences : Preferences} {reading : Template.Reading}

/-- Whether the system can make the directories around an absolute path. -/
def CanPrepare (fs : FileSystem) (path : String) : Prop :=
  ∀ parent ∈ Path.parent? path, fs.CanMake parent

instance : Decidable (CanPrepare fs path) :=
  inferInstanceAs (Decidable (∀ parent ∈ Path.parent? path, fs.CanMake parent))

/-- Whether they can all be made or not, only directories around the path are added. -/
theorem prepare_adds (fs : FileSystem) (path : String) :
    Adds (Around path) fs (prepare fs path).1 := by
  unfold prepare
  cases around : Path.parent? path with
  | none => exact Adds.refl _ fs
  | some parent => exact FileSystem.makePath_adds_around fs around

/-- The directories around a path are made without a failure when they can be made. -/
theorem prepare_ends_iff (fs : FileSystem) (path : String) :
    (prepare fs path).2 = none ↔ CanPrepare fs path := by
  unfold prepare CanPrepare
  cases Path.parent? path with
  | none => simp
  | some parent => simpa using FileSystem.makePath_ends_iff fs parent

/-- When directories around a path cannot be made, that is the failure. -/
theorem prepare_failure (failed : (prepare fs path).2 = some failure) :
    ∃ parent fault, failure = .directoryNotMade parent fault := by
  unfold prepare at failed
  cases around : Path.parent? path with
  | none =>
    rw [around] at failed
    cases failed
  | some parent =>
    rw [around] at failed
    obtain ⟨fault, _, same⟩ := Option.map_eq_some_iff.mp failed
    exact ⟨parent, fault, same.symm⟩

/-- The absolute path of the module of a run: the path of the flags, or else that of the settings,
with the ending of the dialect, seen from the working directory. -/
def modulePath? (place : Place) (preferences : Preferences) (flags : InitFlags) : Option String :=
  place.absolute? (modulePath (flags.dialectOf preferences).1 (flags.path preferences))

/-- What a run that is to generate a module has found out before it changes anything: the settings,
what the template reads as, which is without errors, and the absolute path of the module. -/
structure AimsAt (place : Place) (environment : Environment) (settings : Option String)
    (flags : InitFlags) (preferences : Preferences) (reading : Template.Reading) (path : String) :
    Prop where
  /-- The settings are loaded and the template is read. -/
  read : reading? place environment settings flags.about = some (preferences, reading)
  /-- The template has no errors. -/
  fine : reading.hasErrors = false
  /-- The path of the module has an absolute form. -/
  resolved : modulePath? place preferences flags = some path

/-- The ways in which a run that is to generate a module ends, with its failure if there is one and
the file system that it leaves. -/
inductive Ends (place : Place) (environment : Environment) (settings : Option String)
    (flags : InitFlags) : Option Failure → FileSystem → Prop
  /-- The settings cannot be loaded or the template has no text. -/
  | unread {failure : Failure}
      (nothing : reading? place environment settings flags.about = none)
      (early : failure.IsEarly) (status : failure.status = 1) :
      Ends place environment settings flags (some failure) place.files
  /-- The template has errors. -/
  | faulty {preferences : Preferences} {reading : Template.Reading}
      (read : reading? place environment settings flags.about = some (preferences, reading))
      (errors : reading.hasErrors = true) :
      Ends place environment settings flags (some .templateErrors) place.files
  /-- The path of the module has no absolute form. -/
  | pathless {preferences : Preferences} {reading : Template.Reading}
      (read : reading? place environment settings flags.about = some (preferences, reading))
      (fine : reading.hasErrors = false)
      (unresolved : modulePath? place preferences flags = none) :
      Ends place environment settings flags (some .emptyPath) place.files
  /-- The directories around the module cannot be made. -/
  | blocked {preferences : Preferences} {reading : Template.Reading} {path parent : String}
      {fault : Fault}
      (aims : AimsAt place environment settings flags preferences reading path)
      (unable : ¬CanPrepare place.files path) :
      Ends place environment settings flags (some (.directoryNotMade parent fault))
        (prepare place.files path).1
  /-- Something is at the path of the module and must not be overwritten. -/
  | taken {preferences : Preferences} {reading : Template.Reading} {path : String}
      (aims : AimsAt place environment settings flags preferences reading path)
      (able : CanPrepare place.files path)
      (present : (prepare place.files path).1.exists? path = true)
      (kept : flags.mayOverwrite preferences = false) :
      Ends place environment settings flags (some (.outputExists path))
        (prepare place.files path).1
  /-- The module cannot be written. -/
  | unwritten {preferences : Preferences} {reading : Template.Reading} {path : String}
      {fault : Fault}
      (aims : AimsAt place environment settings flags preferences reading path)
      (able : CanPrepare place.files path)
      (allowed : (prepare place.files path).1.exists? path = true →
        flags.mayOverwrite preferences = true)
      (refused : (prepare place.files path).1.writeText path
        (Module.source (flags.dialectOf preferences).1 reading.items) = .error fault) :
      Ends place environment settings flags (some (.outputNotWritten path fault))
        (prepare place.files path).1
  /-- The module is written. -/
  | written {preferences : Preferences} {reading : Template.Reading} {path : String}
      {files : FileSystem}
      (aims : AimsAt place environment settings flags preferences reading path)
      (able : CanPrepare place.files path)
      (allowed : (prepare place.files path).1.exists? path = true →
        flags.mayOverwrite preferences = true)
      (done : (prepare place.files path).1.writeText path
        (Module.source (flags.dialectOf preferences).1 reading.items) = .ok files) :
      Ends place environment settings flags none files

/-- Storing a module ends with what writing it leaves, with a refusal because something is at its
path, or with the fault of writing it. -/
theorem store_spec (fs : FileSystem) (path source : String) (overwrite : Bool) :
    match store fs path source overwrite with
    | .ok written =>
      (fs.exists? path = true → overwrite = true) ∧ fs.writeText path source = .ok written
    | .error failure =>
      (failure = .outputExists path ∧ fs.exists? path = true ∧ overwrite = false) ∨
        ∃ fault, failure = .outputNotWritten path fault ∧
          (fs.exists? path = true → overwrite = true) ∧
            fs.writeText path source = .error fault := by
  unfold store
  cases clash : fs.exists? path && !overwrite with
  | true =>
    obtain ⟨present, kept⟩ := (Bool.and_eq_true _ _).mp clash
    exact .inl ⟨rfl, present, by simpa using kept⟩
  | false =>
    have allowed : fs.exists? path = true → overwrite = true := by
      intro present
      simpa [present] using clash
    cases done : fs.writeText path source with
    | ok written => exact ⟨allowed, rfl⟩
    | error fault => exact .inr ⟨fault, rfl, allowed, rfl⟩

/-- The delivery of a module ends in one of the last four ways. -/
theorem ends_deliver (aims : AimsAt place environment settings flags preferences reading path) :
    Ends place environment settings flags
      (deliver place.files path (Module.source (flags.dialectOf preferences).1 reading.items)
        (flags.mayOverwrite preferences)).2
      (deliver place.files path (Module.source (flags.dialectOf preferences).1 reading.items)
        (flags.mayOverwrite preferences)).1 := by
  unfold deliver
  rcases split : prepare place.files path with ⟨made, _ | failure⟩
  · have able : CanPrepare place.files path := (prepare_ends_iff _ _).mp (by rw [split])
    simp only
    obtain rfl : (prepare place.files path).1 = made := by rw [split]
    have stored := store_spec (prepare place.files path).1 path
      (Module.source (flags.dialectOf preferences).1 reading.items)
      (flags.mayOverwrite preferences)
    cases done : store (prepare place.files path).1 path
        (Module.source (flags.dialectOf preferences).1 reading.items)
        (flags.mayOverwrite preferences) with
    | ok written =>
      rw [done] at stored
      exact .written aims able stored.1 stored.2
    | error failure =>
      rw [done] at stored
      rcases stored with ⟨rfl, present, kept⟩ | ⟨fault, rfl, allowed, refused⟩
      · exact .taken aims able present kept
      · exact .unwritten aims able allowed refused
  · have unable : ¬CanPrepare place.files path := by
      intro able
      have ended := (prepare_ends_iff _ _).mpr able
      rw [split] at ended
      cases ended
    obtain ⟨parent, fault, rfl⟩ := prepare_failure (congrArg Prod.snd split)
    obtain rfl : (prepare place.files path).1 = made := by rw [split]
    exact .blocked aims unable

/-- The generation of a module ends in one of the last five ways. -/
theorem ends_generate (told : List Message)
    (read : reading? place environment settings flags.about = some (preferences, reading))
    (fine : reading.hasErrors = false) :
    Ends place environment settings flags
      (generate place preferences flags reading.items told).failure
      (generate place preferences flags reading.items told).files := by
  unfold generate
  cases resolved : modulePath? place preferences flags with
  | none =>
    rw [modulePath?] at resolved
    simp only [resolved]
    exact .pathless read fine resolved
  | some path =>
    have delivered := ends_deliver ⟨read, fine, resolved⟩
    rw [modulePath?] at resolved
    simp only [resolved]
    rcases split : deliver place.files path
      (Module.source (flags.dialectOf preferences).1 reading.items)
      (flags.mayOverwrite preferences) with ⟨files, _ | failure⟩
    · rw [split] at delivered
      exact delivered
    · rw [split] at delivered
      exact delivered

/-- A run that is to generate a module ends in one of the seven ways. -/
theorem ends_run (build : Build) (place : Place) (environment : Environment)
    (settings : Option String) (voice : Voice) (flags : InitFlags) :
    Ends place environment settings flags
      (run build place environment ⟨settings, voice, some (.init flags)⟩).failure
      (run build place environment ⟨settings, voice, some (.init flags)⟩).files := by
  unfold run
  cases loaded : Settings.load place.files place.directory environment settings with
  | error reason => exact .unread (reading?_of_not_loaded loaded) trivial rfl
  | ok preferences =>
    have read := reading?_of_loaded flags.about loaded
    have examined := examine_spec place preferences flags.about
    simp only [perform, init]
    cases done : examine place preferences flags.about with
    | error failure =>
      rw [done] at examined
      obtain ⟨nothing, early, status⟩ := examined
      rw [nothing] at read
      exact .unread read early status
    | ok found =>
      rw [done] at examined
      obtain ⟨text, here, same⟩ := examined
      rw [here, Option.map_some, ← same] at read
      simp only [Examined.failure?]
      cases errors : found.reading.hasErrors with
      | true => exact .faulty read errors
      | false => exact ends_generate _ read errors

end EnvTemplate.CommandLine
