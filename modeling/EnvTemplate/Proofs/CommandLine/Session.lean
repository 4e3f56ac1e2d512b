import EnvTemplate.Proofs.CommandLine.Changes
import EnvTemplate.Proofs.FileSystem.Keeping

/-!
# Calls one after the other

The program is called again and again, each time with arguments, a working directory and an
environment of its own, and each call meets the files that the calls before it left. A generated
module may be the template, the settings file or the output of a later call. As long as no call has
force in effect, every call keeps all that it meets, and so the files that are there at any time are
there to the end.
-/
namespace EnvTemplate.CommandLine

open Settings (Environment Preferences)
open FileSystem (Keeps)

variable {place : Place} {environment : Environment} {settings : Option String} {flags : InitFlags}
  {failure : Option Failure} {files fs : FileSystem} {build : Build}

/-- A call of the program. -/
structure Call where
  /-- The arguments. -/
  arguments : List String
  /-- The working directory. -/
  directory : Location
  /-- The environment. -/
  environment : Environment

namespace Call

/-- The file system after a call. Arguments that are refused change nothing, and neither do those
that ask for help or for the version. -/
def filesAfter (build : Build) (fs : FileSystem) (call : Call) : FileSystem :=
  match Invocation.ofArguments call.arguments with
  | .error _ => fs
  | .ok invocation => (run build ⟨fs, call.directory⟩ call.environment invocation).files

/-- Whether a call has force in effect: it is to generate a module, and its flag or the settings
that it loads allow that something is overwritten. -/
def isForced (fs : FileSystem) (call : Call) : Bool :=
  match Invocation.ofArguments call.arguments with
  | .ok ⟨settings, _, some (.init flags)⟩ =>
    match Settings.load fs call.directory call.environment settings with
    | .ok preferences => flags.force || preferences.force
    | .error _ => false
  | _ => false

end Call

/-- The file system after calls one after the other. -/
def filesAfterAll (build : Build) (fs : FileSystem) (calls : List Call) : FileSystem :=
  calls.foldl (Call.filesAfter build) fs

/-- Of calls one after the other none has force in effect when its turn comes. -/
def Unforced (build : Build) : FileSystem → List Call → Prop
  | _, [] => True
  | fs, call :: calls => call.isForced fs = false ∧ Unforced build (call.filesAfter build fs) calls

/-- The calls are checked one after the other, each on the files that those before it leave. -/
instance decidableUnforced (build : Build) :
    (fs : FileSystem) → (calls : List Call) → Decidable (Unforced build fs calls)
  | _, [] => inferInstanceAs (Decidable True)
  | fs, call :: calls =>
    have := decidableUnforced build (call.filesAfter build fs) calls
    inferInstanceAs (Decidable (_ ∧ _))

/-- The generation of a module keeps what is there when nothing may be overwritten. -/
theorem Ends.keeps (ends : Ends place environment settings flags failure files)
    (unforced : ∀ preferences,
      Settings.load place.files place.directory environment settings = .ok preferences →
        flags.mayOverwrite preferences = false) : Keeps place.files files := by
  have prepared (path : String) : Keeps place.files (prepare place.files path).1 :=
    (prepare_adds place.files path).keeps
  cases ends with
  | unread nothing early status => exact Keeps.refl place.files
  | faulty read errors => exact Keeps.refl place.files
  | pathless read fine unresolved => exact Keeps.refl place.files
  | blocked aims unable => exact prepared _
  | taken aims able present kept => exact prepared _
  | unwritten aims able allowed refused => exact prepared _
  | @written preferences reading path files aims able allowed done =>
    obtain ⟨text, loaded, here, same⟩ := exists_of_reading? aims.read
    have absent : (prepare place.files path).1.exists? path = false := by
      cases there : (prepare place.files path).1.exists? path with
      | false => rfl
      | true =>
        have overwrite := allowed there
        rw [unforced preferences loaded] at overwrite
        cases overwrite
    exact (prepared path).trans (FileSystem.keeps_of_writeText absent done)

/-- A check of a template changes nothing. -/
theorem files_check (place : Place) (preferences : Preferences) (flags : CheckFlags) :
    (check place preferences flags).files = place.files := by
  unfold check
  cases examine place preferences flags.about <;> rfl

/-- A run that is not to generate a module changes nothing. -/
theorem files_run_of_other (build : Build) (place : Place) (environment : Environment)
    (invocation : Invocation) (other : ∀ flags, invocation.command ≠ some (.init flags)) :
    (run build place environment invocation).files = place.files := by
  unfold run
  cases Settings.load place.files place.directory environment invocation.settings with
  | error reason => rfl
  | ok preferences =>
    cases asked : invocation.command with
    | none => rfl
    | some command =>
      cases command with
      | init flags => exact absurd asked (other flags)
      | check flags => exact files_check place preferences flags
      | version => rfl

/-- A call without force in effect keeps what is there. -/
theorem Call.keeps_filesAfter {call : Call} (unforced : call.isForced fs = false) :
    Keeps fs (call.filesAfter build fs) := by
  unfold Call.isForced at unforced
  unfold Call.filesAfter
  cases read : Invocation.ofArguments call.arguments with
  | error stop => exact Keeps.refl fs
  | ok invocation =>
    rw [read] at unforced
    obtain ⟨settings, voice, command⟩ := invocation
    by_cases generates : ∃ flags, command = some (.init flags)
    · obtain ⟨flags, rfl⟩ := generates
      refine (ends_run build ⟨fs, call.directory⟩ call.environment settings voice flags).keeps ?_
      intro preferences loaded
      simp only [loaded] at unforced
      exact unforced
    · have same := files_run_of_other build ⟨fs, call.directory⟩ call.environment
        ⟨settings, voice, command⟩ fun flags asked => generates ⟨flags, asked⟩
      show Keeps fs
        (run build ⟨fs, call.directory⟩ call.environment ⟨settings, voice, command⟩).files
      rw [same]
      exact Keeps.refl fs

/-- Calls without force in effect keep what is there. -/
theorem keeps_filesAfterAll {calls : List Call} (unforced : Unforced build fs calls) :
    Keeps fs (filesAfterAll build fs calls) := by
  induction calls generalizing fs with
  | nil => exact Keeps.refl fs
  | cons call calls ih => exact (Call.keeps_filesAfter unforced.1).trans (ih unforced.2)

/-- Calls after others meet the files that those left. -/
theorem filesAfterAll_append (build : Build) (fs : FileSystem) (first second : List Call) :
    filesAfterAll build fs (first ++ second) =
      filesAfterAll build (filesAfterAll build fs first) second :=
  List.foldl_append

/-- Calls are without force in effect when the first of them are and those after them are. -/
theorem unforced_append_iff {first second : List Call} :
    Unforced build fs (first ++ second) ↔
      Unforced build fs first ∧ Unforced build (filesAfterAll build fs first) second := by
  induction first generalizing fs with
  | nil => exact ⟨fun whole => ⟨trivial, whole⟩, fun both => both.2⟩
  | cons call first ih =>
    show (call.isForced fs = false ∧
      Unforced build (call.filesAfter build fs) (first ++ second)) ↔ _
    rw [ih]
    exact and_assoc.symm

/-- **Without force files last.** When of calls one after the other none has force in effect, every
file that is there after some of them is there after more of them, with its content, and it is found
by the paths by which it was found. -/
theorem files_last (build : Build) (fs : FileSystem) (calls : List Call)
    (unforced : Unforced build fs calls) (earlier later : Nat) (order : earlier ≤ later) :
    let before := filesAfterAll build fs (calls.take earlier)
    let after := filesAfterAll build fs (calls.take later)
    (∀ location content, before.content? location = some content →
      after.content? location = some content) ∧
    ∀ path location content, before.find path = .ok (location, .file content) →
      after.find path = .ok (location, .file content) := by
  intro before after
  let between := (calls.take later).drop earlier
  have split : calls.take later = calls.take earlier ++ between := by
    have whole := (List.take_append_drop earlier (calls.take later)).symm
    rwa [List.take_take, Nat.min_eq_left order] at whole
  have unforcedSoFar : Unforced build fs (calls.take later) := by
    rw [← List.take_append_drop later calls] at unforced
    exact (unforced_append_iff.mp unforced).1
  have keeps : Keeps before after := by
    rw [split] at unforcedSoFar
    have kept := keeps_filesAfterAll (unforced_append_iff.mp unforcedSoFar).2
    rw [← filesAfterAll_append, ← split] at kept
    exact kept
  exact ⟨fun _ _ held => keeps.content? held, fun _ _ _ found => keeps.find found⟩

/-- Calls on a template. The second takes the module that the first one writes for its template,
the third is to write over that module, and the arguments of the fourth are refused. -/
def callsOnTemplate : List Call :=
  [⟨["init", "-o", "app.js"], ["work"], []⟩,
    ⟨["check", "-e", "work/app.js"], [], []⟩,
    ⟨["init", "-e", "work/.env.example", "-o", "work/../work/app.js"], [], []⟩,
    ⟨["init", "-o"], ["work"], []⟩]

/-- The module that the first of these calls writes lasts to their end. -/
theorem module_lasts :
    let build : Build := ⟨"x86_64", "release"⟩
    Unforced build templateOnly.files callsOnTemplate ∧ 1 ≤ 4 ∧ ∃ content,
      (filesAfterAll build templateOnly.files (callsOnTemplate.take 1)).content?
        ["work", "app.js"] = some content ∧
      (filesAfterAll build templateOnly.files (callsOnTemplate.take 4)).content?
        ["work", "app.js"] = some content := by
  intro build
  have unforced : Unforced build templateOnly.files callsOnTemplate := by decide +kernel
  have written : ((filesAfterAll build templateOnly.files (callsOnTemplate.take 1)).content?
      ["work", "app.js"]).isSome = true := by decide +kernel
  obtain ⟨content, held⟩ := Option.isSome_iff_exists.mp written
  have lasting := files_last build templateOnly.files callsOnTemplate unforced 1 4 (by decide)
  exact ⟨unforced, by decide, content, held, lasting.1 _ _ held⟩

end EnvTemplate.CommandLine
