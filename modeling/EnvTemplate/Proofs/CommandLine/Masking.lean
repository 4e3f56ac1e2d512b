import EnvTemplate.Proofs.CommandLine.Changes
import EnvTemplate.Proofs.Settings.Sections

/-!
# Flags before settings

A flag of a command stands in for the setting of the same thing. What that setting says then has no
effect at all: none on the status and on the files, and none on what is told, where a name that
nobody knows would otherwise be worth a warning. Only the settings that the flags leave open count,
and for a check only those about the template among them.
-/
namespace EnvTemplate

/-- Two settings agree on some names. -/
def Settings.Preferences.AgreeOn (first second : Preferences) (names : String → Bool) : Prop :=
  ∀ name, names name = true → first.value? name = second.value? name

namespace CommandLine

open Settings (Environment Preferences Value)

/-- The names of the settings about a template that the flags leave open. -/
def TemplateFlags.leavesOpen (flags : TemplateFlags) : String → Bool
  | "example" => flags.template.isNone
  | "group" => flags.grouping.isNone
  | "flat" => !flags.flat
  | _ => false

/-- The names of the settings about a module and its template that the flags leave open. -/
def InitFlags.leavesOpen (flags : InitFlags) : String → Bool
  | "output" => flags.output.isNone
  | "module" => !flags.ts && !flags.cjs
  | "force" => !flags.force
  | name => flags.about.leavesOpen name

/-- Two runs cannot be told apart: they end with the same status, show the same in every voice, and
leave the same files. -/
structure Outcome.Alike (first second : Outcome) : Prop where
  /-- The status is the same. -/
  status : first.status = second.status
  /-- The results are the same. -/
  output : ∀ voice, first.output voice = second.output voice
  /-- The problems are the same. -/
  errors : ∀ voice, first.errors voice = second.errors voice
  /-- The files are the same. -/
  files : first.files = second.files

/-- A run is like itself. -/
theorem Outcome.Alike.refl (outcome : Outcome) : outcome.Alike outcome :=
  ⟨rfl, fun _ => rfl, fun _ => rfl, rfl⟩

/-- A default matters only when nothing is given. -/
theorem getD_eq {given : Option String} {first second : String}
    (same : given.isNone = true → first = second) : given.getD first = given.getD second := by
  cases given with
  | none => exact same rfl
  | some value => rfl

/-- What is asked for besides matters only when nothing is given. -/
theorem or_eq {given first second : Bool} (same : (!given) = true → first = second) :
    (given || first) = (given || second) := by
  cases given with
  | false => exact same rfl
  | true => rfl

variable {build : Build} {place : Place} {first second : Preferences}

namespace TemplateFlags

variable {flags : TemplateFlags}

/-- The path of the template comes from what is left open. -/
theorem path_eq (agree : first.AgreeOn second flags.leavesOpen) :
    flags.path first = flags.path second :=
  getD_eq fun free => Value.text.inj (Option.some.inj (agree "example" free))

/-- Whether groups are disregarded comes from what is left open. -/
theorem isFlat_eq (agree : first.AgreeOn second flags.leavesOpen) :
    flags.isFlat first = flags.isFlat second :=
  or_eq fun free => Value.boolean.inj (Option.some.inj (agree "flat" free))

/-- The grouping and the warning about it come from what is left open. -/
theorem groupingOf_eq (agree : first.AgreeOn second flags.leavesOpen) :
    flags.groupingOf first = flags.groupingOf second := by
  have name : flags.grouping.getD first.grouping = flags.grouping.getD second.grouping :=
    getD_eq fun free => Value.text.inj (Option.some.inj (agree "group" free))
  unfold groupingOf
  rw [name]

/-- What is examined comes from what is left open. -/
theorem examine_eq (agree : first.AgreeOn second flags.leavesOpen) :
    examine place first flags = examine place second flags := by
  unfold examine options
  rw [path_eq agree, isFlat_eq agree, groupingOf_eq agree]

end TemplateFlags

namespace InitFlags

variable {flags : InitFlags}

/-- The flags about the template leave nothing open that is not open among all flags. -/
theorem agreeOn_about (agree : first.AgreeOn second flags.leavesOpen) :
    first.AgreeOn second flags.about.leavesOpen := by
  intro name free
  apply agree
  unfold leavesOpen
  split
  · cases free
  · cases free
  · cases free
  · exact free

/-- The path of the module comes from what is left open. -/
theorem path_eq (agree : first.AgreeOn second flags.leavesOpen) :
    flags.path first = flags.path second :=
  getD_eq fun free => Value.text.inj (Option.some.inj (agree "output" free))

/-- Whether something may be overwritten comes from what is left open. -/
theorem mayOverwrite_eq (agree : first.AgreeOn second flags.leavesOpen) :
    flags.mayOverwrite first = flags.mayOverwrite second :=
  or_eq fun free => Value.boolean.inj (Option.some.inj (agree "force" free))

/-- The dialect and the warning about it come from what is left open. -/
theorem dialectOf_eq (agree : first.AgreeOn second flags.leavesOpen) :
    flags.dialectOf first = flags.dialectOf second := by
  unfold dialectOf
  by_cases ts : flags.ts = true
  · rw [if_pos ts, if_pos ts]
  · by_cases cjs : flags.cjs = true
    · rw [if_neg ts, if_neg ts, if_pos cjs, if_pos cjs]
    · have free : (!flags.ts && !flags.cjs) = true := by simp [ts, cjs]
      have name : first.dialect = second.dialect :=
        Value.text.inj (Option.some.inj (agree "module" free))
      rw [name]

/-- The generation of a module comes from what is left open. -/
theorem init_eq (agree : first.AgreeOn second flags.leavesOpen) :
    init place first flags = init place second flags := by
  unfold init generate
  rw [TemplateFlags.examine_eq (agreeOn_about agree), dialectOf_eq agree, path_eq agree,
    mayOverwrite_eq agree]

end InitFlags

/-- The names of the settings that a command leaves open. A check leaves nothing open about a
module, and the other commands leave nothing open at all. -/
def leavesOpen : Option Command → String → Bool
  | some (.init flags) => flags.leavesOpen
  | some (.check flags) => flags.about.leavesOpen
  | _ => fun _ => false

/-- What a command does comes from what it leaves open. -/
theorem perform_eq {command : Option Command}
    (agree : first.AgreeOn second (leavesOpen command)) :
    perform build place first command = perform build place second command := by
  cases command with
  | none => rfl
  | some command =>
    cases command with
    | init flags => exact InitFlags.init_eq agree
    | check flags =>
      simp only [perform, check]
      rw [TemplateFlags.examine_eq agree]
    | version => rfl

/-- A run with settings that can be loaded does what its command asks for with them. -/
theorem run_eq_perform {environment : Environment} {settings : Option String}
    (loaded : Settings.load place.files place.directory environment settings = .ok first)
    (voice : Voice) (command : Option Command) :
    run build place environment ⟨settings, voice, command⟩ =
      perform build place first command := by
  unfold run
  rw [loaded]

/-- **A flag masks its setting.** With two settings that agree on what the flags of a command leave
open, what the command does cannot be told apart, whatever the other settings are, also when they
are names that nobody knows. For a check these are all settings about the module. The same holds of
whole runs on the same files whose sources give these settings. -/
theorem flags_mask_settings (build : Build) (place : Place) (command : Option Command)
    (first second : Preferences) (agree : first.AgreeOn second (leavesOpen command)) :
    (perform build place first command).Alike (perform build place second command) ∧
      ∀ environment later settings other voice,
        Settings.load place.files place.directory environment settings = .ok first →
          Settings.load place.files place.directory later other = .ok second →
            (run build place environment ⟨settings, voice, command⟩).Alike
              (run build place later ⟨other, voice, command⟩) := by
  have same := @perform_eq build place _ _ _ agree
  refine ⟨same ▸ .refl _, ?_⟩
  intro environment later settings other voice loaded loadedLater
  rw [run_eq_perform loaded, run_eq_perform loadedLater, same]
  exact .refl _

/-- An environment that asks for a dialect that nobody knows. -/
def strangeDialect : Environment := [("ENVUS_INIT__MODULE", "odd")]

/-- The section that this environment gives. -/
theorem environmentSection?_strangeDialect :
    Settings.environmentSection? strangeDialect =
      some (.named [("module", ⟨.text "odd", .environment⟩)]) := by
  have path : Settings.Variable.path? "ENVUS_INIT__MODULE" =
      some [Settings.sectionName, "module"] := by
    decide
  have held : Settings.Variable.valueOf "odd" = .text "odd" := by
    rw [Settings.Variable.valueOf, Settings.Variable.value]
    rfl
  unfold Settings.environmentSection? strangeDialect
  simp only [List.filterMap_cons, Settings.variableSection?, path, held]
  rfl

/-- Beside the template there are no settings files. -/
theorem fileSections_templateOnly :
    Settings.fileSections templateOnly.files templateOnly.directory (Settings.settingsFiles none) =
      .ok [] := by
  have absent : ∀ file ∈ Settings.settingsFiles none,
      Settings.locate? templateOnly.files templateOnly.directory file.2 = none := by
    decide +kernel
  simp only [Settings.settingsFiles, Settings.projectFiles, List.forall_mem_cons] at absent
  obtain ⟨toml, json, yaml, yml, _⟩ := absent
  simp only [Settings.settingsFiles, Settings.projectFiles, Settings.fileSections,
    Settings.fileSection_of_not_found toml, Settings.fileSection_of_not_found json,
    Settings.fileSection_of_not_found yaml, Settings.fileSection_of_not_found yml]
  rfl

/-- Flags that choose the dialect. -/
def choosingDialect : InitFlags := ⟨⟨none, none, false⟩, none, false, true, false⟩

/-- With flags that choose the dialect, a dialect among the settings that nobody knows is not even
warned about. -/
theorem flags_mask_strangeDialect :
    let build : Build := ⟨"x86_64", "release"⟩
    let strange := { Preferences.standard with dialect := "odd" }
    let ran (environment : Environment) :=
      run build templateOnly environment ⟨none, ⟨0, false⟩, some (.init choosingDialect)⟩
    strange.AgreeOn .standard (leavesOpen (some (.init choosingDialect))) ∧
      Settings.load templateOnly.files templateOnly.directory strangeDialect none = .ok strange ∧
      (ran strangeDialect).Alike (ran []) ∧ (ran strangeDialect).errors ⟨0, false⟩ = "" ∧
      (ran strangeDialect).status = 0 := by
  intro build strange ran
  have agree : strange.AgreeOn .standard (leavesOpen (some (.init choosingDialect))) := by
    intro name free
    have other : name ≠ "module" := by
      rintro rfl
      cases free
    unfold Preferences.value?
    split <;> first | rfl | contradiction
  have loaded : Settings.load templateOnly.files templateOnly.directory strangeDialect none =
      .ok strange := by
    unfold Settings.load
    rw [environmentSection?_strangeDialect, fileSections_templateOnly]
    rfl
  have standard : Settings.load templateOnly.files templateOnly.directory [] none =
      .ok .standard := by
    unfold Settings.load
    rw [Settings.environmentSection?_nil, fileSections_templateOnly]
    rfl
  have alike : (ran strangeDialect).Alike (ran []) :=
    (flags_mask_settings build templateOnly (some (.init choosingDialect)) strange .standard
      agree).2 strangeDialect [] none none ⟨0, false⟩ loaded standard
  have silent : (ran []).errors ⟨0, false⟩ = "" := by decide +kernel
  have finished : (ran []).status = 0 := by decide +kernel
  exact ⟨agree, loaded, alike, (alike.errors _).trans silent, alike.status.trans finished⟩

end CommandLine

end EnvTemplate
