import EnvTemplate.Settings.Load

/-!
# Which setting counts

The sections of all sources are laid over one another. When all of them are tables, the setting of a
name is that of the most important section that has one, whatever the less important ones hold, and
only the names of the settings are looked at. The settings are loaded when each of these settings
has the type that its name asks for.
-/
namespace EnvTemplate.Settings

variable {fs : FileSystem} {directory : Location} {environment : Environment}
  {custom : Option String} {sections : List Section} {preferences : Preferences}

namespace Section

/-- The setting of a name in a section that is a table. -/
def get? (given : Section) (name : String) : Option Setting :=
  match given with
  | named settings => settings.lookup name
  | whole _ => none

end Section

/-- The sections of all sources of a run, the least important first: that of the built-in settings,
those of the settings files, and that of the environment. There are none when a settings file is
malformed. -/
def allSections (fs : FileSystem) (directory : Location) (environment : Environment)
    (custom : Option String) : Except SettingsError (List Section) :=
  match fileSections fs directory (settingsFiles custom) with
  | .error fault => .error fault
  | .ok sections => .ok (.standard :: (sections ++ (environmentSection? environment).toList))

/-- The sections of settings files are that of the first file, if it gives one, and after it those
of the others. -/
theorem fileSections_cons (file : Format × String) (files : List (Format × String)) :
    fileSections fs directory (file :: files) = (do
      let given ← fileSection fs directory file
      let sections ← fileSections fs directory files
      return given.toList ++ sections) := by
  rw [fileSections]
  cases fileSection fs directory file with
  | error fault => rfl
  | ok given => cases fileSections fs directory files <;> rfl

/-- The sections of all sources are there once those of the settings files are. -/
theorem allSections_eq_bind :
    allSections fs directory environment custom = (do
      let sections ← fileSections fs directory (settingsFiles custom)
      return .standard :: (sections ++ (environmentSection? environment).toList)) := by
  rw [allSections]
  cases fileSections fs directory (settingsFiles custom) <;> rfl

/-- A settings file that is asked for lies between the built-in settings and the environment, in
place of all those of the project. -/
theorem allSections_custom (path : String) :
    allSections fs directory environment (some path) = (do
      let given ← fileSection fs directory (.ofPath path, path)
      return .standard :: (given.toList ++ (environmentSection? environment).toList)) := by
  have last : fileSections fs directory [] = pure [] := rfl
  simp only [allSections_eq_bind, settingsFiles, fileSections_cons, last, bind_assoc, pure_bind,
    List.append_assoc, List.nil_append]

/-- The value of the setting of a name. -/
def Preferences.value? (preferences : Preferences) : String → Option Value
  | "example" => some (.text preferences.template)
  | "output" => some (.text preferences.output)
  | "group" => some (.text preferences.grouping)
  | "module" => some (.text preferences.dialect)
  | "flat" => some (.boolean preferences.flat)
  | "force" => some (.boolean preferences.force)
  | _ => none

/-- A computation that goes on with what another one gives ends well when both do. -/
theorem bind_eq_ok_iff {α β ε : Type} {first : Except ε α} {next : α → Except ε β} {result : β} :
    first >>= next = .ok result ↔ ∃ value, first = .ok value ∧ next value = .ok result := by
  cases first with
  | error fault => exact ⟨nofun, nofun⟩
  | ok value =>
    refine ⟨fun done => ⟨value, rfl, done⟩, ?_⟩
    rintro ⟨_, same, done⟩
    cases same
    exact done

/-- A settings file that is not found gives no section. -/
theorem fileSection_of_not_found {format : Format} {path : String}
    (missing : locate? fs directory path = none) :
    fileSection fs directory (format, path) = .ok none := by
  unfold fileSection
  rw [missing]

/-- A settings file with a text under the name of a boolean. -/
def mistaken : String := "\x7b\"init\": \x7b\"flat\": \"no\"\x7d\x7d"

/-- The table that is read from the settings file. -/
theorem document?_mistaken :
    Json.document? mistaken.toList = some [(sectionName, .table [("flat", .text "no")])] := by
  have spelled : mistaken.toList =
      ['\x7b', '"', 'i', 'n', 'i', 't', '"', ':', ' ', '\x7b', '"', 'f', 'l', 'a', 't', '"', ':',
        ' ', '"', 'n', 'o', '"', '\x7d', '\x7d'] := by
    decide
  rw [spelled]
  -- The readers of JSON are recursive in a way that evaluation does not follow, so each of the two
  -- objects and what is in it is opened by hand.
  unfold Json.document? Json.maxDepth
  rw [Json.members.eq_def, Json.value.eq_def]
  simp only [Nat.reduceSub]
  rw [Json.members.eq_def, Json.value.eq_def]
  rfl

end EnvTemplate.Settings
