import EnvTemplate.Proofs.FileSystem.Path
import EnvTemplate.Proofs.FileSystem.Writing

/-!
# Looking for files

Following a path asks a file system what is at the locations that are passed, as long as the names
lead on. File systems that agree there find the same. Looking for a file by several paths asks for
the locations of one path after the other, up to the first path at which a file is. Taking files
away leaves the directories as they are, so every path leads where it led, and the files that are
found are those that were found and are not taken away.
-/
namespace EnvTemplate.FileSystem

variable {fs other : FileSystem} {here there location : Location} {locations : List Location}
  {path name : String} {names paths : List String} {content : List UInt8}

/-- Two file systems have the same at each of some locations. -/
def AgreeAt (locations : List Location) (fs other : FileSystem) : Prop :=
  ∀ location ∈ locations, other.entry? location = fs.entry? location

/-- What agrees at two lists of locations agrees at each of them. -/
theorem agreeAt_append {first second : List Location} :
    AgreeAt (first ++ second) fs other ↔ AgreeAt first fs other ∧ AgreeAt second fs other :=
  List.forall_mem_append

/-- The locations that following names from a location asks for. After the names also the location
that they lead to is asked for. -/
def askedAlong (fs : FileSystem) (here : Location) : List String → List Location
  | [] => [here]
  | name :: names =>
    here :: match fs.enter here name with
      | .error _ => []
      | .ok next => fs.askedAlong next names

/-- The locations that finding what is at an absolute path asks for. -/
def asked (fs : FileSystem) (path : String) : List Location :=
  match pathFault? path with
  | some _ => []
  | none => fs.askedAlong [] (Path.names path)

/-- File systems that agree where names are followed lead to the same location, and agree there. -/
theorem follow_congr (agree : AgreeAt (fs.askedAlong here names) fs other) :
    other.follow here names = fs.follow here names ∧
      ∀ there, fs.follow here names = .ok there → other.entry? there = fs.entry? there := by
  induction names generalizing here with
  | nil =>
    refine ⟨rfl, ?_⟩
    rintro _ ⟨⟩
    exact agree here List.mem_cons_self
  | cons name names ih =>
    -- The location that a name is followed from is asked for, so both lead to the same next one.
    obtain ⟨first, rest⟩ := List.forall_mem_cons.mp agree
    have entered : other.enter here name = fs.enter here name := by
      rw [enter, enter, first]
    unfold follow
    rw [entered]
    cases led : fs.enter here name with
    | error fault =>
      refine ⟨rfl, ?_⟩
      rintro _ ⟨⟩
    | ok next =>
      rw [led] at rest
      exact ih rest

/-- File systems that agree where a path asks find the same by it. -/
theorem find_congr (agree : AgreeAt (fs.asked path) fs other) : other.find path = fs.find path := by
  unfold asked at agree
  unfold find locate
  cases bad : pathFault? path with
  | some fault => rfl
  | none =>
    rw [bad] at agree
    obtain ⟨followed, same⟩ := follow_congr agree
    simp only [followed]
    cases led : fs.follow [] (Path.names path) with
    | error fault => rfl
    | ok there => simp only [same there led]

/-- The locations that looking for a file by paths asks for: those of each path up to the first at
which a file is. -/
def askedUntil (fs : FileSystem) : List String → List Location
  | [] => []
  | path :: paths => fs.asked path ++ if fs.isFile path then [] else fs.askedUntil paths

/-- Whether a file is at a path is told by what is found there. -/
theorem isFile_of_find (same : other.find path = fs.find path) :
    other.isFile path = fs.isFile path := by
  rw [isFile, isFile, same]

/-- File systems that agree where a file is looked for find the same one. -/
theorem findFile_congr (agree : AgreeAt (fs.askedUntil paths) fs other) :
    paths.find? other.isFile = paths.find? fs.isFile ∧
      ∀ path, paths.find? fs.isFile = some path → other.find path = fs.find path := by
  induction paths with
  | nil => exact ⟨rfl, nofun⟩
  | cons path paths ih =>
    obtain ⟨first, rest⟩ := agreeAt_append.mp agree
    have same := find_congr first
    rw [List.find?_cons, List.find?_cons, isFile_of_find same]
    cases file : fs.isFile path with
    | true =>
      refine ⟨rfl, ?_⟩
      rintro _ ⟨⟩
      exact same
    | false =>
      rw [file] at rest
      exact ih rest

/-- The location that a path leads to when it can be followed. -/
def destination (path : String) : Location := reach [] (Path.names path)

/-- Names lead to the location of these names when none of them is one of dots. -/
theorem reach_eq_append (plain : ∀ name ∈ names, name ≠ "." ∧ name ≠ "..") :
    reach here names = here ++ names := by
  induction names generalizing here with
  | nil => exact (List.append_nil here).symm
  | cons name names ih =>
    obtain ⟨⟨single, double⟩, rest⟩ := List.forall_mem_cons.mp plain
    have led : moved here name = here ++ [name] := by
      rw [moved, if_neg single, if_neg double]
    calc reach here (name :: names)
        = reach (moved here name) names := rfl
      _ = here ++ name :: names := by rw [led, ih rest, List.append_assoc, List.singleton_append]

/-- Names that can be followed lead to their location. -/
theorem eq_reach_of_follow (followed : fs.follow here names = .ok there) :
    there = reach here names := by
  induction names generalizing here with
  | nil =>
    cases followed
    rfl
  | cons name names ih =>
    unfold follow at followed
    cases entered : fs.enter here name with
    | error fault =>
      rw [entered] at followed
      cases followed
    | ok next =>
      rw [entered] at followed
      have led := (enter_eq_ok_iff.mp entered).2
      rw [step_eq] at led
      split at led
      · cases led
        exact ih followed
      · cases led

/-- A file is found by a path that leads to it, unless the path asks for a directory. -/
theorem find_eq_file_iff :
    fs.find path = .ok (location, .file content) ↔
      Path.endsWithSlash path = false ∧ fs.locate path (Path.names path) = .ok location ∧
        fs.content? location = some content := by
  unfold find
  cases fs.locate path (Path.names path) with
  | error fault => simp
  | ok there =>
    by_cases same : there = location
    · subst same
      cases held : fs.entry? there with
      | none => simp [content?, held]
      | some entry =>
        cases entry with
        | directory => simp [content?, held]
        | file found => cases slash : Path.endsWithSlash path <;> simp [content?, held]
    · cases held : fs.entry? there with
      | none => simp [held, same]
      | some entry =>
        cases entry with
        | directory => simp [held, same]
        | file found => cases slash : Path.endsWithSlash path <;> simp [held, same]

/-- A file is at a path when one is found there. -/
theorem isFile_iff :
    fs.isFile path = true ↔ ∃ location content, fs.find path = .ok (location, .file content) := by
  unfold isFile
  constructor
  · intro file
    split at file
    · exact ⟨_, _, ‹_›⟩
    · cases file
  · rintro ⟨location, content, found⟩
    rw [found]

/-- A path that can be followed leads to its destination. -/
theorem eq_destination_of_locate (located : fs.locate path (Path.names path) = .ok location) :
    location = destination path := by
  unfold locate at located
  cases bad : pathFault? path with
  | some fault =>
    rw [bad] at located
    cases located
  | none =>
    rw [bad] at located
    exact eq_reach_of_follow located

/-- A file is found at the location that its path leads to. -/
theorem eq_destination_of_find (found : fs.find path = .ok (location, .file content)) :
    location = destination path :=
  eq_destination_of_locate (find_eq_file_iff.mp found).2.1

/-- The paths at which a file is looked for: those up to the first at which one is. -/
def tried (fs : FileSystem) : List String → List String
  | [] => []
  | path :: paths => path :: if fs.isFile path then [] else fs.tried paths

/-- Only paths that are given are tried. -/
theorem mem_of_mem_tried (listed : path ∈ fs.tried paths) : path ∈ paths := by
  induction paths with
  | nil => exact listed
  | cons first paths ih =>
    rcases List.mem_cons.mp listed with rfl | later
    · exact List.mem_cons_self
    · split at later
      · cases later
      · exact List.mem_cons_of_mem first (ih later)

/-- File systems in which the paths that are tried find the same files lead to the same one. -/
theorem findFile_of_tried
    (same : ∀ path ∈ fs.tried paths, ∀ location content,
      other.find path = .ok (location, .file content) ↔
        fs.find path = .ok (location, .file content)) :
    paths.find? other.isFile = paths.find? fs.isFile ∧
      ∀ path, paths.find? fs.isFile = some path → other.find path = fs.find path := by
  induction paths with
  | nil => exact ⟨rfl, nofun⟩
  | cons path paths ih =>
    obtain ⟨first, rest⟩ := List.forall_mem_cons.mp same
    have files : other.isFile path = fs.isFile path := by
      rw [Bool.eq_iff_iff, isFile_iff, isFile_iff]
      simp only [first]
    rw [List.find?_cons, List.find?_cons, files]
    cases file : fs.isFile path with
    | true =>
      refine ⟨rfl, ?_⟩
      rintro _ ⟨⟩
      obtain ⟨location, content, found⟩ := isFile_iff.mp file
      rw [found, (first location content).mpr found]
    | false =>
      rw [file] at rest
      exact ih rest

/-- A file system without the files at some locations. -/
def withoutFiles (fs : FileSystem) (locations : List Location) : FileSystem :=
  ⟨fs.entries.filter fun held => !(locations.contains held.1 && (fs.content? held.1).isSome)⟩

/-- What is looked up under names that pass a test is not changed by dropping other names. -/
theorem lookup_filter {α β : Type} [BEq α] [LawfulBEq α] (keep : α → Bool) (key : α)
    (pairs : List (α × β)) :
    (pairs.filter fun pair => keep pair.1).lookup key =
      if keep key then pairs.lookup key else none := by
  induction pairs with
  | nil => simp
  | cons pair pairs ih =>
    obtain ⟨held, value⟩ := pair
    by_cases same : key = held
    · subst same
      by_cases kept : keep key = true
      · simp [kept]
      · simp [kept, ih]
    · have apart : (key == held) = false := beq_eq_false_iff_ne.mpr same
      by_cases kept : keep held = true
      · simp [kept, List.lookup_cons, apart, ih]
      · simp [kept, List.lookup_cons, apart, ih]

/-- Where files are taken away there is nothing afterwards if a file was there, and anywhere else
there is what was there. -/
theorem entry_withoutFiles (fs : FileSystem) (locations : List Location) (location : Location) :
    entry? (fs.withoutFiles locations) location =
      if location ∈ locations ∧ (fs.content? location).isSome then none
      else fs.entry? location := by
  cases location with
  | nil => simp [content?]
  | cons name names =>
    show (List.filter _ fs.entries).lookup (name :: names) = _
    rw [lookup_filter fun held => !(locations.contains held && (fs.content? held).isSome)]
    by_cases taken : name :: names ∈ locations ∧ (fs.content? (name :: names)).isSome
    · rw [if_pos taken, if_neg (by simp [taken])]
    · rw [if_neg taken, if_pos (by simpa [imp_iff_not_or] using taken)]
      rfl

/-- Taking files away leaves the directories. -/
theorem directory_withoutFiles :
    entry? (fs.withoutFiles locations) location = some .directory ↔
      fs.entry? location = some .directory := by
  rw [entry_withoutFiles]
  split
  · rename_i taken
    obtain ⟨content, file⟩ := Option.isSome_iff_exists.mp taken.2
    simp [content?_eq_some.mp file]
  · exact Iff.rfl

/-- Taking files away leaves the other files. -/
theorem content?_withoutFiles :
    (fs.withoutFiles locations).content? location =
      if location ∈ locations then none else fs.content? location := by
  rw [content?, entry_withoutFiles]
  by_cases listed : location ∈ locations
  · cases file : fs.content? location with
    | none =>
      simp only [listed, Option.isSome_none, Bool.false_eq_true, and_false, if_false, if_true]
      exact file
    | some content => simp [listed]
  · simp [listed, content?]

/-- Of the files that paths lead to those are found that were found and are not taken away. -/
theorem find_withoutFiles :
    (fs.withoutFiles locations).find path = .ok (location, .file content) ↔
      fs.find path = .ok (location, .file content) ∧ location ∉ locations := by
  -- A path that can be followed passes directories only, and these are the same.
  have located : (fs.withoutFiles locations).locate path (Path.names path) = .ok location ↔
      fs.locate path (Path.names path) = .ok location :=
    ⟨locate_of_directories fun _ => directory_withoutFiles.mp,
      locate_of_directories fun _ => directory_withoutFiles.mpr⟩
  rw [find_eq_file_iff, find_eq_file_iff, located, content?_withoutFiles]
  by_cases listed : location ∈ locations
  · simp [listed]
  · simp [listed]

end EnvTemplate.FileSystem
