import EnvTemplate.Proofs.FileSystem.Lookup
import EnvTemplate.Proofs.Settings.Sections
import Mathlib.Data.List.Find

/-!
# Where settings are read from

A settings file is looked for at some paths, one after the other, and what is anywhere else does not
count for it. When a file is asked for, no other settings file counts. A settings file of a project
that is asked for by its name is looked for at the same paths and read in the same notation as it is
without being asked for, so it counts as it does when it is the only one of the project.
-/
namespace EnvTemplate.Settings

open FileSystem (AgreeAt destination)

variable {fs other : FileSystem} {directory : Location} {environment : Environment}
  {custom : Option String} {path name : String}

/-- The paths at which a settings file is looked for, one after the other. -/
def candidates (directory : Location) (path : String) : List String :=
  if Path.isAbsolute path then [path]
  else (searchDirectories directory).map fun place => Path.join place path

/-- A settings file is found at the first of its paths at which a file is. -/
theorem locate?_eq_find? (fs : FileSystem) (directory : Location) (path : String) :
    locate? fs directory path = (candidates directory path).find? fs.isFile := by
  unfold locate? candidates
  split
  · cases file : fs.isFile path <;> simp [file]
  · rfl

/-- The locations that looking for a settings file asks for. -/
def consulted (fs : FileSystem) (directory : Location) (path : String) : List Location :=
  fs.askedUntil (candidates directory path)

/-- A settings file gives the same section in two file systems in which it is found at the same path
and the same is found there. -/
theorem fileSection_congr (format : Format)
    (located : locate? other directory path = locate? fs directory path)
    (same : ∀ place, locate? fs directory path = some place → other.find place = fs.find place) :
    fileSection other directory (format, path) = fileSection fs directory (format, path) := by
  unfold fileSection
  rw [located]
  cases found : locate? fs directory path with
  | none => rfl
  | some place =>
    have read : other.readText place = fs.readText place := by
      rw [FileSystem.readText, FileSystem.readText, same place found]
    simp only [read]

/-- The sections of settings files are the same when each of them is. -/
theorem fileSections_congr {files : List (Format × String)}
    (same : ∀ file ∈ files, fileSection other directory file = fileSection fs directory file) :
    fileSections other directory files = fileSections fs directory files := by
  induction files with
  | nil => rfl
  | cons file files ih =>
    obtain ⟨first, rest⟩ := List.forall_mem_cons.mp same
    rw [fileSections, fileSections, first, ih rest]

/-- A settings file gives the same section in file systems in which the paths that are tried for it
find the same files. -/
theorem fileSection_of_tried (format : Format)
    (same : ∀ place ∈ fs.tried (candidates directory path), ∀ location content,
      other.find place = .ok (location, .file content) ↔
        fs.find place = .ok (location, .file content)) :
    fileSection other directory (format, path) = fileSection fs directory (format, path) := by
  obtain ⟨located, found⟩ := FileSystem.findFile_of_tried same
  rw [← locate?_eq_find?, ← locate?_eq_find?] at located
  rw [← locate?_eq_find?] at found
  exact fileSection_congr format located found

/-- Settings are the same when the sections of their files are. -/
theorem load_congr {otherCustom : Option String}
    (same : fileSections other directory (settingsFiles otherCustom) =
      fileSections fs directory (settingsFiles custom)) :
    load other directory environment otherCustom = load fs directory environment custom := by
  unfold load
  rw [same]

/-- Settings from a file that is asked for are the same when the section of the file is. -/
theorem load_custom_congr
    (same : fileSection other directory (.ofPath path, path) =
      fileSection fs directory (.ofPath path, path)) :
    load other directory environment (some path) = load fs directory environment (some path) := by
  apply load_congr
  simp only [settingsFiles, fileSections, same]

/-- File systems that agree where a settings file is looked for give the same settings from it. -/
theorem load_of_agreeAt (agree : AgreeAt (consulted fs directory path) fs other) :
    load other directory environment (some path) = load fs directory environment (some path) := by
  obtain ⟨located, same⟩ := FileSystem.findFile_congr agree
  rw [← locate?_eq_find?, ← locate?_eq_find?] at located
  rw [← locate?_eq_find?] at same
  exact load_custom_congr (fileSection_congr _ located same)

/-- The paths at which the settings files of a run are looked for. -/
def triedPaths (fs : FileSystem) (directory : Location) (custom : Option String) : List String :=
  (settingsFiles custom).flatMap fun file => fs.tried (candidates directory file.2)

/-- File systems in which the paths that are tried find the same files give the same settings. -/
theorem load_of_tried
    (same : ∀ path ∈ triedPaths fs directory custom, ∀ location content,
      other.find path = .ok (location, .file content) ↔
        fs.find path = .ok (location, .file content)) :
    load other directory environment custom = load fs directory environment custom := by
  apply load_congr
  refine fileSections_congr fun file listed => fileSection_of_tried file.1 fun path member => ?_
  exact same path (List.mem_flatMap.mpr ⟨file, listed, member⟩)

/-- The names of the settings files of a project. -/
def projectNames : List String := projectFiles.map Prod.snd

/-- Settings files that are not found give no sections. -/
theorem fileSections_filter (fs : FileSystem) (directory : Location)
    (files : List (Format × String)) :
    fileSections fs directory (files.filter fun file => (locate? fs directory file.2).isSome) =
      fileSections fs directory files := by
  induction files with
  | nil => rfl
  | cons file files ih =>
    cases found : locate? fs directory file.2 with
    | none =>
      rw [List.filter_cons_of_neg (by simp [found]), ih, fileSections,
        fileSection_of_not_found found]
      cases fileSections fs directory files <;> rfl
    | some place =>
      rw [List.filter_cons_of_pos (by simp [found]), fileSections, fileSections, ih]

/-- Of the settings files of a project the one with a name has the notation that its name tells. -/
theorem filter_projectFiles :
    ∀ name ∈ projectNames, projectFiles.filter (·.2 = name) = settingsFiles (some name) := by
  decide

/-- A settings file of a project that is the only one is read as if it were asked for. -/
theorem load_alone (member : name ∈ projectNames)
    (alone : ∀ sibling ∈ projectNames, sibling ≠ name → locate? fs directory sibling = none) :
    load fs directory environment none = load fs directory environment (some name) := by
  -- On both sides only the files that are found count, and that is at most the one with the name.
  have only : ∀ file ∈ projectFiles,
      (locate? fs directory file.2).isSome =
        ((locate? fs directory file.2).isSome && decide (file.2 = name)) := by
    intro file listed
    by_cases named : file.2 = name
    · simp [named]
    · simp [alone file.2 (List.mem_map_of_mem listed) named]
  have found : projectFiles.filter (fun file => (locate? fs directory file.2).isSome) =
      (settingsFiles (some name)).filter fun file => (locate? fs directory file.2).isSome := by
    rw [← filter_projectFiles name member, List.filter_filter]
    exact List.filter_congr only
  apply load_congr
  calc fileSections fs directory (settingsFiles none)
      = fileSections fs directory
          (projectFiles.filter fun file => (locate? fs directory file.2).isSome) :=
        (fileSections_filter fs directory projectFiles).symm
    _ = fileSections fs directory (settingsFiles (some name)) := by
        rw [found, fileSections_filter]

/-- The locations at which the settings files of a project with other names are looked for. -/
def siblings (directory : Location) (name : String) : List Location :=
  ((projectNames.filter (· ≠ name)).flatMap (candidates directory)).map destination

/-- The other settings files of a project are looked for at the locations of their paths. -/
theorem mem_siblings {sibling : String} (member : sibling ∈ projectNames) (apart : sibling ≠ name)
    (listed : path ∈ candidates directory sibling) :
    destination path ∈ siblings directory name := by
  apply List.mem_map_of_mem
  exact List.mem_flatMap.mpr ⟨sibling, List.mem_filter.mpr ⟨member, decide_eq_true apart⟩, listed⟩

/-- The names of the settings files of a project are relative paths of a single name, which leads
further. -/
theorem plain_of_mem_projectNames :
    ∀ name ∈ projectNames,
      Path.isAbsolute name = false ∧ Path.names name = [name] ∧ name ≠ "." ∧ name ≠ ".." := by
  decide

/-- The paths of a settings file of a project lead to locations with its name. -/
theorem getLast?_destination (member : name ∈ projectNames)
    (listed : path ∈ candidates directory name) : (destination path).getLast? = some name := by
  obtain ⟨relative, single, here, around⟩ := plain_of_mem_projectNames name member
  rw [candidates, relative, if_neg Bool.false_ne_true] at listed
  obtain ⟨place, _, rfl⟩ := List.mem_map.mp listed
  rw [destination, Path.names_join relative, single, FileSystem.reach, List.foldl_concat,
    FileSystem.moved, if_neg here, if_neg around, List.getLast?_concat]

/-- A settings file of a project is looked for under its name in the working directory and then in
the directories around it. -/
theorem destination_candidates (member : name ∈ projectNames)
    (plain : ∀ part ∈ directory, Path.IsName part ∧ part ≠ "." ∧ part ≠ "..") :
    (candidates directory name).map destination =
      (List.range (directory.length + 1)).reverse.map fun count =>
        directory.take count ++ [name] := by
  obtain ⟨relative, single, here, around⟩ := plain_of_mem_projectNames name member
  rw [candidates, relative, if_neg Bool.false_ne_true, searchDirectories, List.map_map,
    List.map_map]
  apply List.map_congr_left
  intro count _
  have kept : ∀ part ∈ directory.take count, Path.IsName part ∧ part ≠ "." ∧ part ≠ ".." :=
    fun part listed => plain part (List.mem_of_mem_take listed)
  have names : Path.names (Path.ofNames (directory.take count)) = directory.take count := by
    rw [Path.ofNames, Path.names_slash, Path.names_joined fun part listed => (kept part listed).1]
  rw [Function.comp_apply, Function.comp_apply, destination, Path.names_join relative, names,
    single, FileSystem.reach_eq_append, List.nil_append]
  intro part listed
  rcases List.mem_append.mp listed with before | last
  · exact (kept part before).2
  · rw [List.mem_singleton.mp last]
    exact ⟨here, around⟩

/-- No path of a settings file of a project leads to where those with other names are looked for. -/
theorem destination_notMem_siblings (member : name ∈ projectNames)
    (listed : path ∈ candidates directory name) : destination path ∉ siblings directory name := by
  intro met
  obtain ⟨place, found, same⟩ := List.mem_map.mp met
  obtain ⟨sibling, kept, tried⟩ := List.mem_flatMap.mp found
  obtain ⟨inside, apart⟩ := List.mem_filter.mp kept
  have last := getLast?_destination inside tried
  rw [same, getLast?_destination member listed, Option.some.injEq] at last
  exact of_decide_eq_true apart last.symm

/-- Where the siblings of a settings file of a project are taken away, they are not found. -/
theorem locate?_sibling {sibling : String} (member : sibling ∈ projectNames)
    (apart : sibling ≠ name) :
    locate? (fs.withoutFiles (siblings directory name)) directory sibling = none := by
  rw [locate?_eq_find?, List.find?_eq_none]
  intro path listed file
  obtain ⟨location, content, found⟩ := FileSystem.isFile_iff.mp file
  have taken := (FileSystem.find_withoutFiles.mp found).2
  rw [FileSystem.eq_destination_of_find found] at taken
  exact taken (mem_siblings member apart listed)

/-- Where the siblings of a settings file of a project are taken away, it gives the same section. -/
theorem fileSection_withoutFiles (member : name ∈ projectNames) :
    fileSection (fs.withoutFiles (siblings directory name)) directory (.ofPath name, name) =
      fileSection fs directory (.ofPath name, name) := by
  -- What was taken away was under other names, so each path of the file leads to what it led to.
  have same {path : String} (listed : path ∈ candidates directory name) {location : Location}
      {content : List UInt8} :
      (fs.withoutFiles (siblings directory name)).find path = .ok (location, .file content) ↔
        fs.find path = .ok (location, .file content) := by
    rw [FileSystem.find_withoutFiles, and_iff_left_iff_imp]
    intro found
    rw [FileSystem.eq_destination_of_find found]
    exact destination_notMem_siblings member listed
  exact fileSection_of_tried _ fun path listed _ _ => same (FileSystem.mem_of_mem_tried listed)

/-- **Which settings files count.** Settings from a file that is asked for are the same in all file
systems that agree where that file is looked for, whatever else is there, other settings files of
the project included. When the file that is asked for has the name of a settings file of the
project, they are the settings of the project after its other settings files were taken away from
the working directory and from those around it, and of any project that has none of these and is the
same where the file is looked for. -/
theorem load_asked (fs : FileSystem) (directory : Location) (environment : Environment) :
    (∀ path other, AgreeAt (consulted fs directory path) fs other →
        load other directory environment (some path) =
          load fs directory environment (some path)) ∧
      ∀ name ∈ projectNames,
        load fs directory environment (some name) =
            load (fs.withoutFiles (siblings directory name)) directory environment none ∧
          ∀ other, AgreeAt (consulted fs directory name) fs other →
            (∀ sibling ∈ projectNames, sibling ≠ name →
              locate? other directory sibling = none) →
              load fs directory environment (some name) =
                load other directory environment none := by
  refine ⟨fun path other agree => load_of_agreeAt agree, ?_⟩
  intro name member
  constructor
  · rw [load_alone member fun sibling listed apart => locate?_sibling listed apart]
    exact (load_custom_congr (fileSection_withoutFiles member)).symm
  · intro other agree alone
    rw [load_alone member alone]
    exact (load_of_agreeAt agree).symm

/-- A working directory with two settings files, one of which has a text under the name of a
boolean. -/
def crowdedProject : FileSystem :=
  ⟨[(["work"], .directory),
    (["work", "envus.toml"], .file (FileSystem.bytesOf "[init]\nflat = true\n")),
    (["work", "envus.json"], .file (FileSystem.bytesOf mistaken))]⟩

/-- The settings file that is asked for counts alone, also when something else is put in place of
the other one. -/
theorem load_crowdedProject :
    AgreeAt (consulted crowdedProject ["work"] "envus.json") crowdedProject
        (crowdedProject.put ["work", "envus.toml"] .directory) ∧
      load (crowdedProject.put ["work", "envus.toml"] .directory) ["work"] [] (some "envus.json") =
        load crowdedProject ["work"] [] (some "envus.json") ∧
      ["work", "envus.toml"] ∈ siblings ["work"] "envus.json" ∧
      load crowdedProject ["work"] [] (some "envus.json") =
        load (crowdedProject.withoutFiles (siblings ["work"] "envus.json")) ["work"] [] none := by
  have agree : AgreeAt (consulted crowdedProject ["work"] "envus.json") crowdedProject
      (crowdedProject.put ["work", "envus.toml"] .directory) := by
    unfold AgreeAt
    decide
  obtain ⟨unread, named⟩ := load_asked crowdedProject ["work"] []
  exact ⟨agree, unread "envus.json" _ agree, by decide,
    (named "envus.json" (by decide)).1⟩

end EnvTemplate.Settings
