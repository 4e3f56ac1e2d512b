import EnvTemplate.Proofs.FileSystem.Growth
import EnvTemplate.Proofs.Text.Lines

/-!
# Paths taken apart

The names of a path can be put together and taken apart again. The path of the directory around an
absolute path therefore has the names of that path without the last one, names of one dot apart, and
the locations that it passes are those of the directories around the path. An ending is dropped from
a path exactly when the path is something with that ending behind it.
-/
namespace EnvTemplate

namespace Path

variable {path parent name : String} {list : List String}

/-- A name is not empty and has no slash. -/
def IsName (name : String) : Prop := name ≠ "" ∧ '/' ∉ name.toList

/-- The names of a path are names. -/
theorem isName_of_mem_names (member : name ∈ names path) : IsName name := by
  obtain ⟨piece, kept, rfl⟩ := List.mem_map.mp member
  obtain ⟨listed, filled⟩ := List.mem_filter.mp kept
  refine ⟨?_, ?_⟩
  · intro empty
    have nothing : piece = [] := by simpa using congrArg String.toList empty
    simp [nothing] at filled
  · rw [String.toList_ofList]
    exact Text.notMem_of_mem_splitOn listed

/-- Names put together have these names. -/
theorem names_joined (each : ∀ name ∈ list, IsName name) : names (joined list) = list := by
  cases list with
  | nil => rfl
  | cons first rest =>
    have whole : Text.splitOn '/' (joined (first :: rest)).toList =
        (first :: rest).map String.toList := by
      rw [Text.splitOn_eq, joined, String.toList_intercalate]
      apply List.splitOn_intercalate
      · intro piece listed
        obtain ⟨name, member, rfl⟩ := List.mem_map.mp listed
        exact (each name member).2
      · exact List.cons_ne_nil _ _
    have filled : ((first :: rest).map String.toList).filter (· ≠ []) =
        (first :: rest).map String.toList := by
      rw [List.filter_eq_self]
      intro piece listed
      obtain ⟨name, member, rfl⟩ := List.mem_map.mp listed
      simpa using (each name member).1
    rw [names, whole, filled, List.map_map]
    simp [Function.comp_def]

/-- A slash at the front of a path changes none of its names. -/
theorem names_slash (path : String) : names ("/" ++ path) = names path := by
  simp [names, Text.splitOn]

/-- The names of two paths with a slash between them are those of both. -/
theorem names_append_slash (path other : String) :
    names (path ++ "/" ++ other) = names path ++ names other := by
  have spelled : (path ++ "/" ++ other).toList = path.toList ++ '/' :: other.toList := by
    simp [String.toList_append]
  rw [names, spelled, Text.splitOn_append, List.filter_append, List.map_append]
  rfl

/-- A path seen from a directory has the names of the directory and then its own. -/
theorem names_join (relative : isAbsolute path = false) (directory : String) :
    names (join directory path) = names directory ++ names path := by
  rw [join, relative, if_neg Bool.false_ne_true]
  split
  · rename_i slash
    obtain ⟨front, ended⟩ := List.getLast?_eq_some_iff.mp (eq_of_beq slash)
    have whole : directory = String.ofList front ++ "/" ++ "" := by
      rw [← String.toList_inj, ended]
      simp [String.toList_append]
    rw [whole, names_append_slash, String.append_empty, names_append_slash]
    have nothing : names "" = [] := by decide
    rw [nothing, List.append_nil]
  · exact names_append_slash directory path

/-- The front of an absolute path is one slash or two of them. -/
theorem root_cases (path : String) : root path = "/" ∨ root path = "//" := by
  unfold root
  split
  · exact .inl rfl
  · exact .inr rfl
  · exact .inl rfl

/-- The front of an absolute path holds no names. -/
theorem names_root_append (path other : String) :
    names (asLead (root path) ++ other) = names other := by
  rcases root_cases path with single | double
  · have lead : asLead "/" = "/" := by decide
    rw [single, lead, names_slash]
  · have lead : asLead "//" = "/" ++ "/" := by decide
    rw [double, lead, String.append_assoc, names_slash, names_slash]

/-- The directory around a path has the names before the last one. -/
theorem names_parent (around : parent? path = some parent) :
    names parent = (steps path).dropLast := by
  have each : ∀ name ∈ (steps path).dropLast, IsName name := by
    intro name member
    exact isName_of_mem_names (List.mem_of_mem_filter (List.mem_of_mem_dropLast member))
  unfold parent? at around
  split at around
  · cases around
  · rename_i first rest split
    rw [← split] at around
    injection around with shown
    by_cases nothing : (steps path).dropLast = []
    · rw [if_pos nothing] at shown
      rw [← shown, nothing]
      rcases root_cases path with single | double
      · rw [single]
        decide
      · rw [double]
        decide
    · rw [if_neg nothing] at shown
      rw [← shown, names_root_append, names_joined each]

/-- What is left of a path is the path without one of the endings. -/
theorem exists_of_withoutEnding? {stem : String} {endings : List String}
    (dropped : withoutEnding? path endings = some stem) :
    ∃ ending ∈ endings, path = stem ++ ending := by
  obtain ⟨ending, listed, found⟩ := List.exists_of_findSome?_eq_some dropped
  refine ⟨ending, listed, ?_⟩
  simp only [Option.ite_none_right_eq_some, Option.some.injEq] at found
  obtain ⟨behind, rfl⟩ := found
  obtain ⟨rest, whole⟩ := List.isPrefixOf_iff_prefix.mp behind
  have turned : path.toList = rest.reverse ++ ending.toList := by
    rw [← List.reverse_reverse path.toList, ← whole, List.reverse_append, List.reverse_reverse]
  rw [← String.toList_inj, String.toList_append, String.toList_ofList, ← whole, List.drop_left,
    turned]

/-- A path that none of the endings is dropped from has none of them. -/
theorem ne_append_of_withoutEnding? {ending : String} {endings : List String}
    (kept : withoutEnding? path endings = none) (listed : ending ∈ endings) (stem : String) :
    path ≠ stem ++ ending := by
  rintro rfl
  have missing := List.findSome?_eq_none_iff.mp kept ending listed
  have behind : ending.toList.reverse.isPrefixOf (stem ++ ending).toList.reverse = true := by
    rw [String.toList_append, List.reverse_append, List.isPrefixOf_iff_prefix]
    exact List.prefix_append _ _
  rw [if_pos behind] at missing
  cases missing

end Path

namespace FileSystem

/-- A location is that of a directory around a path: some of its names, from the first on and
without the last one, lead there. -/
def Around (path : String) : Location → Prop := Passes [] (Path.steps path).dropLast

/-- Making the directory around a path adds directories around that path. -/
theorem makePath_adds_around {path parent : String} (fs : FileSystem)
    (around : Path.parent? path = some parent) :
    Adds (Around path) fs (fs.makePath parent).1 := by
  have adds := makePath_adds fs parent
  rwa [Path.names_parent around] at adds

end FileSystem

end EnvTemplate
