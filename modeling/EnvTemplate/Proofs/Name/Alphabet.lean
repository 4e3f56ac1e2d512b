import EnvTemplate.Name.Basic
import EnvTemplate.Proofs.Name.GroupPath
import EnvTemplate.Proofs.Name.Letters

/-!
# The alphabet of names

Keys, property names and group names hold ASCII letters and digits, underscores and hyphens only.
Camel case keeps to these characters, since all it does to them is to lower, to raise and to drop;
a group segment keeps to them because its blanks become hyphens first.
-/
namespace EnvTemplate.Name

variable {text path segment : List Char}

/-- The camel case of a name keeps to any characters that lowering and raising keep to. -/
theorem forall_mem_camelChars {p : Char → Prop} (named : IsName text)
    (lowers : ∀ c, p c → p c.toLower) (raises : ∀ c, p c → p c.toUpper) (each : ∀ c ∈ text, p c) :
    ∀ c ∈ camelChars text, p c := by
  have ending : text.rtakeWhile isSeparator <:+ text := List.rtakeWhile_suffix isSeparator text
  rw [camelChars_eq named]
  refine List.forall_mem_append.mpr ⟨?_, fun c last => each c (ending.subset last)⟩
  intro c member
  obtain ⟨letter, listed, rfl⟩ := List.mem_map.mp member
  have held : p letter.char := each _ (char_of_mem_letters listed).1
  rw [Occurrence.camel]
  split
  · exact raises _ held
  · exact lowers _ held

/-- Camel case keeps to the characters of names. -/
theorem camelChars_isName (named : IsName text) : IsName (camelChars text) :=
  forall_mem_camelChars named (fun _ plain => (isNameChar_toLower_toUpper plain).1)
    (fun _ plain => (isNameChar_toLower_toUpper plain).2) named

/-- A segment whose blanks are hyphens holds characters of names, when it held segment characters
only. -/
theorem hyphenateFrom_isName (allowed : ∀ c ∈ text, isSegmentChar c = true) (afterBlank : Bool) :
    IsName (hyphenateFrom afterBlank text) := by
  induction text generalizing afterBlank with
  | nil => simp [hyphenateFrom, IsName]
  | cons c rest ih =>
    have later := ih fun d member => allowed d (List.mem_cons_of_mem _ member)
    unfold hyphenateFrom
    split
    · split
      · exact later true
      · exact List.forall_mem_cons.mpr ⟨rfl, later true⟩
    · next filled =>
      have first : isNameChar c = true := by
        simpa [isSegmentChar, filled, isNameChar] using allowed c List.mem_cons_self
      exact List.forall_mem_cons.mpr ⟨first, later false⟩

/-- An accepted segment gives a name. -/
theorem isName_of_groupName?_eq_ok {name : String} (accepted : groupName? path segment = .ok name) :
    IsName name.toList := by
  obtain ⟨_, allowed, rfl⟩ := groupName?_eq_ok_iff.mp accepted
  rw [String.toList_ofList]
  exact camelChars_isName (hyphenateFrom_isName allowed false)

/-- The names of an accepted path are those of accepted segments. -/
theorem exists_groupName?_of_mem {names : List String} {name : String}
    (accepted : groupPath? text = .ok names) (member : name ∈ names) :
    ∃ path segment, groupName? path segment = .ok name := by
  have each := groupNames?_eq_ok_iff.mp accepted
  clear accepted
  generalize Text.splitOn '.' (Text.trim text) = segments at each
  induction each with
  | nil => contradiction
  | cons first _ ih =>
    rcases List.mem_cons.mp member with rfl | later
    · exact ⟨_, _, first⟩
    · exact ih later

/-- The groups of an accepted path have names. -/
theorem isName_of_groupPath?_eq_ok {names : List String} (accepted : groupPath? text = .ok names) :
    ∀ name ∈ names, IsName name.toList := by
  intro name member
  obtain ⟨_, _, found⟩ := exists_groupName?_of_mem accepted member
  exact isName_of_groupName?_eq_ok found

/-- A key without the lead of its group ends the key. -/
theorem withoutLead_suffix (key group : List Char) : withoutLead key group <:+ key := by
  cases found : afterLead? (groupLead group) key with
  | none => simp [withoutLead, found]
  | some rest =>
    rw [withoutLead, found, Option.getD_some]
    exact ⟨_, (afterLead?_eq_some_iff.mp found).symm⟩

end EnvTemplate.Name
