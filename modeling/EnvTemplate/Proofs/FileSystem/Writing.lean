import EnvTemplate.Proofs.FileSystem.Growth

/-!
# Writing files

A file is written where the path leads, and nothing else changes. Paths pass through directories
only, so a file that is put somewhere stops none of them: the path still leads to the file, and what
is read there is the text that was written.
-/
namespace EnvTemplate.FileSystem

variable {fs written : FileSystem} {location here there : Location} {path text name : String}
  {names : List String}

/-- A name is followed from a directory. -/
theorem enter_eq_ok_iff :
    fs.enter here name = .ok there ↔
      fs.entry? here = some .directory ∧ step here name = .ok there := by
  unfold enter
  cases held : fs.entry? here with
  | none => simp
  | some entry => cases entry <;> simp

/-- Names that can be followed lead to the same location while the directories stay. -/
theorem follow_of_directories {before after : FileSystem}
    (kept : ∀ location, before.entry? location = some .directory →
      after.entry? location = some .directory)
    (followed : before.follow here names = .ok there) : after.follow here names = .ok there := by
  induction names generalizing here with
  | nil => exact followed
  | cons name names ih =>
    unfold follow at followed ⊢
    cases entered : before.enter here name with
    | error fault =>
      rw [entered] at followed
      cases followed
    | ok next =>
      rw [entered] at followed
      obtain ⟨directory, led⟩ := enter_eq_ok_iff.mp entered
      have still : after.enter here name = .ok next :=
        enter_eq_ok_iff.mpr ⟨kept here directory, led⟩
      rw [still]
      exact ih followed

/-- A path that can be followed leads to the same location while the directories stay. -/
theorem locate_of_directories {before after : FileSystem}
    (kept : ∀ location, before.entry? location = some .directory →
      after.entry? location = some .directory)
    (located : before.locate path names = .ok there) : after.locate path names = .ok there := by
  unfold locate at located ⊢
  cases bad : pathFault? path with
  | none =>
    rw [bad] at located
    exact follow_of_directories kept located
  | some fault =>
    rw [bad] at located
    cases located

/-- A path that can be followed leads to the same location after something is put where no
directory is. -/
theorem locate_put (other : fs.entry? location ≠ some .directory) (entry : Entry)
    (located : fs.locate path names = .ok there) :
    (fs.put location entry).locate path names = .ok there := by
  refine locate_of_directories ?_ located
  intro passed directory
  have apart : passed ≠ location := by
    rintro rfl
    exact other directory
  rw [entry_put fs (below_of_other other), if_neg apart]
  exact directory

/-- Writing a text puts a file with its bytes where the path leads, if no directory is there. -/
theorem writeText_eq_ok_iff :
    fs.writeText path text = .ok written ↔
      Path.endsWithSlash path = false ∧ ∃ location,
        fs.locate path (Path.names path) = .ok location ∧
          fs.entry? location ≠ some .directory ∧
            written = fs.put location (.file (bytesOf text)) := by
  unfold writeText
  cases slash : Path.endsWithSlash path with
  | true =>
    cases fs.locate path ((Path.names path).dropLast ++ ["."]) <;> simp
  | false =>
    cases located : fs.locate path (Path.names path) with
    | error fault => simp
    | ok location =>
      by_cases directory : fs.entry? location = some .directory
      · simp [directory]
      · simp [directory, eq_comm (a := written)]

/-- A written file is found where its path leads. -/
theorem find_put (file : Path.endsWithSlash path = false)
    (located : fs.locate path (Path.names path) = .ok location)
    (other : fs.entry? location ≠ some .directory) (content : List UInt8) :
    (fs.put location (.file content)).find path = .ok (location, .file content) := by
  have still := locate_put other (.file content) located
  have there : entry? (fs.put location (.file content)) location = some (.file content) := by
    rw [entry_put fs (below_of_other other), if_pos rfl]
  unfold find
  rw [still]
  simp [there, file]

/-- The bytes of a text are those of this text. -/
theorem fromUTF8?_bytesOf (text : String) :
    String.fromUTF8? ⟨(bytesOf text).toArray⟩ = some text := by
  have same : (⟨(bytesOf text).toArray⟩ : ByteArray) = text.toByteArray := rfl
  rw [same, String.fromUTF8?, dif_pos text.isValidUTF8]
  rfl

/-- Where the file with the bytes of a text is found, that text is read. -/
theorem readText_of_find (found : fs.find path = .ok (location, .file (bytesOf text))) :
    fs.readText path = .ok text := by
  unfold readText
  rw [found]
  simp [fromUTF8?_bytesOf]

/-- What writing a text leaves: the file is found by its path, and nothing else changes. -/
theorem writeText_spec (done : fs.writeText path text = .ok written) :
    ∃ location, written.find path = .ok (location, .file (bytesOf text)) ∧
      ∀ other, other ≠ location → written.entry? other = fs.entry? other := by
  obtain ⟨file, location, located, free, rfl⟩ := writeText_eq_ok_iff.mp done
  refine ⟨location, find_put file located free (bytesOf text), ?_⟩
  intro other apart
  rw [entry_put fs (below_of_other free), if_neg apart]

end EnvTemplate.FileSystem
