import EnvTemplate.Proofs.FileSystem.Keeping
import EnvTemplate.Proofs.FileSystem.Lookup

/-!
# Doing it again

Directories that were made are there, so making them again changes nothing, and writing the same text
again to a file leaves the same file system. A path that leads elsewhere finds the same file before
and after a file is written.
-/
namespace EnvTemplate.FileSystem

variable {fs made later written : FileSystem} {location here there : Location} {path text : String}
  {names paths : List String} {entry : Entry} {content held : List UInt8}

/-- All directories of a file system are directories of a later one. -/
def KeepsDirectories (fs later : FileSystem) : Prop :=
  ∀ location, fs.entry? location = some .directory → later.entry? location = some .directory

/-- Making directories keeps those that are there. -/
theorem keepsDirectories_makeAlong (fs : FileSystem) (here : Location) (new : Bool)
    (names : List String) : KeepsDirectories fs (fs.makeAlong here new names).1 :=
  fun location held => (makeAlong_adds fs here new names).keeps location .directory held

/-- Where directories were made they are made again without a change. -/
theorem makeAlong_again {new : Bool} (newly : Bool)
    (done : fs.makeAlong here new names = (made, none)) (kept : KeepsDirectories made later) :
    later.makeAlong here newly names = (later, none) := by
  induction names generalizing fs here new with
  | nil => rfl
  | cons name names ih =>
    by_cases short : name.utf8ByteSize ≤ maxNameBytes
    · cases found : fs.entry? (moved here name) with
      | none =>
        rw [makeAlong_free new names short found] at done
        have there : entry? (fs.put (moved here name) .directory) (moved here name) =
            some .directory := by
          rw [entry_put fs (below_of_other (by rw [found]; nofun)), if_pos rfl]
        have stays := keepsDirectories_makeAlong _ (moved here name) true names _ there
        rw [done] at stays
        rw [makeAlong_directory newly names short (kept _ stays)]
        exact ih done
      | some entry =>
        cases entry with
        | file content =>
          obtain ⟨fault, ended⟩ := makeAlong_file new names short found
          rw [ended] at done
          cases done
        | directory =>
          rw [makeAlong_directory new names short found] at done
          have stays := keepsDirectories_makeAlong fs (moved here name) new names _ found
          rw [done] at stays
          rw [makeAlong_directory newly names short (kept _ stays)]
          exact ih done
    · rw [makeAlong_tooLong fs here new names short] at done
      cases done

/-- Where the directories of a path were made they are made again without a change. -/
theorem makePath_again (done : fs.makePath path = (made, none))
    (kept : KeepsDirectories made later) : later.makePath path = (later, none) := by
  unfold makePath at done ⊢
  cases bad : pathFault? path with
  | some fault =>
    rw [bad] at done
    cases done
  | none =>
    rw [bad] at done
    exact makeAlong_again false done kept

/-- Setting an entry again leaves the entries as they are. -/
theorem setEntry_again (location : Location) (entry : Entry) (entries : List (Location × Entry)) :
    setEntry location entry (setEntry location entry entries) = setEntry location entry entries := by
  induction entries with
  | nil => simp [setEntry]
  | cons first rest ih =>
    obtain ⟨other, value⟩ := first
    by_cases same : other = location
    · simp [setEntry, same]
    · simp [setEntry, same, ih]

/-- Writing a text again to a file that was written leaves the file system as it is. -/
theorem writeText_again (done : fs.writeText path text = .ok written) :
    written.writeText path text = .ok written := by
  obtain ⟨file, location, located, other, rfl⟩ := writeText_eq_ok_iff.mp done
  refine writeText_eq_ok_iff.mpr ⟨file, location, locate_put other _ located, ?_, ?_⟩
  · rw [entry_put fs (below_of_other other), if_pos rfl]
    nofun
  · rw [put, put, setEntry_again]

/-- Writing a file keeps the directories. -/
theorem keepsDirectories_of_writeText (done : fs.writeText path text = .ok written) :
    KeepsDirectories fs written := by
  obtain ⟨_, location, _, other, rfl⟩ := writeText_eq_ok_iff.mp done
  intro passed directory
  have apart : passed ≠ location := by
    rintro rfl
    exact other directory
  rw [entry_put fs (below_of_other other), if_neg apart]
  exact directory

/-- A path that leads elsewhere finds the same file before and after a file is written. -/
theorem find_file_of_writeText {other : String} (done : fs.writeText path text = .ok written)
    (apart : destination other ≠ destination path) :
    written.find other = .ok (there, .file held) ↔ fs.find other = .ok (there, .file held) := by
  obtain ⟨_, location, located, free, rfl⟩ := writeText_eq_ok_iff.mp done
  have below := below_of_other free
  rw [← eq_destination_of_locate located] at apart
  -- The directories are the same, so the path can be followed on both sides, or on none.
  have directories (passed : Location) :
      entry? (fs.put location (.file (bytesOf text))) passed = some .directory ↔
        fs.entry? passed = some .directory := by
    rw [entry_put fs below]
    split
    · next same => simp [same, free]
    · exact Iff.rfl
  have followed : (fs.put location (.file (bytesOf text))).locate other (Path.names other) =
      .ok there ↔ fs.locate other (Path.names other) = .ok there :=
    ⟨locate_of_directories fun passed => (directories passed).mp,
      locate_of_directories fun passed => (directories passed).mpr⟩
  rw [find_eq_file_iff, find_eq_file_iff, followed]
  refine and_congr_right fun _ => and_congr_right fun leads => ?_
  have elsewhere : there ≠ location := by
    rw [eq_destination_of_locate leads]
    exact apart
  rw [content?, content?, entry_put fs below, if_neg elsewhere]

end EnvTemplate.FileSystem
