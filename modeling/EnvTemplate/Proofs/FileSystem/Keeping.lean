import EnvTemplate.Proofs.FileSystem.Writing

/-!
# Keeping what is there

A later file system keeps an earlier one when everything that is in the earlier one is in the later
one as it was. Adding directories keeps a file system, and so does writing to a path at which
nothing is. Whatever a path leads to before, it leads to the same afterwards.
-/
namespace EnvTemplate.FileSystem

variable {before middle after fs written : FileSystem} {location : Location} {entry : Entry}
  {path text : String} {p : Location → Prop}

/-- Everything that is in a file system is in a later one as it was. -/
def Keeps (before after : FileSystem) : Prop :=
  ∀ location entry, before.entry? location = some entry → after.entry? location = some entry

namespace Keeps

/-- A file system keeps itself. -/
theorem refl (fs : FileSystem) : Keeps fs fs := fun _ _ held => held

/-- What is kept twice is kept. -/
theorem trans (first : Keeps before middle) (second : Keeps middle after) : Keeps before after :=
  fun location entry held => second location entry (first location entry held)

/-- Files that are kept have their content. -/
theorem content? (keeps : Keeps before after) {content : List UInt8}
    (held : before.content? location = some content) : after.content? location = some content :=
  content?_eq_some.mpr (keeps location (.file content) (content?_eq_some.mp held))

/-- What is found by a path is found by it afterwards. -/
theorem find (keeps : Keeps before after) (found : before.find path = .ok (location, entry)) :
    after.find path = .ok (location, entry) := by
  unfold FileSystem.find at found ⊢
  cases located : before.locate path (Path.names path) with
  | error fault =>
    rw [located] at found
    cases found
  | ok place =>
    have still : after.locate path (Path.names path) = .ok place :=
      locate_of_directories (fun location held => keeps location .directory held) located
    rw [located] at found
    rw [still]
    cases held : before.entry? place with
    | none =>
      simp only [held] at found
      cases found
    | some there =>
      simp only [held] at found
      simp only [keeps place there held]
      exact found

end Keeps

/-- What directories are added to is kept. -/
theorem Adds.keeps (adds : Adds p before after) : Keeps before after := by
  intro location entry held
  rcases adds location with same | ⟨free, _, _⟩
  · rw [same]
    exact held
  · rw [held] at free
    cases free

/-- Nothing is at the location of a path at which nothing is found, unless the path asks for a
directory. -/
theorem entry_of_not_exists (file : Path.endsWithSlash path = false)
    (located : fs.locate path (Path.names path) = .ok location)
    (absent : fs.exists? path = false) : fs.entry? location = none := by
  unfold exists? find at absent
  rw [located] at absent
  cases held : fs.entry? location with
  | none => rfl
  | some there => cases there <;> simp [held, file, Except.toOption] at absent

/-- Writing to a path at which nothing is keeps what is there. -/
theorem keeps_of_writeText (absent : fs.exists? path = false)
    (done : fs.writeText path text = .ok written) : Keeps fs written := by
  obtain ⟨file, location, located, other, rfl⟩ := writeText_eq_ok_iff.mp done
  have free : fs.entry? location = none := entry_of_not_exists file located absent
  intro passed entry held
  have apart : passed ≠ location := by
    rintro rfl
    rw [free] at held
    cases held
  rw [entry_put fs (below_of_other other), if_neg apart]
  exact held

end EnvTemplate.FileSystem
