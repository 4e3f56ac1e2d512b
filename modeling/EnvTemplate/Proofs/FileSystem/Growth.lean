import EnvTemplate.FileSystem.Basic
import Mathlib.Data.List.Infix

/-!
# Making directories

The locations that names lead to do not depend on what a file system holds; only whether they can be
followed does. Making the directories of a path adds directories at such locations and changes
nothing else, whether it comes to an end or not, and it comes to an end exactly when the path is one
that the system takes, no name is too long and no file is in the way.
-/
namespace EnvTemplate.FileSystem

variable {fs before middle after : FileSystem} {location here : Location} {names : List String}
  {p q : Location → Prop}

/-- The root is a directory. -/
@[simp]
theorem entry_root (fs : FileSystem) : fs.entry? [] = some .directory := rfl

/-- Setting an entry changes what is found at its location only. -/
theorem lookup_setEntry (location other : Location) (entry : Entry)
    (entries : List (Location × Entry)) :
    (setEntry location entry entries).lookup other =
      if other = location then some entry else entries.lookup other := by
  induction entries with
  | nil =>
    by_cases same : other = location
    · simp [setEntry, same]
    · simp [setEntry, same, List.lookup_cons, beq_eq_false_iff_ne.mpr same]
  | cons first rest ih =>
    obtain ⟨held, value⟩ := first
    by_cases hit : held = location
    · subst hit
      by_cases same : other = held
      · simp [setEntry, same]
      · simp [setEntry, same, List.lookup_cons, beq_eq_false_iff_ne.mpr same]
    · by_cases found : other = held
      · have different : other ≠ location := fun same => hit (found.symm.trans same)
        rw [setEntry, if_neg hit, found, List.lookup_cons_self, if_neg (found ▸ different),
          List.lookup_cons_self]
      · simp [setEntry, hit, List.lookup_cons, beq_eq_false_iff_ne.mpr found, ih]

/-- Putting something below the root changes what is at its location only. -/
theorem entry_put (fs : FileSystem) (below : location ≠ []) (entry : Entry) (other : Location) :
    entry? (fs.put location entry) other =
      if other = location then some entry else fs.entry? other := by
  cases other with
  | nil => simp [Ne.symm below]
  | cons name names => exact lookup_setEntry location (name :: names) entry fs.entries

/-- The content of the file at a location. -/
def content? (fs : FileSystem) (location : Location) : Option (List UInt8) :=
  match fs.entry? location with
  | some (.file content) => some content
  | _ => none

/-- A location holds the file with a content when the file is found there. -/
theorem content?_eq_some {content : List UInt8} :
    fs.content? location = some content ↔ fs.entry? location = some (.file content) := by
  unfold content?
  split <;> simp_all

/-- A location where no directory is lies below the root. -/
theorem below_of_other (other : fs.entry? location ≠ some .directory) : location ≠ [] := by
  rintro rfl
  exact other fs.entry_root

/-- The location that one name leads to when it can be followed. -/
def moved (here : Location) (name : String) : Location :=
  if name = "." then here else if name = ".." then here.dropLast else here ++ [name]

/-- The location that names lead to when they can be followed. -/
def reach (here : Location) (names : List String) : Location := names.foldl moved here

/-- A name leads on when it is not too long. -/
theorem step_eq (here : Location) (name : String) :
    step here name =
      if name.utf8ByteSize ≤ maxNameBytes then .ok (moved here name) else .error .tooLong := by
  unfold step
  by_cases long : maxNameBytes < name.utf8ByteSize
  · rw [if_pos long, if_neg (Nat.not_le_of_lt long)]
  · rw [if_neg long, if_pos (Nat.le_of_not_lt long)]
    rfl

/-- Only directories were added to a file system, at locations of a given kind. -/
def Adds (p : Location → Prop) (before after : FileSystem) : Prop :=
  ∀ location, after.entry? location = before.entry? location ∨
    before.entry? location = none ∧ after.entry? location = some .directory ∧ p location

namespace Adds

/-- Nothing at all was added. -/
theorem refl (p : Location → Prop) (fs : FileSystem) : Adds p fs fs := fun _ => .inl rfl

/-- What was added at locations of one kind was added at locations of any wider kind. -/
theorem mono (adds : Adds p before after) (wider : ∀ location, p location → q location) :
    Adds q before after := fun location =>
  (adds location).imp_right fun ⟨free, made, kind⟩ => ⟨free, made, wider location kind⟩

/-- What is there stays, and what is new comes to what is there. -/
theorem trans (first : Adds p before middle) (second : Adds p middle after) :
    Adds p before after := by
  intro location
  rcases second location with same | ⟨free, made, kind⟩
  · rw [same]
    exact first location
  · rcases first location with same | ⟨_, there, _⟩
    · exact .inr ⟨same ▸ free, made, kind⟩
    · rw [there] at free
      contradiction

/-- The files are those that were there. -/
theorem content?_eq (adds : Adds p before after) : after.content? = before.content? := by
  funext location
  rcases adds location with same | ⟨free, made, _⟩
  · rw [content?, content?, same]
  · rw [content?, content?, free, made]

/-- A directory put where nothing is was added. -/
theorem put (free : fs.entry? location = none) (kind : p location) :
    Adds p fs (fs.put location .directory) := by
  have below : location ≠ [] := below_of_other (by rw [free]; nofun)
  intro other
  rw [entry_put fs below]
  by_cases same : other = location
  · rw [if_pos same, same]
    exact .inr ⟨free, rfl, kind⟩
  · rw [if_neg same]
    exact .inl rfl

end Adds

/-- Some of the names, from the first on, lead from a location to another one. -/
def Passes (here : Location) (names : List String) (location : Location) : Prop :=
  ∃ front, front <+: names ∧ location = reach here front

/-- What is passed behind the first name is passed. -/
theorem Passes.cons {name : String} (passes : Passes (moved here name) names location) :
    Passes here (name :: names) location := by
  obtain ⟨front, leads, rfl⟩ := passes
  exact ⟨name :: front, List.cons_prefix_cons.mpr ⟨rfl, leads⟩, rfl⟩

/-- The location behind the first name is passed. -/
theorem passes_moved (here : Location) (name : String) (names : List String) :
    Passes here (name :: names) (moved here name) :=
  ⟨[name], List.cons_prefix_cons.mpr ⟨rfl, List.nil_prefix⟩, rfl⟩

section Making

variable {name : String} {content : List UInt8}

/-- A name that is too long ends the making of directories. -/
theorem makeAlong_tooLong (fs : FileSystem) (here : Location) (made : Bool) (names : List String)
    (long : ¬name.utf8ByteSize ≤ maxNameBytes) :
    fs.makeAlong here made (name :: names) = (fs, some .tooLong) := by
  simp only [makeAlong, step_eq, if_neg long]

/-- A directory is made where nothing is. -/
theorem makeAlong_free (made : Bool) (names : List String)
    (short : name.utf8ByteSize ≤ maxNameBytes) (held : fs.entry? (moved here name) = none) :
    fs.makeAlong here made (name :: names) =
      (fs.put (moved here name) .directory).makeAlong (moved here name) true names := by
  simp only [makeAlong, step_eq, if_pos short, held]

/-- A directory that is there is kept. -/
theorem makeAlong_directory (made : Bool) (names : List String)
    (short : name.utf8ByteSize ≤ maxNameBytes)
    (held : fs.entry? (moved here name) = some .directory) :
    fs.makeAlong here made (name :: names) = fs.makeAlong (moved here name) made names := by
  simp only [makeAlong, step_eq, if_pos short, held]

/-- A file in the way ends the making of directories. -/
theorem makeAlong_file (made : Bool) (names : List String)
    (short : name.utf8ByteSize ≤ maxNameBytes)
    (held : fs.entry? (moved here name) = some (.file content)) :
    ∃ fault, fs.makeAlong here made (name :: names) = (fs, some fault) := by
  simp only [makeAlong, step_eq, if_pos short, held]
  exact ⟨_, rfl⟩

/-- Whether making directories comes to an end or not, it adds directories that are passed. -/
theorem makeAlong_adds (fs : FileSystem) (here : Location) (made : Bool) (names : List String) :
    Adds (Passes here names) fs (fs.makeAlong here made names).1 := by
  induction names generalizing fs here made with
  | nil => exact Adds.refl _ fs
  | cons name names ih =>
    by_cases short : name.utf8ByteSize ≤ maxNameBytes
    · have later (fs : FileSystem) (made : Bool) :
          Adds (Passes here (name :: names)) fs (fs.makeAlong (moved here name) made names).1 :=
        (ih fs (moved here name) made).mono fun _ passes => passes.cons
      cases held : fs.entry? (moved here name) with
      | none =>
        rw [makeAlong_free made names short held]
        exact (Adds.put held (passes_moved here name names)).trans (later _ true)
      | some entry =>
        cases entry with
        | file content =>
          obtain ⟨fault, ended⟩ := makeAlong_file made names short held
          rw [ended]
          exact Adds.refl _ fs
        | directory =>
          rw [makeAlong_directory made names short held]
          exact later fs made
    · rw [makeAlong_tooLong fs here made names short]
      exact Adds.refl _ fs

end Making

/-- Making the directories of a path adds directories that the path passes. -/
theorem makePath_adds (fs : FileSystem) (path : String) :
    Adds (Passes [] (Path.names path)) fs (fs.makePath path).1 := by
  unfold makePath
  cases pathFault? path with
  | none => exact makeAlong_adds fs [] false (Path.names path)
  | some fault => exact Adds.refl _ fs

/-- No name is too long, and no file is where some of the names lead. -/
def IsFree (fs : FileSystem) (here : Location) (names : List String) : Prop :=
  (∀ name ∈ names, name.utf8ByteSize ≤ maxNameBytes) ∧
    ∀ front ∈ names.inits, fs.content? (reach here front) = none

instance : Decidable (fs.IsFree here names) := inferInstanceAs (Decidable (_ ∧ _))

/-- Names are free when the first one is and so are the names behind it. -/
theorem isFree_cons {name : String} :
    fs.IsFree here (name :: names) ↔
      name.utf8ByteSize ≤ maxNameBytes ∧ fs.content? here = none ∧
        fs.IsFree (moved here name) names := by
  simp only [IsFree, List.forall_mem_cons, List.inits_cons, List.forall_mem_map]
  constructor
  · rintro ⟨⟨short, shorter⟩, start, rest⟩
    exact ⟨short, start, shorter, rest⟩
  · rintro ⟨short, start, shorter, rest⟩
    exact ⟨⟨short, shorter⟩, start, rest⟩

/-- Names stay free when directories are added. -/
theorem Adds.isFree_iff (adds : Adds p before after) :
    after.IsFree here names ↔ before.IsFree here names := by
  rw [IsFree, IsFree, adds.content?_eq]

/-- Making directories from one that is there comes to an end when their names are free. -/
theorem makeAlong_ends_iff (fs : FileSystem) (made : Bool)
    (start : fs.entry? here = some .directory) :
    (fs.makeAlong here made names).2 = none ↔ fs.IsFree here names := by
  induction names generalizing fs here made with
  | nil => simp [makeAlong, IsFree, reach, content?, start]
  | cons name names ih =>
    have startFree : fs.content? here = none := by rw [content?, start]
    rw [isFree_cons]
    by_cases short : name.utf8ByteSize ≤ maxNameBytes
    · cases held : fs.entry? (moved here name) with
      | none =>
        have adds : Adds (fun _ => True) fs (fs.put (moved here name) .directory) :=
          Adds.put held trivial
        have there : entry? (fs.put (moved here name) .directory) (moved here name) =
            some .directory := by
          rw [entry_put fs (below_of_other (by rw [held]; nofun)), if_pos rfl]
        have rest := ih (fs.put (moved here name) .directory) true there
        rw [adds.isFree_iff] at rest
        rw [makeAlong_free made names short held]
        simp [short, startFree, rest]
      | some entry =>
        cases entry with
        | file content =>
          have taken : fs.content? (moved here name) = some content := content?_eq_some.mpr held
          have blocked : ¬fs.IsFree (moved here name) names := by
            intro free
            have untaken : fs.content? (moved here name) = none := free.2 [] (by simp)
            rw [taken] at untaken
            cases untaken
          obtain ⟨fault, ended⟩ := makeAlong_file made names short held
          simp [ended, blocked]
        | directory =>
          rw [makeAlong_directory made names short held]
          simp [short, startFree, ih fs made held]
    · rw [makeAlong_tooLong fs here made names short]
      simp [short]

/-- Whether the system can make the directories of a path. -/
def CanMake (fs : FileSystem) (path : String) : Prop :=
  pathFault? path = none ∧ fs.IsFree [] (Path.names path)

instance {path : String} : Decidable (fs.CanMake path) := inferInstanceAs (Decidable (_ ∧ _))

/-- The directories of a path are made without a fault when they can be made. -/
theorem makePath_ends_iff (fs : FileSystem) (path : String) :
    (fs.makePath path).2 = none ↔ fs.CanMake path := by
  rw [CanMake, makePath]
  cases pathFault? path with
  | none => simpa using makeAlong_ends_iff fs false fs.entry_root
  | some fault => simp

end EnvTemplate.FileSystem
