import EnvTemplate.Name.Basic
import EnvTemplate.Template.Basic
import EnvTemplate.Template.Line

/-!
# Reading a template

The lines of a template are read in order. From one line to the next only the group that is open
and the keys seen so far are kept. What a line declares, what is wrong with it and what it changes
for the lines after it are three functions of the line and of what was kept.
-/
namespace EnvTemplate.Template

/-- What is kept from the lines before. -/
structure Context where
  /-- The group that is open. -/
  group : Option (List String)
  /-- The keys assigned so far, the last first. -/
  seen : List String
deriving DecidableEq, Repr

namespace Context

/-- Before the first line no group is open and no key is seen. -/
def start : Context := ⟨none, []⟩

/-- What is kept after a line. -/
def next (options : Options) (context : Context) : Line → Context
  | .blank => if options.blankCloses then { context with group := none } else context
  | .directive argument =>
    if options.followsDirectives then
      match Name.groupPath? argument with
      | .ok path => { context with group := some path }
      | .error _ => context
    else context
  | .comment => context
  | .assignment key _ => { context with seen := String.ofList key :: context.seen }
  | .malformed _ => context

end Context

/-- The group a key names itself: its part before the first underscore. -/
def ownGroup (key : List Char) : List Char := key.takeWhile (· ≠ '_')

/-- What follows the first underscore of a key, or the whole key when it has none. -/
def ownRest (key : List Char) : List Char :=
  match key.dropWhile (· ≠ '_') with
  | _ :: rest => rest
  | [] => key

/-- The group of a key and the part of the key that names its property. A key that is taken as it
comes has no group. Where keys name their own groups, a key that is met in no group does so; where
directives open groups, a key in a group is shortened by the lead of the last of its names. Any
other key is kept whole in the group that is open. -/
def placement (options : Options) (open? : Option (List String)) (key : List Char) :
    Option (List String) × List Char :=
  if options.flat then (none, key)
  else if options.grouped then
    match options.grouping, open? with
    | .pattern, none => (some [String.ofList (Name.camelChars (ownGroup key))], ownRest key)
    | .pattern, some path => (some path, key)
    | .explicit, none => (none, key)
    | .explicit, some path =>
      (some path, (path.getLast?.map fun last => Name.withoutLead key last.toList).getD key)
  else (open?, key)

variable {options : Options}

/-- A key that is taken as it comes is kept whole and has no group. -/
theorem placement_of_flat (flat : options.flat = true) (open? : Option (List String))
    (key : List Char) : placement options open? key = (none, key) := if_pos flat

/-- A key has no group or lies in the open one and is kept whole, or it is met in no group and names
its own, or it lies in the open group and is shortened by the lead of the last of its names. -/
theorem placement_cases (options : Options) (open? : Option (List String)) (key : List Char) :
    placement options open? key = (none, key) ∨ placement options open? key = (open?, key) ∨
      (options.followsPattern = true ∧ open? = none ∧ placement options open? key =
        (some [String.ofList (Name.camelChars (ownGroup key))], ownRest key)) ∨
      ∃ path, open? = some path ∧ placement options open? key =
        (some path, (path.getLast?.map fun last => Name.withoutLead key last.toList).getD key) := by
  unfold placement
  split
  · exact .inl rfl
  · next ordered =>
    split
    · next grouped =>
      split
      · next pattern =>
        have patterned : options.followsPattern = true :=
          Options.followsPattern_iff.mpr ⟨Bool.eq_false_iff.mpr ordered, grouped, pattern⟩
        exact .inr (.inr (.inl ⟨patterned, rfl, rfl⟩))
      · exact .inr (.inl rfl)
      · exact .inl rfl
      · exact .inr (.inr (.inr ⟨_, rfl, rfl⟩))
    · exact .inr (.inl rfl)

/-- A key that is met in no group has none, unless keys name their own groups. -/
theorem placement_none (unpatterned : options.followsPattern = false) (key : List Char) :
    placement options none key = (none, key) := by
  rcases placement_cases options none key with kept | kept | ⟨patterned, _⟩ | ⟨_, opened, _⟩
  · exact kept
  · exact kept
  · exact absurd patterned (Bool.eq_false_iff.mp unpatterned)
  · contradiction

/-- A key that is met in no group names its own, where keys do. -/
theorem placement_of_followsPattern (patterned : options.followsPattern = true)
    (key : List Char) :
    placement options none key =
      (some [String.ofList (Name.camelChars (ownGroup key))], ownRest key) := by
  obtain ⟨ordered, grouped, pattern⟩ := Options.followsPattern_iff.mp patterned
  simp [placement, ordered, grouped, pattern]

/-- A key in a group that a directive opened is shortened by the lead of the last of its names. -/
theorem placement_of_followsDirectives (directed : options.followsDirectives = true)
    (path : List String) (key : List Char) :
    placement options (some path) key =
      (some path, (path.getLast?.map fun last => Name.withoutLead key last.toList).getD key) := by
  obtain ⟨ordered, grouped, explicit⟩ := Options.followsDirectives_iff.mp directed
  simp [placement, ordered, grouped, explicit]

/-- The item an assignment declares. -/
def declare (options : Options) (context : Context) (key value : List Char) : Item :=
  let (group, named) := placement options context.group key
  { key := String.ofList key
    sample := String.ofList value
    property := String.ofList (Name.camelChars named)
    group
    choices := choices? value }

/-- The item a line declares, if any. -/
def item? (options : Options) (context : Context) : Line → Option Item
  | .assignment key value => some (declare options context key value)
  | _ => none

/-- What is wrong with a line, if anything. -/
def cause? (options : Options) (context : Context) : Line → Option Cause
  | .blank => none
  | .directive argument =>
    if options.followsDirectives then
      match Name.groupPath? argument with
      | .ok _ => none
      | .error reason => some (.badGroup reason)
    else none
  | .comment => none
  | .assignment key _ =>
    if !options.flat && context.seen.contains (String.ofList key) then
      some (.repeatedKey (String.ofList key))
    else none
  | .malformed text => some (.malformedLine (String.ofList text))

/-- Read lines from a line number on, with what was kept from the lines before. -/
def readFrom (options : Options) (context : Context) (number : Nat) : List Line → Reading
  | [] => ⟨[], []⟩
  | line :: rest =>
    let later := readFrom options (context.next options line) (number + 1) rest
    { items := (item? options context line).toList ++ later.items
      diagnostics :=
        ((cause? options context line).map (Diagnostic.mk number)).toList ++ later.diagnostics }

/-- Read a template. -/
def read (options : Options) (text : String) : Reading :=
  readFrom options .start 1 (linesOf text.toList)

end EnvTemplate.Template
