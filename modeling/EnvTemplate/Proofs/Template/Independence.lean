import EnvTemplate.Proofs.Template.Diagnostics

/-!
# What the options do not change

The options say what is done with groups and with repeated keys. They have no say in which lines
are assignments and which are malformed, because that is decided by the characters of a line alone.
Two readings of one template with different options keep different things from line to line, and
yet they go side by side: each line declares an item in both or in neither, and these items differ
in their places at most.
-/
namespace EnvTemplate.Template

variable {options other : Options} {context kept : Context} {number later : Nat}

/-- Two items declare the same key with the same sample and the same choices. In which groups they
lie and how their values are named may differ. -/
structure Item.Matches (item other : Item) : Prop where
  /-- The keys are the same. -/
  key : item.key = other.key
  /-- The samples are the same. -/
  sample : item.sample = other.sample
  /-- The choices are the same. -/
  choices : item.choices = other.choices

/-- A line declares an item whatever the options are and whatever was kept, and always with the
same key, sample and choices. -/
theorem item?_matches (options other : Options) (context kept : Context) (line : Line) :
    List.Forall₂ Item.Matches (item? options context line).toList
      (item? other kept line).toList := by
  cases line with
  | assignment key value => exact .cons ⟨rfl, rfl, rfl⟩ .nil
  | _ => exact .nil

/-- Lines declare the same in two readings that begin with different options and with different
things kept from the lines before. -/
theorem readFrom_items_matches (lines : List Line) :
    List.Forall₂ Item.Matches (readFrom options context number lines).items
      (readFrom other kept later lines).items := by
  -- Nothing relates what the two readings keep, so the induction is for any two contexts.
  induction lines generalizing context kept number later with
  | nil => exact .nil
  | cons line lines ih => exact List.rel_append (item?_matches options other context kept line) ih

/-- What is wrong with a line by itself. -/
def Line.fault? : Line → Option Cause
  | malformed text => some (.malformedLine (String.ofList text))
  | _ => none

/-- That a line is malformed is told whatever the options are and whatever was kept. -/
theorem filter_malformed_cause? (options : Options) (context : Context) (line : Line) :
    (cause? options context line).filter Cause.isMalformedLine = line.fault? := by
  cases line with
  | blank => rfl
  | directive argument =>
    cases follows : options.followsDirectives <;> cases found : Name.groupPath? argument <;>
      simp [cause?, follows, found, Line.fault?, Cause.isMalformedLine]
  | comment => rfl
  | assignment key value =>
    by_cases repeated : options.flat = false ∧ String.ofList key ∈ context.seen <;>
      simp [cause?, repeated, Line.fault?, Cause.isMalformedLine]
  | malformed text => rfl

/-- The malformed lines that are told are those that the template has. -/
theorem malformed_diagnostics (options : Options) (text : String) :
    (read options text).diagnostics.filter (·.cause.isMalformedLine) =
      faultsFrom 1 Line.fault? (linesOf text.toList) :=
  filter_diagnostics (filter_malformed_cause? options) _

/-- The assignment that declares an item. -/
def Item.assignment (item : Item) : String := item.key ++ "=" ++ item.sample

/-- The item of a line has that line as its assignment. -/
theorem assignment_item?_ofTrimmed (options : Options) (context : Context) (text : List Char) :
    (item? options context (Line.ofTrimmed text)).map Item.assignment =
      if (assignment? text).isSome then some (String.ofList text) else none := by
  rw [item?_ofTrimmed]
  cases assigned : assignment? text with
  | none => rfl
  | some parts =>
    obtain ⟨key, value⟩ := parts
    obtain ⟨whole, _, _⟩ := assignment?_eq_some_iff.mp assigned
    simp [whole, Item.assignment, declare, String.ofList_append, String.ofList_cons,
      String.append_assoc]

/-- The assignments of the items are the lines that are assignments, in order. -/
theorem map_assignment_items (texts : List (List Char)) :
    (readFrom options context number (texts.map Line.ofTrimmed)).items.map Item.assignment =
      (texts.filter fun text => (assignment? text).isSome).map String.ofList := by
  induction texts generalizing context number with
  | nil => rfl
  | cons text texts ih =>
    rw [List.map_cons, readFrom, List.map_append, ih, ← Option.toList_map,
      assignment_item?_ofTrimmed, List.filter_cons]
    split <;> rfl

/-- The trimmed lines of a text that are assignments. -/
def assignmentLines (text : List Char) : List (List Char) :=
  (trimmedLines text).filter fun line => (assignment? line).isSome

/-- The assignments of the items of a template are its lines that are assignments. -/
theorem map_assignment_read (options : Options) (text : String) :
    (read options text).items.map Item.assignment =
      (assignmentLines text.toList).map String.ofList := by
  rw [read, linesOf_eq, map_assignment_items, assignmentLines]

/-- Whatever the options are, a template declares the same keys with the same samples and the same
choices, in the same order, and the same lines are told to be malformed. Each item is declared by
one line, which is its key, an equals sign and its sample, and all lines of this form declare an
item. Hence the options decide only on groups, on the names of properties, and on what is told about
repeated keys and about directives. -/
theorem read_matches (options other : Options) (text : String) :
    List.Forall₂ Item.Matches (read options text).items (read other text).items ∧
      (read options text).diagnostics.filter (·.cause.isMalformedLine) =
        (read other text).diagnostics.filter (·.cause.isMalformedLine) ∧
      (read options text).items.map Item.assignment =
        (assignmentLines text.toList).map String.ofList := by
  refine ⟨readFrom_items_matches _, ?_, map_assignment_read options text⟩
  rw [malformed_diagnostics, malformed_diagnostics]

end EnvTemplate.Template
