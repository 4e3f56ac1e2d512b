import EnvTemplate.Template.Reading
import Mathlib.Data.List.Forall2

/-!
# Reading as a run

Reading is a run of a machine over the lines: the context before a line is what the lines above it
leave behind, and the items and the diagnostics are what each line gives in the context before it.
Two texts of lines one after the other are read one after the other.
-/
namespace EnvTemplate.Template

variable {options : Options} {context : Context} {number index : Nat} {lines : List Line}
  {line : Line}

/-- What is kept before a line of a list, the first line having number zero. -/
def contextAt (options : Options) (lines : List Line) (index : Nat) : Context :=
  (lines.take index).foldl (Context.next options) .start

/-- Nothing is kept before the first line. -/
theorem contextAt_zero (options : Options) (lines : List Line) :
    contextAt options lines 0 = .start := rfl

/-- What is kept after a line is what the line makes of what was kept before it. -/
theorem contextAt_succ (found : lines[index]? = some line) :
    contextAt options lines (index + 1) = (contextAt options lines index).next options line := by
  simp [contextAt, List.take_add_one, found]

/-- The key that a line assigns. -/
def Line.key? : Line → Option String
  | assignment key _ => some (String.ofList key)
  | _ => none

/-- A line adds its key to what is seen, if it assigns one. -/
theorem seen_next : (context.next options line).seen = line.key?.toList ++ context.seen := by
  cases line with
  | blank => cases closes : options.blankCloses <;> simp [Context.next, Line.key?, closes]
  | directive argument =>
    cases follows : options.followsDirectives <;> cases found : Name.groupPath? argument <;>
      simp [Context.next, Line.key?, follows, found]
  | _ => simp [Context.next, Line.key?]

/-- What is seen after some lines are their keys, the last first, before what was seen. -/
theorem seen_foldl_next (lines : List Line) :
    (lines.foldl (Context.next options) context).seen =
      (lines.filterMap Line.key?).reverse ++ context.seen := by
  induction lines generalizing context with
  | nil => rfl
  | cons line lines ih =>
    rw [List.foldl_cons, ih, seen_next]
    cases assigned : line.key? <;> simp [assigned]

/-- The keys seen before a line are those that the lines above it assign. -/
theorem mem_seen_contextAt_iff {key : String} :
    key ∈ (contextAt options lines index).seen ↔
      ∃ above ∈ lines.take index, above.key? = some key := by
  rw [contextAt, seen_foldl_next]
  simp [Context.start]

/-- Where directives do not count, no line opens a group. -/
theorem group_next_of_undirected (undirected : options.followsDirectives = false)
    (closed : context.group = none) : (context.next options line).group = none := by
  cases line with
  | blank => cases closes : options.blankCloses <;> simp [Context.next, closes, closed]
  | directive argument => simp [Context.next, undirected, closed]
  | _ => exact closed

/-- Where directives do not count, no group is ever open. -/
theorem group_contextAt_of_undirected (undirected : options.followsDirectives = false)
    (lines : List Line) (index : Nat) : (contextAt options lines index).group = none :=
  List.foldlRecOn (motive := fun context : Context => context.group = none) _ _ rfl
    fun _ closed _ _ => group_next_of_undirected undirected closed

/-- A single line gives its diagnostic. -/
theorem readFrom_singleton :
    (readFrom options context number [line]).diagnostics =
      ((cause? options context line).map (Diagnostic.mk number)).toList := by
  simp [readFrom]

/-- Lines after others are read with what those others leave behind. -/
theorem readFrom_append (first second : List Line) :
    readFrom options context number (first ++ second) =
      let later := readFrom options (first.foldl (Context.next options) context)
        (number + first.length) second
      { items := (readFrom options context number first).items ++ later.items
        diagnostics := (readFrom options context number first).diagnostics ++
          later.diagnostics } := by
  induction first generalizing context number with
  | nil => simp [readFrom]
  | cons line first ih =>
    simp [readFrom, ih, List.append_assoc, Nat.add_assoc, Nat.add_comm 1]

/-- The items are those that the lines declare, each in the context before its line. -/
theorem readFrom_items (lines : List Line) :
    (readFrom options context number lines).items =
      (List.range lines.length).filterMap fun index =>
        lines[index]?.bind
          (item? options ((lines.take index).foldl (Context.next options) context)) := by
  induction lines generalizing context number with
  | nil => rfl
  | cons line lines ih =>
    rw [List.length_cons, List.range_succ_eq_map, List.filterMap_cons, List.filterMap_map, readFrom,
      ih]
    simp only [List.getElem?_cons_zero, List.take_zero, List.foldl_nil, Option.bind_some,
      Function.comp_def, List.getElem?_cons_succ, List.take_succ_cons, List.foldl_cons]
    cases item? options context line <;> rfl

/-- The diagnostics are the causes of the lines, each in the context before its line and with the
number of its line. -/
theorem readFrom_diagnostics (lines : List Line) :
    (readFrom options context number lines).diagnostics =
      (List.range lines.length).filterMap fun index =>
        (lines[index]?.bind
          (cause? options ((lines.take index).foldl (Context.next options) context))).map
          (Diagnostic.mk (number + index)) := by
  induction lines generalizing context number with
  | nil => rfl
  | cons line lines ih =>
    rw [List.length_cons, List.range_succ_eq_map, List.filterMap_cons, List.filterMap_map, readFrom,
      ih]
    simp only [List.getElem?_cons_zero, List.take_zero, List.foldl_nil, Option.bind_some,
      Function.comp_def, List.getElem?_cons_succ, List.take_succ_cons, List.foldl_cons,
      Nat.add_zero, Nat.add_right_comm number 1, Nat.add_assoc number _ 1, Nat.succ_eq_add_one]
    cases cause? options context line <;> rfl

/-- The item that the line at an index declares. -/
def itemAt? (options : Options) (lines : List Line) (index : Nat) : Option Item :=
  lines[index]?.bind (item? options (contextAt options lines index))

/-- Whether a line is an assignment. -/
def Line.isAssignment : Line → Bool
  | assignment _ _ => true
  | _ => false

/-- The assignments are the lines that declare an item. -/
theorem itemAt?_isSome (options : Options) (lines : List Line) (index : Nat) :
    (itemAt? options lines index).isSome = lines[index]?.any Line.isAssignment := by
  cases found : lines[index]? with
  | none => simp [itemAt?, found]
  | some line => cases line <;> simp [itemAt?, found, item?, Line.isAssignment]

/-- What is wrong with the line at an index. -/
def causeAt? (options : Options) (lines : List Line) (index : Nat) : Option Cause :=
  lines[index]?.bind (cause? options (contextAt options lines index))

/-- The items of a template are those of its lines. -/
theorem read_items (options : Options) (text : String) :
    (read options text).items =
      (List.range (linesOf text.toList).length).filterMap (itemAt? options (linesOf text.toList)) :=
  readFrom_items _

/-- The indices of the lines that are assignments, in order. -/
def assignmentsOf (lines : List Line) : List Nat :=
  (List.range lines.length).filter fun index => lines[index]?.any Line.isAssignment

/-- What the members of a list map to corresponds to those of them that map to something. -/
theorem forall₂_filterMap {α β : Type} {list : List α} {f : α → Option β} {R : α → β → Prop}
    (each : ∀ a ∈ list, ∀ b, f a = some b → R a b) :
    List.Forall₂ R (list.filter fun a => (f a).isSome) (list.filterMap f) := by
  induction list with
  | nil => exact .nil
  | cons first rest ih =>
    have later := ih fun a member => each a (List.mem_cons_of_mem _ member)
    cases found : f first with
    | none => simpa [found] using later
    | some b => simpa [found] using ⟨each first List.mem_cons_self b found, later⟩

/-- Each assignment gives one item, in order. -/
theorem items_forall₂ {text : String} {R : Nat → Item → Prop}
    (each : ∀ index < (linesOf text.toList).length, ∀ item,
      itemAt? options (linesOf text.toList) index = some item → R index item) :
    List.Forall₂ R (assignmentsOf (linesOf text.toList)) (read options text).items := by
  rw [read_items, assignmentsOf]
  simp only [← itemAt?_isSome options]
  exact forall₂_filterMap fun index member => each index (List.mem_range.mp member)

/-- The diagnostics of a template are those of its lines, which are numbered from one. -/
theorem read_diagnostics (options : Options) (text : String) :
    (read options text).diagnostics =
      (List.range (linesOf text.toList).length).filterMap fun index =>
        (causeAt? options (linesOf text.toList) index).map (Diagnostic.mk (index + 1)) := by
  rw [read, readFrom_diagnostics]
  simp only [Nat.add_comm 1]
  rfl

/-- The faults that each of some lines has by itself, with the numbers of the lines. -/
def faultsFrom (number : Nat) (fault? : Line → Option Cause) (lines : List Line) :
    List Diagnostic :=
  (lines.zipIdx number).filterMap fun numbered =>
    (fault? numbered.1).map (Diagnostic.mk numbered.2)

/-- A test of causes does not depend on the numbers of the lines. -/
theorem filter_numbered (test : Cause → Bool) (found? : Option Cause) :
    (found?.map (Diagnostic.mk number)).toList.filter (test ·.cause) =
      ((found?.filter test).map (Diagnostic.mk number)).toList := by
  cases found? with
  | none => rfl
  | some cause => cases held : test cause <;> simp [Option.filter, held]

/-- When what is told of one kind can be seen from each line alone, the diagnostics of this kind are
those of the lines, each with the number of its line. -/
theorem filter_diagnostics {test : Cause → Bool} {fault? : Line → Option Cause}
    (own : ∀ context line, (cause? options context line).filter test = fault? line)
    (lines : List Line) :
    (readFrom options context number lines).diagnostics.filter (test ·.cause) =
      faultsFrom number fault? lines := by
  induction lines generalizing context number with
  | nil => rfl
  | cons line lines ih =>
    rw [readFrom, List.filter_append, filter_numbered, own, ih, faultsFrom, faultsFrom,
      List.zipIdx_cons, List.filterMap_cons]
    cases fault? line <;> rfl

end EnvTemplate.Template
