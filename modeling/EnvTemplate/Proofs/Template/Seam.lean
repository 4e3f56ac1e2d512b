import EnvTemplate.Proofs.Template.Diagnostics
import EnvTemplate.Proofs.Text.Lines

/-!
# Templates one after the other

When blank lines close groups, nothing but the keys seen so far passes a blank line. A template
behind another one and a blank line is therefore read as if it stood alone, except for its numbers
and for the keys that the other one assigns too: the first line that assigns such a key is told to
repeat it, unless keys are taken as they come.
-/
namespace EnvTemplate.Template

variable {options : Options} {context : Context} {number : Nat} {line : Line}
  {earlier : List String}

/-- What is kept when keys were seen before all others. -/
def Context.after (earlier : List String) (context : Context) : Context :=
  { context with seen := context.seen ++ earlier }

/-- Keys seen before all others are passed on. -/
theorem next_after :
    (context.after earlier).next options line = (context.next options line).after earlier := by
  cases line with
  | blank => cases closes : options.blankCloses <;> simp [Context.next, Context.after, closes]
  | directive argument =>
    cases follows : options.followsDirectives <;> cases found : Name.groupPath? argument <;>
      simp [Context.next, Context.after, follows, found]
  | _ => simp [Context.next, Context.after]

/-- Keys seen before all others are passed on from line to line. -/
theorem foldl_next_after (lines : List Line) :
    lines.foldl (Context.next options) (context.after earlier) =
      (lines.foldl (Context.next options) context).after earlier := by
  induction lines generalizing context with
  | nil => rfl
  | cons line lines ih => rw [List.foldl_cons, next_after, ih, List.foldl_cons]

/-- What a line declares does not depend on the keys seen before it. -/
theorem item?_after : item? options (context.after earlier) line = item? options context line := by
  cases line <;> rfl

/-- What is wrong with a line only because of keys seen before all others: unless keys are taken as
they come, the line assigns one of these keys, and it is the first after them that does. -/
def gained? (options : Options) (context : Context) (earlier : List String) (line : Line) :
    Option Cause :=
  if options.flat then none
  else (line.key?.filter fun key => key ∈ earlier ∧ key ∉ context.seen).map .repeatedKey

/-- Keys seen before all others add to what is wrong with a line what it gains from them. -/
theorem cause?_after :
    cause? options (context.after earlier) line =
      (cause? options context line).or (gained? options context earlier line) := by
  cases line with
  | assignment key value =>
    cases flat : options.flat <;> by_cases seen : String.ofList key ∈ context.seen <;>
      by_cases before : String.ofList key ∈ earlier <;>
      simp [cause?, gained?, Line.key?, Context.after, flat, seen, before]
  | directive argument =>
    cases follows : options.followsDirectives <;> cases found : Name.groupPath? argument <;>
      simp [cause?, gained?, Line.key?, follows, found]
  | _ => simp [cause?, gained?, Line.key?]

/-- A line has only one of the two causes to repeat a key. -/
theorem cause?_or_gained? (options : Options) (context : Context) (earlier : List String)
    (line : Line) :
    cause? options context line = none ∨ gained? options context earlier line = none := by
  cases line with
  | assignment key value =>
    by_cases seen : String.ofList key ∈ context.seen
    · exact .inr (by simp [gained?, Line.key?, seen])
    · exact .inl (by simp [cause?, seen])
  | _ => exact .inr (by simp [gained?, Line.key?])

/-- A diagnostic some lines further down. -/
def Diagnostic.shift (offset : Nat) (diagnostic : Diagnostic) : Diagnostic :=
  { diagnostic with line := offset + diagnostic.line }

/-- Only the numbers of the diagnostics depend on where the reading starts. -/
theorem readFrom_shift (offset : Nat) (lines : List Line) :
    readFrom options context (offset + number) lines =
      { items := (readFrom options context number lines).items
        diagnostics := (readFrom options context number lines).diagnostics.map (.shift offset) } := by
  induction lines generalizing context number with
  | nil => rfl
  | cons line lines ih =>
    have first : ((cause? options context line).map (Diagnostic.mk (offset + number))).toList =
        ((cause? options context line).map (Diagnostic.mk number)).toList.map (.shift offset) := by
      cases cause? options context line <;> rfl
    rw [readFrom, Nat.add_assoc, ih, first, readFrom, List.map_append]

/-- The order of the lines. -/
def Diagnostic.precedes (left right : Diagnostic) : Bool := left.line ≤ right.line

/-- A diagnostic above all those it is merged with comes first. -/
theorem cons_merge {first : Diagnostic} {others : List Diagnostic}
    (above : ∀ other ∈ others, first.line < other.line) (rest : List Diagnostic) :
    (first :: rest).merge others Diagnostic.precedes =
      first :: rest.merge others Diagnostic.precedes := by
  cases others with
  | nil => simp
  | cons other others =>
    have before : first.line < other.line := above other List.mem_cons_self
    have ordered : first.precedes other = true := decide_eq_true (Nat.le_of_lt before)
    rw [List.cons_merge_cons, if_pos ordered]

/-- A diagnostic above all those that its list is merged into comes first. -/
theorem merge_cons {first : Diagnostic} {others : List Diagnostic}
    (above : ∀ other ∈ others, first.line < other.line) (rest : List Diagnostic) :
    others.merge (first :: rest) Diagnostic.precedes =
      first :: others.merge rest Diagnostic.precedes := by
  cases others with
  | nil => simp
  | cons other others =>
    have before : first.line < other.line := above other List.mem_cons_self
    have ordered : ¬other.precedes first = true := by
      rw [Diagnostic.precedes, decide_eq_true_eq]
      omega
    rw [List.cons_merge_cons, if_neg ordered]

/-- What lines give carries the numbers of these lines. -/
def IsNumbered (found? : Nat → Option Diagnostic) : Prop :=
  ∀ index diagnostic, found? index = some diagnostic → diagnostic.line = index + 1

/-- What the lines below a line give carries greater numbers than that line. -/
theorem IsNumbered.lt_line {found? : Nat → Option Diagnostic} (numbered : IsNumbered found?)
    {first : Nat} {later : List Nat} (above : ∀ index ∈ later, first < index) :
    ∀ diagnostic ∈ later.filterMap found?, first + 1 < diagnostic.line := by
  intro diagnostic member
  obtain ⟨index, listed, found⟩ := List.mem_filterMap.mp member
  rw [numbered index diagnostic found]
  exact Nat.succ_lt_succ (above index listed)

/-- Two kinds of diagnostics for the same lines, of which each line gives one kind at most, are
merged by their lines into the diagnostics of both kinds. -/
theorem merge_filterMap {one? other? : Nat → Option Diagnostic} {indices : List Nat}
    (increasing : indices.Pairwise (· < ·)) (ones : IsNumbered one?) (others : IsNumbered other?)
    (apart : ∀ index, one? index = none ∨ other? index = none) :
    (indices.filterMap one?).merge (indices.filterMap other?) Diagnostic.precedes =
      indices.filterMap fun index => (one? index).or (other? index) := by
  induction increasing with
  | nil => simp
  | @cons index later above _ ih =>
    cases one : one? index with
    | some diagnostic =>
      have other : other? index = none := (apart index).resolve_left (by simp [one])
      have placed : diagnostic.line = index + 1 := ones index diagnostic one
      have below := others.lt_line above
      simp only [List.filterMap_cons, one, other, Option.some_or]
      rw [cons_merge (placed ▸ below), ih]
    | none =>
      cases other : other? index with
      | none => simpa only [List.filterMap_cons, one, other, Option.none_or] using ih
      | some diagnostic =>
        have placed : diagnostic.line = index + 1 := others index diagnostic other
        have below := ones.lt_line above
        simp only [List.filterMap_cons, one, other, Option.none_or]
        rw [merge_cons (placed ▸ below), ih]

/-- What is wrong with the line at an index only because of keys assigned before all lines. -/
def gainedAt? (options : Options) (earlier : List String) (lines : List Line) (index : Nat) :
    Option Cause :=
  if options.flat then none
  else ((lines[index]?.bind Line.key?).filter fun key =>
    key ∈ earlier ∧ key ∉ (lines.take index).filterMap Line.key?).map .repeatedKey

/-- The diagnostics that lines gain from keys assigned before them: each of these keys is told to
be repeated once, for the first line that assigns it. -/
def gained (options : Options) (earlier : List String) (lines : List Line) : List Diagnostic :=
  (List.range lines.length).filterMap fun index =>
    (gainedAt? options earlier lines index).map (Diagnostic.mk (index + 1))

/-- The keys that the lines above a line assign are those that are seen before it. -/
theorem gainedAt?_eq (options : Options) (earlier : List String) (lines : List Line) (index : Nat) :
    gainedAt? options earlier lines index =
      lines[index]?.bind (gained? options (contextAt options lines index) earlier) := by
  have seen : ∀ key, key ∈ (contextAt options lines index).seen ↔
      key ∈ (lines.take index).filterMap Line.key? := by
    intro key
    rw [contextAt, seen_foldl_next, Context.start, List.append_nil, List.mem_reverse]
  cases found : lines[index]? with
  | none => simp [gainedAt?, found]
  | some line => simp [gainedAt?, gained?, found, seen]

/-- Keys assigned before all lines add to what is wrong with the line at an index what it gains. -/
theorem causeAt?_after (options : Options) (earlier : List String) (lines : List Line)
    (index : Nat) :
    lines[index]?.bind (cause? options ((contextAt options lines index).after earlier)) =
      (causeAt? options lines index).or (gainedAt? options earlier lines index) := by
  rw [causeAt?, gainedAt?_eq]
  cases lines[index]? with
  | none => rfl
  | some line => exact cause?_after

/-- The line at an index has only one of the two causes to repeat a key. -/
theorem causeAt?_or_gainedAt? (options : Options) (earlier : List String) (lines : List Line)
    (index : Nat) :
    causeAt? options lines index = none ∨ gainedAt? options earlier lines index = none := by
  rw [causeAt?, gainedAt?_eq]
  cases lines[index]? with
  | none => exact .inl rfl
  | some line => exact cause?_or_gained? options _ earlier line

/-- When no group is open, lines declare what they declare alone, whatever keys were seen before. -/
theorem items_after (options : Options) (earlier : List String) (lines : List Line) :
    (readFrom options (Context.start.after earlier) 1 lines).items =
      (readFrom options .start 1 lines).items := by
  have same : ∀ context, item? options (context.after earlier) = item? options context :=
    fun _ => funext fun _ => item?_after
  simp only [readFrom_items, foldl_next_after, same]

/-- When no group is open, lines have the faults that they have alone, and those that they gain
from the keys seen before. -/
theorem diagnostics_after (options : Options) (earlier : List String) (lines : List Line) :
    (readFrom options (Context.start.after earlier) 1 lines).diagnostics =
      (readFrom options .start 1 lines).diagnostics.merge (gained options earlier lines)
        Diagnostic.precedes := by
  have numbered : ∀ causes? : Nat → Option Cause,
      IsNumbered fun index => (causes? index).map (Diagnostic.mk (index + 1)) := by
    intro causes? index diagnostic found
    obtain ⟨_, _, rfl⟩ := Option.map_eq_some_iff.mp found
    rfl
  have apart : ∀ index, (causeAt? options lines index).map (Diagnostic.mk (index + 1)) = none ∨
      (gainedAt? options earlier lines index).map (Diagnostic.mk (index + 1)) = none := by
    intro index
    rw [Option.map_eq_none_iff, Option.map_eq_none_iff]
    exact causeAt?_or_gainedAt? options earlier lines index
  have alone : (readFrom options .start 1 lines).diagnostics =
      (List.range lines.length).filterMap fun index =>
        (causeAt? options lines index).map (Diagnostic.mk (index + 1)) := by
    simp only [readFrom_diagnostics, Nat.add_comm 1]
    rfl
  rw [alone, gained, merge_filterMap List.pairwise_lt_range (numbered _) (numbered _) apart]
  simp only [readFrom_diagnostics, foldl_next_after, Nat.add_comm 1, ← Option.map_or,
    ← causeAt?_after]
  rfl

/-- A blank line that closes groups leaves only the keys of the lines above it. -/
theorem foldl_next_blank (closes : options.blankCloses = true) (lines : List Line) :
    (lines.foldl (Context.next options) .start).next options .blank =
      Context.start.after (lines.filterMap Line.key?).reverse := by
  have seen : (lines.foldl (Context.next options) .start).seen =
      (lines.filterMap Line.key?).reverse ++ [] := seen_foldl_next lines
  simp only [Context.next, closes, ↓reduceIte, Context.after, seen, List.append_nil]
  rfl

/-- Keys count however they are ordered. -/
theorem gained_reverse (options : Options) (earlier : List String) (lines : List Line) :
    gained options earlier.reverse lines = gained options earlier lines := by
  simp only [gained, gainedAt?, List.mem_reverse]

/-- The lines of a finished text, a blank line and another text. -/
theorem linesOf_append_blank {first : List Char} (finished : Text.IsFinished first)
    (second : List Char) :
    linesOf (first ++ '\n' :: second) = linesOf first ++ .blank :: linesOf second := by
  rw [linesOf, Text.lines_append_of_isFinished finished, List.map_append, List.map_cons]
  rfl

/-- When blank lines close groups, a template behind a finished text and a blank line is read as it
is read alone: its items follow those of the first text, and its diagnostics, further down by the
lines of the first text and the blank one, follow the diagnostics of the first text. To them come,
unless keys are taken as they come, the repeated keys that both texts assign, each on the first
line of the second text that assigns it. -/
theorem read_append_blank (closes : options.blankCloses = true) {first : String}
    (finished : Text.IsFinished first.toList) (second : String) :
    read options (first ++ "\n" ++ second) =
      { items := (read options first).items ++ (read options second).items
        diagnostics := (read options first).diagnostics ++
          ((read options second).diagnostics.merge
            (gained options ((linesOf first.toList).filterMap Line.key?) (linesOf second.toList))
            Diagnostic.precedes).map (.shift ((Text.lines first.toList).length + 1)) } := by
  have text : (first ++ "\n" ++ second).toList = first.toList ++ '\n' :: second.toList := by
    simp
  have count : (linesOf first.toList).length = (Text.lines first.toList).length := by
    rw [linesOf, List.length_map]
  have blank : readFrom options ((linesOf first.toList).foldl (Context.next options) .start)
      (1 + (linesOf first.toList).length) (.blank :: linesOf second.toList) =
      readFrom options (Context.start.after ((linesOf first.toList).filterMap Line.key?).reverse)
        ((Text.lines first.toList).length + 1 + 1) (linesOf second.toList) := by
    rw [readFrom, foldl_next_blank closes, count, Nat.add_comm 1]
    rfl
  rw [read, text, linesOf_append_blank finished, readFrom_append, blank, readFrom_shift,
    items_after, diagnostics_after, gained_reverse]
  rfl

/-- A key of the first text that the second one assigns twice is told to be repeated twice, and the
group of the first text does not reach into the second. -/
theorem read_append_blank_repeats :
    Options.standard.blankCloses = true ∧
      Text.IsFinished "# @group: app\nAPP_NAME=x\n".toList ∧
      let reading := read .standard ("# @group: app\nAPP_NAME=x\n" ++ "\n" ++
        "PORT=1\nAPP_NAME=y\nAPP_NAME=z\n")
      reading.items.map (·.group) = [some ["app"], none, none, none] ∧
        reading.diagnostics = [⟨5, .repeatedKey "APP_NAME"⟩, ⟨6, .repeatedKey "APP_NAME"⟩] := by
  have finished : Text.IsFinished "# @group: app\nAPP_NAME=x\n".toList := by decide
  refine ⟨rfl, finished, ?_⟩
  rw [read_append_blank rfl finished]
  have own : (read .standard "PORT=1\nAPP_NAME=y\nAPP_NAME=z\n").diagnostics =
      [⟨3, .repeatedKey "APP_NAME"⟩] := by decide
  have gains : gained .standard
      ((linesOf "# @group: app\nAPP_NAME=x\n".toList).filterMap Line.key?)
      (linesOf "PORT=1\nAPP_NAME=y\nAPP_NAME=z\n".toList) = [⟨2, .repeatedKey "APP_NAME"⟩] := by
    decide
  refine ⟨by decide, ?_⟩
  rw [own, gains, merge_cons (by decide), List.merge_right]
  decide

end EnvTemplate.Template
