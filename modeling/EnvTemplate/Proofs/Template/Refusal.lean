import EnvTemplate.Proofs.Template.Line
import EnvTemplate.Proofs.Template.Run

/-!
# Directives that are refused

A directive whose argument names no group path is told as an error where directives count, and
otherwise does nothing: the group that is open stays open, and so do the keys that were seen. A
template in which bare comments stand in place of all these directives has the same items and the
same diagnostics but the errors.
-/
namespace EnvTemplate.Template

variable {options : Options} {context : Context} {number : Nat} {line : Line}

namespace Line

/-- Why the argument of a directive names no group path. -/
def refusal? : Line → Option Name.GroupPathError
  | directive argument =>
    match Name.groupPath? argument with
    | .ok _ => none
    | .error reason => some reason
  | _ => none

/-- A comment in place of a directive that names no group path. -/
def hushed (line : Line) : Line := if line.refusal?.isSome then .comment else line

/-- Only a directive is refused, and a comment then stands in its place. -/
theorem hushed_cases (line : Line) :
    (∃ argument reason, line = .directive argument ∧ Name.groupPath? argument = .error reason ∧
        line.hushed = .comment) ∨
      line.refusal? = none ∧ line.hushed = line := by
  cases line with
  | directive argument =>
    cases found : Name.groupPath? argument with
    | ok path => exact .inr (by simp [hushed, refusal?, found])
    | error reason => exact .inl ⟨argument, reason, rfl, found, by simp [hushed, refusal?, found]⟩
  | _ => exact .inr ⟨rfl, rfl⟩

end Line

/-- A bare hash in place of a trimmed line that is a directive and names no group path. -/
def hushed (text : List Char) : List Char :=
  if (Line.ofTrimmed text).refusal?.isSome then ['#'] else text

/-- A bare hash is a comment. -/
theorem ofTrimmed_hushed (text : List Char) :
    Line.ofTrimmed (hushed text) = (Line.ofTrimmed text).hushed := by
  unfold hushed Line.hushed
  split <;> rfl

/-- A bare hash stands on one line without blanks. -/
theorem trim_hushed {text : List Char} (trimmed : Text.trim text = text ∧ '\n' ∉ text) :
    Text.trim (hushed text) = hushed text ∧ '\n' ∉ hushed text := by
  unfold hushed
  split
  · decide
  · exact trimmed

/-- A refused directive leaves everything as it was, like a comment. -/
theorem next_hushed : context.next options line.hushed = context.next options line := by
  obtain ⟨argument, reason, rfl, refused, comment⟩ | ⟨_, same⟩ := line.hushed_cases
  · cases follows : options.followsDirectives <;> simp [comment, Context.next, refused, follows]
  · rw [same]

/-- What is kept before a line does not depend on refused directives above it. -/
theorem contextAt_hushed (options : Options) (lines : List Line) (index : Nat) :
    contextAt options (lines.map .hushed) index = contextAt options lines index := by
  have same : (fun context line => Context.next options context (Line.hushed line)) =
      Context.next options := by
    funext context line
    exact next_hushed
  rw [contextAt, ← List.map_take, List.foldl_map, same, contextAt]

/-- Neither a refused directive nor a comment declares an item. -/
theorem item?_hushed : item? options context line.hushed = item? options context line := by
  obtain ⟨argument, reason, rfl, _, comment⟩ | ⟨_, same⟩ := line.hushed_cases
  · rw [comment]
    rfl
  · rw [same]

/-- The error told for a line is that it is a refused directive, where directives count. -/
theorem filter_error_cause? (options : Options) (context : Context) (line : Line) :
    (cause? options context line).filter (·.severity == .error) =
      if options.followsDirectives then line.refusal?.map .badGroup else none := by
  cases line with
  | blank => simp [cause?, Line.refusal?]
  | directive argument =>
    cases follows : options.followsDirectives <;> cases found : Name.groupPath? argument <;>
      simp [cause?, follows, found, Line.refusal?, Cause.severity]
  | comment => simp [cause?, Line.refusal?]
  | assignment key value =>
    by_cases repeated : options.flat = false ∧ String.ofList key ∈ context.seen <;>
      simp [cause?, repeated, Line.refusal?, Cause.severity]
  | malformed text => simp [cause?, Line.refusal?, Cause.severity]

/-- With a comment in place of a refused directive the error is gone and nothing else. -/
theorem cause?_hushed :
    cause? options context line.hushed =
      (cause? options context line).filter (!·.severity == .error) := by
  have failed := filter_error_cause? options context line
  obtain ⟨argument, reason, rfl, refused, comment⟩ | ⟨accepted, same⟩ := line.hushed_cases
  · cases follows : options.followsDirectives <;>
      simp [comment, cause?, refused, follows, Cause.severity, Option.filter]
  · rw [same]
    cases found : cause? options context line with
    | none => rfl
    | some cause => simpa [accepted, found, Option.filter] using failed

/-- With comments in place of refused directives the items are the same, and the diagnostics but for
the errors. -/
theorem readFrom_hushed (lines : List Line) :
    readFrom options context number (lines.map .hushed) =
      { items := (readFrom options context number lines).items
        diagnostics := (readFrom options context number lines).warnings } := by
  induction lines generalizing context number with
  | nil => rfl
  | cons line lines ih =>
    have first : ((cause? options context line.hushed).map (Diagnostic.mk number)).toList =
        ((cause? options context line).map (Diagnostic.mk number)).toList.filter (!·.isError) := by
      rw [cause?_hushed]
      exact (filter_numbered (!·.severity == .error) _).symm
    rw [List.map_cons, readFrom, next_hushed, item?_hushed, ih, first, readFrom, Reading.warnings,
      Reading.warnings, List.filter_append]

/-- The errors are the refused directives, where directives count. -/
theorem errors_eq_refusals (options : Options) (text : String) :
    (read options text).errors =
      if options.followsDirectives then
        faultsFrom 1 (·.refusal?.map .badGroup) (linesOf text.toList)
      else [] := by
  -- Whether directives count is the same for all lines.
  have told : (read options text).errors =
      faultsFrom 1 (fun line => if options.followsDirectives then line.refusal?.map .badGroup
        else none) (linesOf text.toList) :=
    filter_diagnostics (filter_error_cause? options) _
  rw [told]
  split
  · rfl
  · simp [faultsFrom]

/-- A template can be written with bare hashes in place of the directives that name no group path.
The errors are told for these directives, one for each, where directives count. However the template
is written with bare hashes, it has the same items, the same diagnostics but for the errors, and
before each line the same group is open and the same keys were seen. -/
theorem read_hushed (options : Options) (text : String) :
    (∃ other : String, trimmedLines other.toList = (trimmedLines text.toList).map hushed) ∧
      (read options text).errors =
        (if options.followsDirectives then
          faultsFrom 1 (·.refusal?.map .badGroup) (linesOf text.toList)
        else []) ∧
      ∀ other : String, trimmedLines other.toList = (trimmedLines text.toList).map hushed →
        (read options other).items = (read options text).items ∧
          (read options other).diagnostics = (read options text).warnings ∧
          ∀ index, contextAt options (linesOf other.toList) index =
            contextAt options (linesOf text.toList) index := by
  refine ⟨?_, errors_eq_refusals options text, fun other same => ?_⟩
  · have trimmed : ∀ line ∈ (trimmedLines text.toList).map hushed,
        Text.trim line = line ∧ '\n' ∉ line := by
      intro line listed
      obtain ⟨origin, member, rfl⟩ := List.mem_map.mp listed
      exact trim_hushed (trim_of_mem_trimmedLines member)
    obtain ⟨written, lines⟩ := Text.exists_map_trim_lines fun line listed => (trimmed line listed).2
    refine ⟨String.ofList written, ?_⟩
    rw [String.toList_ofList, trimmedLines, lines, List.map_congr_left fun line listed =>
      (trimmed line listed).1, List.map_id']
  · have lines : linesOf other.toList = (linesOf text.toList).map .hushed := by
      rw [linesOf_eq, linesOf_eq, same, List.map_map, List.map_map]
      exact List.map_congr_left fun line _ => ofTrimmed_hushed line
    rw [read, lines, readFrom_hushed]
    exact ⟨rfl, rfl, fun index => contextAt_hushed options _ index⟩

/-- Two refused directives, one of them with a good segment before the bad one, leave the group open
that was open, and their errors are all that is missing without them. -/
theorem read_hushed_between :
    let text := "# @group: app\n# @group: db.x y.$\nAPP_NAME=x\n #@group: a..b \r\nAPP_NAME=y\n"
    let other := "# @group: app\n#\nAPP_NAME=x\n#\nAPP_NAME=y"
    trimmedLines other.toList = (trimmedLines text.toList).map hushed ∧
      (read .standard text).errors.map (·.line) = [2, 4] ∧
      (read .standard text).items.map (·.group) = [some ["app"], some ["app"]] ∧
      (read .standard other).items = (read .standard text).items ∧
      (read .standard other).diagnostics = (read .standard text).warnings ∧
      (read .standard text).warnings = [⟨5, .repeatedKey "APP_NAME"⟩] := by
  intro text other
  have written : trimmedLines other.toList = (trimmedLines text.toList).map hushed := by decide
  obtain ⟨_, errors, without⟩ := read_hushed .standard text
  obtain ⟨items, diagnostics, _⟩ := without other written
  exact ⟨written, by rw [errors]; decide, by decide, items, diagnostics, by decide⟩

end EnvTemplate.Template
