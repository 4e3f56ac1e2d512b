import EnvTemplate.Proofs.Template.Line
import EnvTemplate.Proofs.Template.Run
import Mathlib.Data.Finset.Card
import Mathlib.Data.List.Induction

/-!
# The diagnostics of a template

What is wrong with a line depends on the options, the line and the keys above it. The diagnostics
are exactly the faults of the lines, one for a line at most, in the order of the lines. Hence each
line that is neither blank nor a comment is counted once, as an item or as malformed, and the
repeated keys make up the difference between the items and their keys.
-/
namespace EnvTemplate.Template

variable {options : Options} {context : Context} {number index : Nat} {lines : List Line}
  {line : Line} {key : String} {cause : Cause}

/-- What is wrong with a trimmed line below the given ones, and how much it weighs. -/
inductive Faulty (options : Options) (earlier : List (List Char)) (line : List Char) :
    Severity → Cause → Prop
  /-- The line is not empty, no comment and no assignment. -/
  | malformed (filled : line ≠ []) (plain : line.head? ≠ some '#')
    (other : assignment? line = none) :
    Faulty options earlier line .warning (.malformedLine (String.ofList line))
  /-- The line assigns a key that a line above it assigns, and keys are not taken as they come. -/
  | repeated (key value : List Char) (ordered : options.flat = false)
    (assigns : assignment? line = some (key, value))
    (before : ∃ above ∈ earlier, ∃ value, assignment? above = some (key, value)) :
    Faulty options earlier line .warning (.repeatedKey (String.ofList key))
  /-- Directives group the keys, and the line is one whose argument is no group path. -/
  | badGroup (argument : List Char) (reason : Name.GroupPathError)
    (ordered : options.flat = false) (grouped : options.grouped = true)
    (explicit : options.grouping = .explicit) (directs : directive? line = some argument)
    (refused : Name.groupPath? argument = .error reason) :
    Faulty options earlier line .error (.badGroup reason)

/-- A line assigns a key when it is an assignment of that key. -/
theorem key?_ofTrimmed_iff {text key : List Char} :
    (Line.ofTrimmed text).key? = some (String.ofList key) ↔
      ∃ value, assignment? text = some (key, value) := by
  simp only [← Line.ofTrimmed_eq_assignment_iff]
  cases Line.ofTrimmed text <;> simp [Line.key?, String.ofList_inj]

/-- The key of an assignment is seen when a line above assigns it too. -/
theorem mem_seen_contextAt_ofTrimmed_iff {texts : List (List Char)} {key : List Char} :
    String.ofList key ∈ (contextAt options (texts.map Line.ofTrimmed) index).seen ↔
      ∃ above ∈ texts.take index, ∃ value, assignment? above = some (key, value) := by
  rw [mem_seen_contextAt_iff, ← List.map_take]
  simp only [List.mem_map, exists_exists_and_eq_and, key?_ofTrimmed_iff]

/-- The causes told for a line: it is malformed, it is an assignment of a key that is seen, or it
is a directive that counts and has no group path. -/
theorem cause?_eq_some_iff :
    cause? options context line = some cause ↔
      (∃ text, line = .malformed text ∧ cause = .malformedLine (String.ofList text)) ∨
        (∃ key value, line = .assignment key value ∧ options.flat = false ∧
          String.ofList key ∈ context.seen ∧ cause = .repeatedKey (String.ofList key)) ∨
        ∃ argument reason, line = .directive argument ∧ options.followsDirectives = true ∧
          Name.groupPath? argument = .error reason ∧ cause = .badGroup reason := by
  cases line with
  | blank => simp [cause?]
  | directive argument =>
    cases follows : options.followsDirectives with
    | false => simp [cause?, follows]
    | true =>
      cases found : Name.groupPath? argument with
      | ok path => simp [cause?, follows, found]
      | error reason =>
        simpa [cause?, follows, found] using eq_comm (a := Cause.badGroup reason)
  | comment => simp [cause?]
  | assignment key value =>
    by_cases repeated : options.flat = false ∧ String.ofList key ∈ context.seen
    · simpa [cause?, repeated] using eq_comm (a := Cause.repeatedKey (String.ofList key))
    · have taken : ¬(!options.flat && context.seen.contains (String.ofList key)) := by
        simpa using repeated
      simp only [cause?, if_neg taken]
      grind
  | malformed text => simpa [cause?] using eq_comm (a := Cause.malformedLine (String.ofList text))

/-- The cause told for a line is the fault of the line below those above it. -/
theorem causeAt?_eq_some_iff {texts : List (List Char)} :
    causeAt? options (texts.map Line.ofTrimmed) index = some cause ↔
      ∃ text, texts[index]? = some text ∧
        Faulty options (texts.take index) text cause.severity cause := by
  rw [causeAt?, List.getElem?_map, Option.bind_eq_some_iff]
  simp only [Option.map_eq_some_iff, exists_exists_and_eq_and]
  refine exists_congr fun text => and_congr_right fun _ => ?_
  rw [cause?_eq_some_iff]
  constructor
  · rintro (⟨_, same, rfl⟩ | ⟨key, value, same, ordered, seen, rfl⟩ |
      ⟨argument, reason, same, follows, refused, rfl⟩)
    · obtain ⟨rfl, filled, plain, other⟩ := Line.ofTrimmed_eq_malformed_iff.mp same
      exact .malformed filled plain other
    · exact .repeated key value ordered (Line.ofTrimmed_eq_assignment_iff.mp same)
        (mem_seen_contextAt_ofTrimmed_iff.mp seen)
    · obtain ⟨ordered, grouped, explicit⟩ := Options.followsDirectives_iff.mp follows
      exact .badGroup argument reason ordered grouped explicit
        (Line.ofTrimmed_eq_directive_iff.mp same) refused
  · intro faulty
    cases cause with
    | malformedLine told =>
      cases faulty with
      | malformed filled plain other =>
        exact .inl ⟨text, Line.ofTrimmed_eq_malformed_iff.mpr ⟨rfl, filled, plain, other⟩, rfl⟩
    | repeatedKey told =>
      cases faulty with
      | repeated key value ordered assigns before =>
        exact .inr (.inl ⟨key, value, Line.ofTrimmed_eq_assignment_iff.mpr assigns, ordered,
          mem_seen_contextAt_ofTrimmed_iff.mpr before, rfl⟩)
    | badGroup told =>
      cases faulty with
      | badGroup argument _ ordered grouped explicit directs refused =>
        exact .inr (.inr ⟨argument, told, Line.ofTrimmed_eq_directive_iff.mpr directs,
          Options.followsDirectives_iff.mpr ⟨ordered, grouped, explicit⟩, refused, rfl⟩)

/-- The diagnostics of a template are the faults of its lines. -/
theorem mem_diagnostics_iff {text : String} {diagnostic : Diagnostic} :
    diagnostic ∈ (read options text).diagnostics ↔
      ∃ index line, (trimmedLines text.toList)[index]? = some line ∧ diagnostic.line = index + 1 ∧
        Faulty options ((trimmedLines text.toList).take index) line diagnostic.severity
          diagnostic.cause := by
  rw [read_diagnostics, List.mem_filterMap, linesOf_eq]
  simp only [List.mem_range, Option.map_eq_some_iff, causeAt?_eq_some_iff, List.length_map]
  constructor
  · rintro ⟨index, _, cause, ⟨line, listed, faulty⟩, rfl⟩
    exact ⟨index, line, listed, rfl, faulty⟩
  · rintro ⟨index, line, listed, placed, faulty⟩
    obtain ⟨_, cause⟩ := diagnostic
    simp only at placed
    subst placed
    exact ⟨index, (List.getElem?_eq_some_iff.mp listed).1, cause, ⟨line, listed, faulty⟩, rfl⟩

/-- No two diagnostics have one line, and they stand in the order of the lines. -/
theorem diagnostics_pairwise_lt (options : Options) (text : String) :
    ((read options text).diagnostics.map (·.line)).Pairwise (· < ·) := by
  rw [read_diagnostics, List.pairwise_map, List.pairwise_filterMap]
  refine List.pairwise_lt_range.imp fun before first found second later => ?_
  obtain ⟨_, _, rfl⟩ := Option.map_eq_some_iff.mp found
  obtain ⟨_, _, rfl⟩ := Option.map_eq_some_iff.mp later
  exact Nat.succ_lt_succ before

/-- Whether a line was not understood. -/
def Cause.isMalformedLine : Cause → Bool
  | malformedLine _ => true
  | _ => false

/-- Whether a key is repeated. -/
def Cause.isRepeatedKey : Cause → Bool
  | repeatedKey _ => true
  | _ => false

/-- Whether a line is neither blank nor a comment. -/
def Line.isSignificant : Line → Bool
  | assignment _ _ | malformed _ => true
  | _ => false

/-- The significant lines are those that are not empty and do not start with a hash. -/
theorem isSignificant_ofTrimmed (text : List Char) :
    (Line.ofTrimmed text).isSignificant = decide (text ≠ [] ∧ text.head? ≠ some '#') := by
  cases text with
  | nil => rfl
  | cons first rest =>
    by_cases hash : first = '#'
    · subst hash
      rw [Line.ofTrimmed_hash]
      split <;> simp [Line.isSignificant]
    · rw [Line.ofTrimmed_of_significant (by simp) (by simpa using hash)]
      split <;> simp [Line.isSignificant, hash]

/-- A count of causes does not depend on the numbers of the lines. -/
theorem countP_numbered (test : Cause → Bool) (found? : Option Cause) :
    (found?.map (Diagnostic.mk number)).toList.countP (fun diagnostic => test diagnostic.cause) =
      found?.toList.countP test := by
  cases found? <;> rfl

/-- A significant line gives an item or is malformed, and no other line is either. -/
theorem length_add_countP_malformed (options : Options) (context : Context) (line : Line) :
    (item? options context line).toList.length +
        (cause? options context line).toList.countP Cause.isMalformedLine =
      if line.isSignificant then 1 else 0 := by
  cases line with
  | blank => rfl
  | directive argument =>
    cases follows : options.followsDirectives <;> cases found : Name.groupPath? argument <;>
      simp [item?, cause?, follows, found, Line.isSignificant, Cause.isMalformedLine]
  | comment => rfl
  | assignment key value =>
    by_cases repeated : options.flat = false ∧ String.ofList key ∈ context.seen <;>
      simp [item?, cause?, repeated, Line.isSignificant, Cause.isMalformedLine]
  | malformed text => simp [item?, cause?, Line.isSignificant, Cause.isMalformedLine]

/-- Each significant line is counted once, as an item or as a malformed line. -/
theorem items_add_malformed (lines : List Line) :
    (readFrom options context number lines).items.length +
        (readFrom options context number lines).diagnostics.countP (·.cause.isMalformedLine) =
      lines.countP Line.isSignificant := by
  induction lines generalizing context number with
  | nil => rfl
  | cons line lines ih =>
    have one := length_add_countP_malformed options context line
    have more := @ih (context.next options line) (number + 1)
    rw [readFrom, List.length_append, List.countP_append, countP_numbered, List.countP_cons]
    omega

/-- The keys of the items are those that the lines assign, in order. -/
theorem map_key_items (lines : List Line) :
    (readFrom options context number lines).items.map (·.key) = lines.filterMap Line.key? := by
  induction lines generalizing context number with
  | nil => rfl
  | cons line lines ih =>
    rw [readFrom, List.map_append, ih, ← List.singleton_append, List.filterMap_append]
    cases line <;> rfl

/-- A repeated key is told for an assignment whose key is seen, unless keys are taken as they
come. -/
theorem countP_repeated (options : Options) (context : Context) (line : Line) :
    (cause? options context line).toList.countP Cause.isRepeatedKey =
      if options.flat = false ∧ ∃ key ∈ context.seen, line.key? = some key then 1 else 0 := by
  cases line with
  | directive argument =>
    cases follows : options.followsDirectives <;> cases found : Name.groupPath? argument <;>
      simp [cause?, follows, found, Line.key?, Cause.isRepeatedKey]
  | assignment key value =>
    by_cases repeated : options.flat = false ∧ String.ofList key ∈ context.seen <;>
      simp [cause?, repeated, Line.key?, Cause.isRepeatedKey]
  | _ => simp [cause?, Line.key?, Cause.isRepeatedKey]

/-- The repeated keys and the different keys make up all assigned keys. -/
theorem repeated_add_card (ordered : options.flat = false) (number : Nat) (lines : List Line) :
    (readFrom options .start number lines).diagnostics.countP (·.cause.isRepeatedKey) +
        (lines.filterMap Line.key?).toFinset.card =
      (lines.filterMap Line.key?).length := by
  induction lines using List.reverseRecOn with
  | nil => rfl
  | append_singleton lines line ih =>
    have seen : (lines.foldl (Context.next options) .start).seen =
        (lines.filterMap Line.key?).reverse := by
      rw [seen_foldl_next, Context.start, List.append_nil]
    have last := countP_repeated options (lines.foldl (Context.next options) .start) line
    rw [readFrom_append, List.countP_append, List.filterMap_append, readFrom_singleton,
      countP_numbered, last]
    cases assigned : line.key? with
    | none => simpa [assigned] using ih
    | some key =>
      have added : [line].filterMap Line.key? = [key] := by simp [assigned]
      simp only [ordered, seen, List.mem_reverse, Option.some.injEq, true_and, exists_eq_right',
        added, List.toFinset_append, List.toFinset_cons, List.toFinset_nil, List.length_append,
        List.length_singleton, insert_empty_eq, Finset.union_singleton]
      by_cases member : key ∈ lines.filterMap Line.key?
      · rw [if_pos member, Finset.insert_eq_of_mem (List.mem_toFinset.mpr member)]
        omega
      · rw [if_neg member, Finset.card_insert_of_notMem (mt List.mem_toFinset.mp member)]
        omega

/-- Keys that are taken as they come are never told to be repeated. -/
theorem countP_repeated_flat (flat : options.flat = true) (text : String) :
    (read options text).diagnostics.countP (·.cause.isRepeatedKey) = 0 := by
  refine List.countP_eq_zero.mpr fun diagnostic member => ?_
  obtain ⟨_, _, _, _, faulty⟩ := mem_diagnostics_iff.mp member
  obtain ⟨_, cause⟩ := diagnostic
  cases cause with
  | repeatedKey key =>
    cases faulty with
    | repeated _ _ ordered => simp [flat] at ordered
  | _ => simp [Cause.isRepeatedKey]

/-- When nothing is told, no key is assigned twice, unless keys are taken as they come. -/
theorem nodup_keys_of_silent (ordered : options.flat = false) {text : String}
    (silent : (read options text).diagnostics = []) :
    ((read options text).items.map (·.key)).Nodup := by
  have counted := repeated_add_card ordered 1 (linesOf text.toList)
  have told : (readFrom options .start 1 (linesOf text.toList)).diagnostics = [] := silent
  rw [told, List.countP_nil, Nat.zero_add] at counted
  rw [read, map_key_items]
  exact Multiset.toFinset_card_eq_card_iff_nodup.mp counted

/-- The diagnostics are exactly the faults of the lines, at most one for a line and in the order of
the lines. The items and the malformed lines make up the lines that are neither empty nor
comments, and unless keys are taken as they come, the repeated keys are those items that the
different keys leave over. -/
theorem diagnostics_exact (options : Options) (text : String) :
    ((read options text).diagnostics.map (·.line)).Pairwise (· < ·) ∧
      (∀ diagnostic, diagnostic ∈ (read options text).diagnostics ↔
        ∃ index line, (trimmedLines text.toList)[index]? = some line ∧
          diagnostic.line = index + 1 ∧
          Faulty options ((trimmedLines text.toList).take index) line diagnostic.severity
            diagnostic.cause) ∧
      (read options text).items.length +
          (read options text).diagnostics.countP (·.cause.isMalformedLine) =
        (trimmedLines text.toList).countP (fun line => line ≠ [] ∧ line.head? ≠ some '#') ∧
      (read options text).diagnostics.countP (·.cause.isRepeatedKey) =
        if options.flat then 0
        else (read options text).items.length -
          ((read options text).items.map (·.key)).toFinset.card := by
  refine ⟨diagnostics_pairwise_lt options text, fun _ => mem_diagnostics_iff, ?_, ?_⟩
  · rw [read, items_add_malformed, linesOf_eq, List.countP_map]
    exact congrArg (List.countP · _) (funext isSignificant_ofTrimmed)
  · cases flat : options.flat with
    | true => exact countP_repeated_flat flat text
    | false =>
      have all := repeated_add_card flat 1 (linesOf text.toList)
      rw [if_neg Bool.false_ne_true, ← List.length_map (·.key), read, map_key_items]
      omega

end EnvTemplate.Template
