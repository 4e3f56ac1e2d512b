import EnvTemplate.Proofs.Name.GroupPath
import EnvTemplate.Proofs.Template.Run

/-!
# The group of a line

When directives group the keys, the group that is open before a line can be told from the lines
above it without a run: it is the path of the last directive that has one, unless a blank line
that closes groups stands after it. Bad directives, comments, assignments and malformed lines
between them do not matter.
-/
namespace EnvTemplate.Template

/-- Keys are grouped by directives; blank lines close groups or do not. -/
def Options.directed (blankCloses : Bool) : Options := ⟨true, .explicit, blankCloses, false⟩

/-- A line is a directive with an accepted path. -/
def Line.Opens (line : Line) (path : List String) : Prop :=
  ∃ argument, line = .directive argument ∧ Name.groupPath? argument = .ok path

/-- The line at one index opened the group that is still open before the line at another. -/
structure Opened (blankCloses : Bool) (lines : List Line) (opener index : Nat)
    (path : List String) : Prop where
  /-- The opening line stands above. -/
  above : opener < index
  /-- It is a directive with the path of the group. -/
  opens : ∃ line, lines[opener]? = some line ∧ line.Opens path
  /-- No directive between the two lines has a path. -/
  latest : ∀ between, opener < between → between < index → ∀ line, lines[between]? = some line →
    ∀ other, ¬line.Opens other
  /-- When blank lines close groups, there is none between the two lines. -/
  unbroken : blankCloses = true → ∀ between, opener < between → between < index →
    lines[between]? ≠ some .blank

variable {blankCloses : Bool} {lines : List Line} {line : Line} {context : Context}
  {path : List String} {opener index : Nat}

/-- A group is open after a line when the line opens it, or when it was open before and the line
neither opens a group nor closes it. -/
theorem group_next_iff :
    (context.next (.directed blankCloses) line).group = some path ↔
      line.Opens path ∨ context.group = some path ∧ (∀ other, ¬line.Opens other) ∧
        ¬(blankCloses = true ∧ line = .blank) := by
  cases line with
  | blank => cases blankCloses <;> simp [Context.next, Options.directed, Line.Opens]
  | directive argument =>
    have follows : (Options.directed blankCloses).followsDirectives = true := rfl
    cases found : Name.groupPath? argument <;> simp [Context.next, follows, found, Line.Opens]
  | comment => simp [Context.next, Line.Opens]
  | assignment key value => simp [Context.next, Line.Opens]
  | malformed text => simp [Context.next, Line.Opens]

/-- An opening line stays one for the next line, unless the line in between opens a group itself
or closes the open one. -/
theorem opened_succ_iff (found : lines[index]? = some line) :
    Opened blankCloses lines opener (index + 1) path ↔
      opener = index ∧ line.Opens path ∨
        Opened blankCloses lines opener index path ∧ (∀ other, ¬line.Opens other) ∧
          ¬(blankCloses = true ∧ line = .blank) := by
  constructor
  · intro opened
    obtain ⟨directive, listed, opens⟩ := opened.opens
    rcases Nat.lt_succ_iff_lt_or_eq.mp opened.above with above | rfl
    · refine .inr ⟨⟨above, ⟨directive, listed, opens⟩, fun between after before => ?_,
        fun closes between after before => ?_⟩, ?_, ?_⟩
      · exact opened.latest between after (Nat.lt_succ_of_lt before)
      · exact opened.unbroken closes between after (Nat.lt_succ_of_lt before)
      · exact opened.latest index above (Nat.lt_succ_self _) line found
      · rintro ⟨closes, rfl⟩
        exact opened.unbroken closes index above (Nat.lt_succ_self _) found
    · obtain rfl := Option.some.inj (listed.symm.trans found)
      exact .inl ⟨rfl, opens⟩
  · rintro (⟨rfl, opens⟩ | ⟨opened, spared, kept⟩)
    · exact ⟨Nat.lt_succ_self _, ⟨line, found, opens⟩, fun _ after before => by omega,
        fun _ _ after before => by omega⟩
    · refine ⟨Nat.lt_succ_of_lt opened.above, opened.opens,
        fun between after before held listed => ?_, fun closes between after before => ?_⟩
      · rcases Nat.lt_succ_iff_lt_or_eq.mp before with earlier | rfl
        · exact opened.latest between after earlier held listed
        · exact Option.some.inj (found.symm.trans listed) ▸ spared
      · rcases Nat.lt_succ_iff_lt_or_eq.mp before with earlier | rfl
        · exact opened.unbroken closes between after earlier
        · rintro blank
          exact kept ⟨closes, Option.some.inj (found.symm.trans blank)⟩

/-- The group that is open before a line is the one that a line above it opened last. -/
theorem group_contextAt_iff (bound : index ≤ lines.length) :
    (contextAt (.directed blankCloses) lines index).group = some path ↔
      ∃ opener, Opened blankCloses lines opener index path := by
  induction index with
  | zero =>
    rw [contextAt_zero]
    exact iff_of_false (by simp [Context.start]) fun ⟨_, opened⟩ => Nat.not_lt_zero _ opened.above
  | succ index ih =>
    have found : lines[index]? = some lines[index] := List.getElem?_eq_getElem bound
    rw [contextAt_succ found, group_next_iff, ih (Nat.le_of_succ_le bound)]
    simp only [opened_succ_iff found, exists_or, exists_eq_left, exists_and_right]

end EnvTemplate.Template
