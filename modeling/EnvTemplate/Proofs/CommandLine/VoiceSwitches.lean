import EnvTemplate.CommandLine.Arguments
import EnvTemplate.Proofs.Settings.Sections

/-!
# Switches of the voice

The switches that set the voice can be taken out of a command line argument by argument. A line that
is accepted is accepted without them as well, and asks for the same but for the voice. What keeps the
two readings apart is only that a switch settles the value before it: without the switch that value
is settled later, by the next option or at the end of the line.
-/
namespace EnvTemplate.CommandLine

open Settings (bind_eq_ok_iff)

/-- The switches that set the voice. -/
def OptionName.setsVoice : OptionName → Bool
  | verbose => true
  | quiet => true
  | _ => false

/-- Letters without those that set the voice. What follows the letter of an option with a value is
that value. -/
def voicelessLetters : List Char → List Char
  | [] => []
  | letter :: rest =>
    if letter = 'e' ∨ letter = 'o' then letter :: rest
    else if letter = 'v' ∨ letter = 'q' then voicelessLetters rest
    else letter :: voicelessLetters rest

/-- An argument without the switches that set the voice, if anything is left of it. -/
def voicelessArgument? (argument : String) : Option String :=
  match Shape.of argument.toList with
  | .long name none => if name = "verbose" ∨ name = "quiet" then none else some argument
  | .letters letters =>
    match voicelessLetters letters with
    | [] => none
    | kept => some (String.ofList ('-' :: kept))
  | _ => some argument

/-- A command line without the switches that set the voice. -/
def voiceless (arguments : List String) : List String := arguments.filterMap voicelessArgument?

section Options

variable {level : Level} {option : OptionName} {letter : Char} {name : String}

/-- What the letter of an option tells about it. -/
theorem of_letter? (found : level.letter? letter = some option) :
    option.letter? = some letter := by
  have holds := List.find?_some found
  exact of_decide_eq_true holds

/-- What the long name of an option tells about it. -/
theorem of_long? (found : level.long? name = some option) : option.long = name := by
  have holds := List.find?_some found
  exact of_decide_eq_true holds

/-- The letters of the options with a value. -/
theorem hasValue_iff (found : level.letter? letter = some option) :
    option.hasValue = true ↔ letter = 'e' ∨ letter = 'o' := by
  have own := of_letter? found
  cases option <;> cases own <;> decide

/-- The letters of the switches that set the voice. -/
theorem setsVoice_iff_letter (found : level.letter? letter = some option) :
    option.setsVoice = true ↔ letter = 'v' ∨ letter = 'q' := by
  have own := of_letter? found
  cases option <;> cases own <;> decide

/-- The long names of the switches that set the voice. -/
theorem setsVoice_iff_long (found : level.long? name = some option) :
    option.setsVoice = true ↔ name = "verbose" ∨ name = "quiet" := by
  obtain rfl := of_long? found
  cases option <;> decide

/-- The switches that set the voice have no value. -/
theorem hasValue_of_setsVoice (sets : option.setsVoice = true) : option.hasValue = false := by
  cases option <;> first | rfl | cases sets

end Options

namespace Given

variable {given later full reduced : Given} {level : Level} {option : OptionName}
  {said : String} {attached : Option String}

/-- The options without the switches that set the voice. -/
def voiceless (given : Given) : Given :=
  { given with switches := given.switches.filter (· ≠ .quiet), verbosity := 0 }

/-- A value is noted regardless of the voice. -/
theorem note_voiceless (done : given.note option said = .ok later) :
    given.voiceless.note option said = .ok later.voiceless ∧ later.pending = given.pending := by
  unfold note at done ⊢
  split at done
  · cases done
  · next new =>
    split at done
    · next allowed =>
      cases done
      exact ⟨(if_neg new).trans (if_pos allowed), rfl⟩
    · cases done

/-- A value is judged regardless of the voice, and then there is none to judge. -/
theorem settle_voiceless (done : given.settle = .ok later) :
    given.voiceless.settle = .ok later.voiceless ∧ later.pending = .none := by
  obtain ⟨values, switches, verbosity, pending⟩ := given
  cases pending with
  | none =>
    cases done
    exact ⟨rfl, rfl⟩
  | some held =>
    obtain ⟨option, _ | value⟩ := held
    · cases done
    · exact note_voiceless done

/-- What was read with the switches that set the voice, and what is read without them: the same but
for the voice, or a value that is already settled on the one side is to be settled on the other. -/
def Follows (full reduced : Given) : Prop :=
  reduced = full.voiceless ∨ full.pending = .none ∧ reduced.settle = .ok full.voiceless

/-- Settling makes the two sides the same but for the voice. -/
theorem Follows.settle (follows : full.Follows reduced) (done : full.settle = .ok later) :
    reduced.settle = .ok later.voiceless ∧ later.pending = .none := by
  rcases follows with rfl | ⟨settled, reached⟩
  · exact settle_voiceless done
  · rw [Given.settle, settled] at done
    cases done
    exact ⟨reached, settled⟩

/-- A switch that sets the voice is not missed. -/
theorem Follows.skip (follows : full.Follows reduced) (sets : option.setsVoice = true)
    (done : full.switch level option = .ok later) : later.Follows reduced := by
  obtain ⟨settled, before, after⟩ := bind_eq_ok_iff.mp done
  obtain ⟨reached, nothing⟩ := follows.settle before
  right
  cases option with
  | verbose =>
    cases after
    exact ⟨nothing, reached⟩
  | quiet =>
    simp only at after
    split at after
    · cases after
    · cases after
      refine ⟨nothing, reached.trans ?_⟩
      simp [voiceless]
  | _ => cases sets

/-- Any other switch is noted on both sides. -/
theorem Follows.switch (follows : full.Follows reduced) (other : option.setsVoice = false)
    (done : full.switch level option = .ok later) :
    reduced.switch level option = .ok later.voiceless := by
  obtain ⟨settled, before, after⟩ := bind_eq_ok_iff.mp done
  obtain ⟨reached, _⟩ := follows.settle before
  refine bind_eq_ok_iff.mpr ⟨settled.voiceless, reached, ?_⟩
  cases option with
  | verbose => cases other
  | quiet => cases other
  | help => cases after
  | version => cases after
  | _ =>
    simp only at after
    split at after
    · cases after
    · next new =>
      cases after
      simp_all [voiceless]

/-- A value is noted, or expected, on both sides. -/
theorem Follows.value (follows : full.Follows reduced)
    (done : full.value option attached = .ok later) :
    reduced.value option attached = .ok later.voiceless := by
  obtain ⟨settled, before, after⟩ := bind_eq_ok_iff.mp done
  obtain ⟨reached, _⟩ := follows.settle before
  refine bind_eq_ok_iff.mpr ⟨settled.voiceless, reached, ?_⟩
  cases attached with
  | none =>
    cases after
    rfl
  | some value => exact (note_voiceless after).1

/-- The two sides expect a value at the same time. -/
theorem Follows.awaits (follows : full.Follows reduced) : reduced.awaits = full.awaits := by
  rcases follows with rfl | ⟨settled, reached⟩
  · rfl
  · rw [Given.awaits, Given.awaits, settled]
    unfold Given.settle at reached
    split at reached
    · next nothing => rw [nothing]
    · cases reached
    · next held => rw [held]

/-- The value that is expected is given on both sides. -/
theorem Follows.supply (follows : full.Follows reduced) (awaits : full.awaits = true)
    (value : String) : (full.supply value).Follows (reduced.supply value) := by
  rcases follows with rfl | ⟨settled, _⟩
  · exact .inl rfl
  · rw [Given.awaits, settled] at awaits
    cases awaits

/-- A long name that sets the voice is not missed, and any other is read on both sides. -/
theorem Follows.long (follows : full.Follows reduced) {name : String}
    (done : full.long level name attached = .ok later) :
    (attached = .none ∧ (name = "verbose" ∨ name = "quiet") ∧ later.Follows reduced) ∨
      ¬(attached = .none ∧ (name = "verbose" ∨ name = "quiet")) ∧
        reduced.long level name attached = .ok later.voiceless := by
  unfold Given.long at done ⊢
  cases found : level.long? name with
  | none =>
    rw [found] at done
    cases done
  | some option =>
    have voice := setsVoice_iff_long found
    simp only [found] at done ⊢
    split at done
    · next valued =>
      right
      refine ⟨fun ⟨_, named⟩ => ?_, (if_pos valued).trans (follows.value done)⟩
      rw [hasValue_of_setsVoice (voice.mpr named)] at valued
      cases valued
    · next switch =>
      split at done
      · cases done
      · next bare =>
        have alone : attached = .none := by simpa using bare
        cases sets : option.setsVoice with
        | true => exact .inl ⟨alone, voice.mp sets, follows.skip sets done⟩
        | false =>
          have other : ¬(attached = .none ∧ (name = "verbose" ∨ name = "quiet")) := by
            rintro ⟨_, named⟩
            rw [voice.mpr named] at sets
            cases sets
          exact .inr ⟨other, (if_neg switch).trans ((if_neg bare).trans (follows.switch sets done))⟩

/-- Letters are read on both sides, without those that set the voice on one. -/
theorem Follows.letters (follows : full.Follows reduced) {letters : List Char}
    (done : full.letters level letters = .ok later) :
    ∃ result, reduced.letters level (voicelessLetters letters) = .ok result ∧
      later.Follows result := by
  induction letters generalizing full reduced with
  | nil =>
    cases done
    exact ⟨reduced, rfl, follows⟩
  | cons letter rest ih =>
    unfold Given.letters at done
    cases found : level.letter? letter with
    | none =>
      rw [found] at done
      cases done
    | some option =>
      have valued := hasValue_iff found
      have voice := setsVoice_iff_letter found
      simp only [found] at done
      unfold voicelessLetters
      split at done
      · next valuable =>
        rw [if_pos (valued.mp valuable)]
        refine ⟨later.voiceless, ?_, .inl rfl⟩
        simp only [Given.letters, found, valuable, if_true]
        exact follows.value done
      · next switch =>
        rw [if_neg (fun named => switch (valued.mpr named))]
        split at done
        · cases done
        · next between before =>
          cases sets : option.setsVoice with
          | true =>
            rw [if_pos (voice.mp sets)]
            exact ih (follows.skip sets before) done
          | false =>
            have other : ¬(letter = 'v' ∨ letter = 'q') := fun named => by
              rw [voice.mpr named] at sets
              cases sets
            rw [if_neg other]
            obtain ⟨result, reads, kept⟩ := ih (.inl rfl) done
            refine ⟨result, ?_, kept⟩
            simp only [Given.letters, found, switch, follows.switch sets before]
            exact reads

/-- Letters that are read do not start with a hyphen. -/
theorem head?_letters {letters : List Char} (done : given.letters level letters = .ok later) :
    letters.head? ≠ some '-' := by
  cases letters with
  | nil => nofun
  | cons letter rest =>
    rintro hyphen
    cases Option.some.inj hyphen
    have unknown : level.letter? '-' = .none := by cases level <;> decide
    unfold Given.letters at done
    rw [unknown] at done
    cases done

end Given

section Lines

variable {level : Level} {full reduced : Given} {escaped : Bool} {arguments : List String}
  {result : LevelResult} {invocation : Invocation}

/-- Letters after a hyphen have the shape of letters, unless a hyphen leads them. -/
theorem shape_of_letters {kept : List Char} (some : kept ≠ []) (plain : kept.head? ≠ Option.some '-') :
    Shape.of ('-' :: kept) = .letters kept := by
  obtain ⟨letter, rest, rfl⟩ := List.exists_cons_of_ne_nil some
  have other : letter ≠ '-' := fun hyphen => plain (congrArg Option.some hyphen)
  unfold Shape.of
  split
  · next same => simp_all
  · next same => simp_all
  · next same => simp_all
  · next none => exact absurd rfl (none letter rest)

/-- A long argument is read on both sides, or left out on one. -/
theorem readLevel_long (follows : full.Follows reduced) {argument name : String}
    {attached : Option String} {later : Given}
    (shape : Shape.of argument.toList = .long name attached)
    (done : full.long level name attached = .ok later) :
    ∃ kept, later.Follows kept ∧ ∀ rest,
      readLevel level reduced false (voiceless (argument :: rest)) =
        readLevel level kept false (voiceless rest) := by
  rcases follows.long done with ⟨rfl, named, kept⟩ | ⟨other, reached⟩
  · have gone : voicelessArgument? argument = none := by
      simp only [voicelessArgument?, shape, if_pos named]
    refine ⟨reduced, kept, fun rest => ?_⟩
    rw [voiceless, List.filterMap_cons_none gone, voiceless]
  · have whole : voicelessArgument? argument = some argument := by
      unfold voicelessArgument?
      rw [shape]
      cases attached with
      | some value => rfl
      | none => exact if_neg fun named => other ⟨rfl, named⟩
    refine ⟨later.voiceless, .inl rfl, fun rest => ?_⟩
    rw [voiceless, List.filterMap_cons_some whole, readLevel]
    simp only [shape, reached, Bool.false_eq_true, if_false, voiceless]

/-- An argument of letters is read on both sides, with fewer letters or left out on one. -/
theorem readLevel_letters (follows : full.Follows reduced) {argument : String}
    {letters : List Char} {later : Given} (shape : Shape.of argument.toList = .letters letters)
    (done : full.letters level letters = .ok later) :
    ∃ kept, later.Follows kept ∧ ∀ rest,
      readLevel level reduced false (voiceless (argument :: rest)) =
        readLevel level kept false (voiceless rest) := by
  obtain ⟨between, reached, kept⟩ := follows.letters done
  refine ⟨between, kept, fun rest => ?_⟩
  cases left : voicelessLetters letters with
  | nil =>
    have gone : voicelessArgument? argument = none := by
      simp only [voicelessArgument?, shape, left]
    rw [left] at reached
    cases reached
    rw [voiceless, List.filterMap_cons_none gone, voiceless]
  | cons letter others =>
    have fewer : voicelessArgument? argument = some (String.ofList ('-' :: letter :: others)) := by
      simp only [voicelessArgument?, shape, left]
    rw [left] at reached
    have again := shape_of_letters (List.cons_ne_nil letter others) (Given.head?_letters reached)
    rw [voiceless, List.filterMap_cons_some fewer, readLevel]
    simp only [String.toList_ofList, again, reached, Bool.false_eq_true, if_false, voiceless]

/-- An argument that is no option stays as it is. -/
theorem voiceless_cons_of_plain {argument : String} {rest : List String}
    (plain : Shape.of argument.toList = .escape ∨ Shape.of argument.toList = .word) :
    voiceless (argument :: rest) = argument :: voiceless rest := by
  have whole : voicelessArgument? argument = some argument := by
    rcases plain with shape | shape <;> rw [voicelessArgument?, shape]
  exact List.filterMap_cons_some whole

/-- The arguments of a level are read without the switches that set the voice. -/
theorem readLevel_voiceless (follows : full.Follows reduced)
    (done : readLevel level full escaped arguments = .ok result) :
    ∃ kept, readLevel level reduced escaped (voiceless arguments) =
        .ok ⟨kept, result.command.map fun found => (found.1, voiceless found.2)⟩ ∧
      result.given.Follows kept := by
  induction arguments generalizing full reduced escaped with
  | nil =>
    cases done
    exact ⟨reduced, rfl, follows⟩
  | cons argument rest ih =>
    unfold readLevel at done
    cases escaped with
    | true => cases done
    | false =>
      simp only [Bool.false_eq_true, if_false] at done
      cases shape : Shape.of argument.toList with
      | escape =>
        rw [voiceless_cons_of_plain (.inl shape), readLevel]
        simp only [shape, Bool.false_eq_true, if_false] at done ⊢
        exact ih follows done
      | long name attached =>
        simp only [shape] at done
        split at done
        · cases done
        · next later before =>
          obtain ⟨kept, followed, reads⟩ := readLevel_long follows shape before
          rw [reads]
          exact ih followed done
      | letters letters =>
        simp only [shape] at done
        split at done
        · cases done
        · next later before =>
          obtain ⟨kept, followed, reads⟩ := readLevel_letters follows shape before
          rw [reads]
          exact ih followed done
      | word =>
        rw [voiceless_cons_of_plain (.inr shape), readLevel]
        simp only [shape, Bool.false_eq_true, if_false, follows.awaits] at done ⊢
        split at done
        · next awaited =>
          rw [if_pos awaited]
          exact ih (follows.supply awaited argument) done
        · next free =>
          rw [if_neg free]
          split at done
          · cases done
          · next other =>
            rw [if_neg other]
            split at done
            · cases done
              exact ⟨reduced, rfl, follows⟩
            · cases done

/-- An invocation without a voice of its own. -/
def Invocation.voiceless (invocation : Invocation) : Invocation :=
  { invocation with voice := ⟨0, false⟩ }

/-- What the options before and after a command come to without the voice. -/
theorem invocationOf_voiceless (before after : Given) (level : Level) :
    invocationOf before.voiceless level after.voiceless =
      (invocationOf before level after).voiceless := by
  have quiet (given : Given) : given.voiceless.has .quiet = false := by
    simp [Given.has, Given.voiceless]
  have others (given : Given) {option : OptionName} (other : option ≠ .quiet) :
      given.voiceless.has option = given.has option := by
    simp [Given.has, Given.voiceless, other]
  have values (given : Given) : given.voiceless.values = given.values := rfl
  have verbosity (given : Given) : given.voiceless.verbosity = 0 := rfl
  unfold invocationOf Invocation.voiceless
  simp only [quiet, values, verbosity, Bool.or_false, if_true]
  cases level <;> simp [Given.command, Given.templateFlags, others, values]

/-- **Without the voice.** A command line that is accepted is accepted without the switches that set
the voice, and asks for the same but for the voice. -/
theorem ofArguments_voiceless (accepted : Invocation.ofArguments arguments = .ok invocation) :
    Invocation.ofArguments (voiceless arguments) = .ok invocation.voiceless := by
  have none : Given.none.Follows Given.none := .inl rfl
  obtain ⟨top, read, rest⟩ := bind_eq_ok_iff.mp accepted
  obtain ⟨kept, reads, follows⟩ := readLevel_voiceless none read
  refine bind_eq_ok_iff.mpr ⟨_, reads, ?_⟩
  obtain ⟨given, command⟩ := top
  cases command with
  | none =>
    obtain ⟨settled, settles, same⟩ := bind_eq_ok_iff.mp rest
    cases same
    refine bind_eq_ok_iff.mpr ⟨_, (follows.settle settles).1, ?_⟩
    exact congrArg Except.ok (invocationOf_voiceless settled Given.none .top)
  | some found =>
    obtain ⟨level, arguments⟩ := found
    obtain ⟨below, readBelow, rest⟩ := bind_eq_ok_iff.mp rest
    obtain ⟨after, settles, rest⟩ := bind_eq_ok_iff.mp rest
    obtain ⟨before, settlesFirst, same⟩ := bind_eq_ok_iff.mp rest
    cases same
    obtain ⟨keptBelow, readsBelow, followsBelow⟩ := readLevel_voiceless none readBelow
    refine bind_eq_ok_iff.mpr ⟨_, readsBelow, ?_⟩
    refine bind_eq_ok_iff.mpr ⟨_, (followsBelow.settle settles).1, ?_⟩
    refine bind_eq_ok_iff.mpr ⟨_, (follows.settle settlesFirst).1, ?_⟩
    exact congrArg Except.ok (invocationOf_voiceless before after level)

example : voiceless ["-vq", "init", "-fvo", "x", "--quiet"] = ["init", "-fo", "x"] := by decide

end Lines

end EnvTemplate.CommandLine
