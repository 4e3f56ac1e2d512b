import EnvTemplate.Proofs.Name.Alphabet
import EnvTemplate.Proofs.Text.Trimming
import EnvTemplate.Template.Line

/-!
# The grammar of group directives

A group directive is a hash, blanks, `@group:` in any letter case, more blanks and an argument on
one line. The text behind the colon can be split into blanks and an argument in many ways, since an
argument may begin with blanks. Main statement: a line is a directive when there is such a split, and
its argument is that of the split with the most blanks. So the argument of a trimmed line neither
begins nor ends with a blank.
-/
namespace EnvTemplate.Template

variable {line text word blanks argument : List Char} {c : Char}

/-- The text is blanks and then an argument, which holds something and is on one line. -/
structure IsArgument (text blanks argument : List Char) : Prop where
  /-- Nothing stands before, between and behind them. -/
  whole : text = blanks ++ argument
  /-- In front there are blanks only. -/
  blank : ∀ c ∈ blanks, Text.isBlank c = true
  /-- The argument holds something. -/
  filled : argument ≠ []
  /-- The argument is on one line. -/
  single : '\n' ∉ argument

/-- The line is a hash, blanks, the word of a directive in any letter case and then the text. -/
def Directs (line text : List Char) : Prop :=
  ∃ gap word, line = '#' :: gap ++ word ++ text ∧ (∀ c ∈ gap, Text.isBlank c = true) ∧
    word.map Char.toLower = ['@', 'g', 'r', 'o', 'u', 'p', ':']

/-- What is left of a text without as many blanks as can be spared. -/
def remainder (text : List Char) : List Char :=
  match Text.trimStart text with
  | [] => text.getLast?.toList
  | trimmed => trimmed

/-- The argument is what is left when that holds something and is on one line. -/
theorem argument?_eq (text : List Char) :
    argument? text =
      if remainder text = [] ∨ '\n' ∈ remainder text then none else some (remainder text) := rfl

/-- A text without its leading blanks, when something else follows them. -/
theorem remainder_of_filled (filled : Text.trimStart text ≠ []) :
    remainder text = Text.trimStart text := by
  unfold remainder
  split
  · contradiction
  · rfl

/-- Only blanks stand in front of what is left. -/
theorem exists_blanks_remainder (filled : text ≠ []) :
    remainder text ≠ [] ∧
      ∃ blanks, text = blanks ++ remainder text ∧ ∀ c ∈ blanks, Text.isBlank c = true := by
  by_cases nothing : Text.trimStart text = []
  · obtain ⟨front, last, rfl⟩ := (List.eq_nil_or_concat' _).resolve_left filled
    have left : remainder (front ++ [last]) = [last] := by simp [remainder, nothing]
    have blank := List.dropWhile_eq_nil_iff.mp nothing
    rw [left]
    exact ⟨by simp, front, rfl, fun c held => blank c (List.mem_append_left _ held)⟩
  · rw [remainder_of_filled nothing]
    exact ⟨nothing, text.takeWhile Text.isBlank, List.takeWhile_append_dropWhile.symm,
      List.all_eq_true.mp List.all_takeWhile⟩

/-- What is left ends whatever follows blanks in the text. -/
theorem remainder_suffix (blank : ∀ c ∈ blanks, Text.isBlank c = true) (filled : argument ≠ []) :
    remainder (blanks ++ argument) <:+ argument := by
  have trimmed : Text.trimStart (blanks ++ argument) = Text.trimStart argument :=
    List.dropWhile_append_of_pos blank
  by_cases nothing : Text.trimStart argument = []
  · obtain ⟨front, last, rfl⟩ := (List.eq_nil_or_concat' _).resolve_left filled
    have left : remainder (blanks ++ (front ++ [last])) = [last] := by
      simp [remainder, trimmed, nothing, List.getLast?_append]
    rw [left]
    exact List.suffix_append front [last]
  · rw [remainder_of_filled (trimmed ▸ nothing), trimmed]
    exact List.dropWhile_suffix _

/-- When a text has any argument, what is left of it is one, and ends all of them. -/
theorem IsArgument.of_remainder (split : IsArgument text blanks argument) :
    remainder text <:+ argument ∧ ∃ most, IsArgument text most (remainder text) := by
  have ends : remainder text <:+ argument := by
    rw [split.whole]
    exact remainder_suffix split.blank split.filled
  have something : text ≠ [] := by
    rw [split.whole]
    exact List.append_ne_nil_of_right_ne_nil blanks split.filled
  obtain ⟨filled, most, whole, blank⟩ := exists_blanks_remainder something
  exact ⟨ends, most, whole, blank, filled, fun held => split.single (ends.subset held)⟩

/-- Of two splits the one with the shorter argument has more blanks. -/
theorem IsArgument.length_le {fewer other : List Char} (split : IsArgument text blanks argument)
    (another : IsArgument text fewer other) :
    fewer.length ≤ blanks.length ↔ argument.length ≤ other.length := by
  have lengths := congrArg List.length (split.whole.symm.trans another.whole)
  simp only [List.length_append] at lengths
  omega

/-- A text has an argument when it can be split. -/
theorem exists_argument?_iff :
    (∃ argument, argument? text = some argument) ↔
      ∃ blanks argument, IsArgument text blanks argument := by
  constructor
  · rintro ⟨argument, found⟩
    rw [argument?_eq] at found
    split at found
    · contradiction
    · next valid =>
      obtain ⟨filled, single⟩ := not_or.mp valid
      have something : text ≠ [] := by
        rintro rfl
        exact filled rfl
      obtain ⟨_, blanks, whole, blank⟩ := exists_blanks_remainder something
      exact ⟨blanks, remainder text, whole, blank, filled, single⟩
  · rintro ⟨_, _, split⟩
    obtain ⟨_, _, left⟩ := split.of_remainder
    exact ⟨remainder text, if_neg (not_or.mpr ⟨left.filled, left.single⟩)⟩

/-- The argument is that of the split with the most blanks. -/
theorem argument?_eq_some_iff :
    argument? text = some argument ↔
      ∃ blanks, IsArgument text blanks argument ∧
        ∀ fewer other, IsArgument text fewer other → fewer.length ≤ blanks.length := by
  constructor
  · intro found
    obtain ⟨_, _, split⟩ := exists_argument?_iff.mp ⟨argument, found⟩
    obtain ⟨_, most, left⟩ := split.of_remainder
    rw [argument?_eq, if_neg (not_or.mpr ⟨left.filled, left.single⟩), Option.some.injEq] at found
    refine ⟨most, found ▸ left, fun fewer other another => ?_⟩
    exact (left.length_le another).mpr another.of_remainder.1.length_le
  · rintro ⟨blanks, split, most⟩
    obtain ⟨ends, others, left⟩ := split.of_remainder
    have short : argument.length ≤ (remainder text).length :=
      (split.length_le left).mp (most others (remainder text) left)
    rw [argument?_eq, if_neg (not_or.mpr ⟨left.filled, left.single⟩), ends.eq_of_length_le short]

/-- A text goes on with a word when the word, in any letter case, is in front of what is left. -/
theorem afterWord?_eq_some_iff {rest : List Char} :
    afterWord? word line = some rest ↔
      ∃ spelled, line = spelled ++ rest ∧ spelled.map Char.toLower = word := by
  induction word generalizing line with
  | nil => simp [afterWord?, eq_comm]
  | cons w word ih =>
    cases line with
    | nil => simp [afterWord?]
    | cons c line =>
      rw [afterWord?]
      constructor
      · intro found
        split at found
        · next same =>
          obtain ⟨spelled, rfl, lowered⟩ := ih.mp found
          exact ⟨c :: spelled, rfl, by rw [List.map_cons, same, lowered]⟩
        · contradiction
      · rintro ⟨spelled, split, lowered⟩
        cases spelled with
        | nil => contradiction
        | cons first spelled =>
          obtain ⟨rfl, rest⟩ := List.cons.inj split
          obtain ⟨same, others⟩ := List.cons.inj lowered
          rw [if_pos same]
          exact ih.mpr ⟨spelled, rest, others⟩

/-- Lowering makes no character a blank and no blank another character. -/
theorem isBlank_toLower (c : Char) : Text.isBlank c.toLower = Text.isBlank c := by
  cases upper : c.isUpper with
  | true =>
    have named : Name.isNameChar c = true := Name.isNameChar_of_capital (by rw [upper, Bool.true_or])
    exact Name.of_table (p := fun c => Text.isBlank c.toLower = Text.isBlank c) (by decide) named
  | false =>
    have same : c.toLower = c := dif_neg (of_decide_eq_false upper)
    rw [same]

/-- The word of a directive has no blanks. -/
theorem filled_of_word (spelled : word.map Char.toLower = ['@', 'g', 'r', 'o', 'u', 'p', ':']) :
    ∀ c ∈ word, Text.isBlank c = false := by
  intro c held
  have lowered : c.toLower ∈ ['@', 'g', 'r', 'o', 'u', 'p', ':'] :=
    spelled ▸ List.mem_map_of_mem held
  have filled : ['@', 'g', 'r', 'o', 'u', 'p', ':'].all (!Text.isBlank ·) = true := by decide
  rw [← isBlank_toLower, ← Bool.not_eq_true']
  exact List.all_eq_true.mp filled _ lowered

/-- What is read of a directive is the argument of the text behind its word. -/
theorem directive?_of_directs (directs : Directs line text) : directive? line = argument? text := by
  obtain ⟨gap, word, rfl, blank, spelled⟩ := directs
  have start : Text.trimStart (gap ++ (word ++ text)) = word ++ text := by
    cases word with
    | nil => contradiction
    | cons c word =>
      have filled : ¬Text.isBlank c = true :=
        Bool.eq_false_iff.mp (filled_of_word spelled c List.mem_cons_self)
      rw [Text.trimStart, List.dropWhile_append_of_pos blank, List.cons_append,
        List.dropWhile_cons_of_neg filled]
  have goesOn : afterWord? ['@', 'g', 'r', 'o', 'u', 'p', ':'] (word ++ text) = some text :=
    afterWord?_eq_some_iff.mpr ⟨word, rfl, spelled⟩
  simp only [List.cons_append, List.append_assoc, directive?, start, goesOn]

/-- A line has an argument when it is a directive and the text behind its word has one. -/
theorem directive?_eq_some_iff :
    directive? line = some argument ↔
      ∃ text, Directs line text ∧ argument? text = some argument := by
  constructor
  · intro found
    unfold directive? at found
    split at found
    · next rest =>
      split at found
      · next text goesOn =>
        obtain ⟨word, split, spelled⟩ := afterWord?_eq_some_iff.mp goesOn
        refine ⟨text, ⟨rest.takeWhile Text.isBlank, word, ?_, ?_, spelled⟩, found⟩
        · rw [List.cons_append, List.cons_append, List.append_assoc, ← split, Text.trimStart,
            List.takeWhile_append_dropWhile]
        · exact List.all_eq_true.mp List.all_takeWhile
      · contradiction
    · contradiction
  · rintro ⟨text, directs, found⟩
    rw [directive?_of_directs directs, found]

/-- A line that ends with the word of a directive is trimmed. -/
theorem trim_of_directs_nil (directs : Directs line []) : Text.trim line = line := by
  obtain ⟨gap, word, rfl, _, spelled⟩ := directs
  have named : word ≠ [] := by
    rintro rfl
    contradiction
  obtain ⟨front, last, rfl⟩ := (List.eq_nil_or_concat' word).resolve_left named
  have filled : Text.isBlank last = false := filled_of_word spelled last (by simp)
  refine Text.trim_eq_self_iff.mpr ⟨?_, ?_⟩
  · rintro c ⟨⟩
    decide
  · rw [List.append_nil, ← List.append_assoc, List.getLast?_concat]
    rintro c ⟨⟩
    exact filled

/-- A directive with nothing but blanks behind its word has no argument once it is trimmed. -/
theorem directive?_trim_of_blank (directs : Directs line text)
    (blank : ∀ c ∈ text, Text.isBlank c = true) : directive? (Text.trim line) = none := by
  obtain ⟨gap, word, rfl, gapBlank, spelled⟩ := directs
  have bare : Directs ('#' :: gap ++ word) [] := ⟨gap, word, by simp, gapBlank, spelled⟩
  rw [Text.trim_append _ blank, trim_of_directs_nil bare, directive?_of_directs bare]
  rfl

/-- The argument of a trimmed line neither begins nor ends with a blank. -/
theorem filled_of_trimmed (trimmed : Text.trim line = line)
    (found : directive? line = some argument) :
    (∀ c ∈ argument.head?, Text.isBlank c = false) ∧
      ∀ c ∈ argument.getLast?, Text.isBlank c = false := by
  obtain ⟨text, ⟨gap, word, whole, _⟩, found⟩ := directive?_eq_some_iff.mp found
  obtain ⟨blanks, split, most⟩ := argument?_eq_some_iff.mp found
  have ended : ∀ c ∈ argument.getLast?, Text.isBlank c = false := by
    intro c last
    refine (Text.trim_eq_self_iff.mp trimmed).2 c ?_
    rw [whole, split.whole, List.getLast?_append, List.getLast?_append, Option.mem_def.mp last]
    rfl
  refine ⟨fun c first => Bool.eq_false_iff.mpr fun blank => ?_, ended⟩
  obtain ⟨rest, rfl⟩ := List.head?_eq_some_iff.mp first
  -- A blank in front could be spared, as something that is no blank follows it.
  have followed : rest ≠ [] := by
    rintro rfl
    exact absurd (ended c rfl) (by simp [blank])
  have longer : IsArgument text (blanks ++ [c]) rest :=
    { whole := by rw [split.whole]; simp
      blank := List.forall_mem_append.mpr ⟨split.blank, by simpa using blank⟩
      filled := followed
      single := fun held => split.single (List.mem_cons_of_mem c held) }
  have bound := most _ _ longer
  rw [List.length_append, List.length_singleton] at bound
  omega

/-- A line is a directive when it is a hash, blanks, the word in any letter case, and a text that can
be split into blanks and an argument on one line; its argument is that of the split with the most
blanks. The argument of a trimmed line neither begins nor ends with a blank, and a line with nothing
behind the word, or that has nothing there once it is trimmed, is no directive. -/
theorem directive?_exact (line : List Char) :
    ((∃ argument, directive? line = some argument) ↔
      ∃ text blanks argument, Directs line text ∧ IsArgument text blanks argument) ∧
    (∀ argument, directive? line = some argument ↔
      ∃ text blanks, Directs line text ∧ IsArgument text blanks argument ∧
        ∀ fewer other, IsArgument text fewer other → fewer.length ≤ blanks.length) ∧
    (∀ argument, Text.trim line = line → directive? line = some argument →
      (∀ c ∈ argument.head?, Text.isBlank c = false) ∧
        ∀ c ∈ argument.getLast?, Text.isBlank c = false) ∧
    (Directs line [] → directive? line = none) ∧
    ∀ text, Directs line text → (∀ c ∈ text, Text.isBlank c = true) →
      directive? (Text.trim line) = none := by
  have read : ∀ argument, directive? line = some argument ↔
      ∃ text blanks, Directs line text ∧ IsArgument text blanks argument ∧
        ∀ fewer other, IsArgument text fewer other → fewer.length ≤ blanks.length := by
    intro argument
    simp only [directive?_eq_some_iff, argument?_eq_some_iff, exists_and_left]
  refine ⟨?_, read, fun argument => filled_of_trimmed, fun directs => ?_, fun text directs blank =>
    directive?_trim_of_blank directs blank⟩
  · simp only [directive?_eq_some_iff]
    rw [exists_comm]
    simp only [exists_and_left, exists_argument?_iff]
  · rw [directive?_of_directs directs]
    rfl

/-- Any blanks may stand around the word, and the last one of nothing but blanks is an argument until
the line is trimmed. -/
theorem directive?_exact_blanks :
    let line := "#\u2003@Group: \u00a0a  b".toList
    let bare := "#@GROUP:".toList
    let padded := "#@GROUP:\t\u2003".toList
    Text.trim line = line ∧ directive? line = some "a  b".toList ∧
      (∀ c ∈ "a  b".toList.head?, Text.isBlank c = false) ∧
      (∀ c ∈ "a  b".toList.getLast?, Text.isBlank c = false) ∧
      Directs bare [] ∧ directive? bare = none ∧
      Directs padded ['\t', '\u2003'] ∧ directive? padded = some ['\u2003'] ∧
      directive? (Text.trim padded) = none := by
  intro line bare padded
  have trimmed : Text.trim line = line := by decide
  have found : directive? line = some "a  b".toList := by decide
  have ended : Directs bare [] := ⟨[], "@GROUP:".toList, by decide, nofun, by decide⟩
  have blank : Directs padded ['\t', '\u2003'] := ⟨[], "@GROUP:".toList, by decide, nofun, by decide⟩
  obtain ⟨_, _, filled, _, _⟩ := directive?_exact line
  obtain ⟨first, last⟩ := filled _ trimmed found
  obtain ⟨_, _, _, nothing, _⟩ := directive?_exact bare
  obtain ⟨_, _, _, _, spared⟩ := directive?_exact padded
  exact ⟨trimmed, found, first, last, ended, nothing ended, blank, by decide,
    spared _ blank (List.all_eq_true.mp (by decide))⟩

end EnvTemplate.Template
