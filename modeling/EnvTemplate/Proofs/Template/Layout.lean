import EnvTemplate.Proofs.Template.Line
import EnvTemplate.Proofs.Template.Run
import EnvTemplate.Proofs.Text.Layout

/-!
# Reading whatever the layout

Lines are classified after they are trimmed, and all that is declared or told is taken from the
trimmed lines and their numbers. Line breaks with or without carriage returns and blanks around the
lines therefore change nothing, and neither does a blank line at the end.
-/
namespace EnvTemplate.Template

variable {options : Options} {context : Context} {number : Nat}

/-- A blank line at the end declares nothing, and nothing is wrong with it. -/
theorem readFrom_append_blank (lines : List Line) :
    readFrom options context number (lines ++ [.blank]) =
      readFrom options context number lines := by
  rw [readFrom_append]
  simp [readFrom, item?, cause?]

/-- Trimmed lines are all that is read of a template, and not a blank line at the end of them. -/
theorem read_of_trimmedLines {text other : String} {extra : List (List Char)}
    (blank : extra = [] ∨ extra = [[]])
    (same : trimmedLines other.toList = trimmedLines text.toList ++ extra) :
    read options other = read options text := by
  rw [read, read, linesOf_eq, linesOf_eq, same, List.map_append]
  rcases blank with rfl | rfl
  · rw [List.map_nil, List.append_nil]
  · exact readFrom_append_blank _

/-- A template that is laid out anew is read as before: the same items, and the same diagnostics for
the same lines. In particular all line feeds can be given a carriage return and all lines any
padding. -/
theorem read_relaid (options : Options) (text : String) :
    (∀ other : String, Text.Relaid text.toList other.toList →
      read options other = read options text) ∧
    (∀ before after : Nat → List Char, (∀ index, Text.IsPadding (before index)) →
      (∀ index, Text.IsPadding (after index)) →
      read options (String.ofList (Text.respaced before after text.toList)) =
        read options text) := by
  have anew : ∀ other : String, Text.Relaid text.toList other.toList →
      read options other = read options text := by
    intro other relaid
    obtain ⟨extra, blank, same⟩ := relaid.map_trim_lines
    exact read_of_trimmedLines blank same
  refine ⟨anew, fun before after front back => anew _ ?_⟩
  rw [String.toList_ofList]
  exact Text.relaid_respaced front back text.toList

/-- A carriage return is dropped and others are added, and blanks are put around lines; the group
stays open, and the repeated key is told for the same line. -/
theorem read_relaid_padded :
    let text := "# @group: db\nDB_URL=a\r\nDB_URL=b"
    let other := "\t# @group: db \r\nDB_URL=a\u00a0\n\u2003DB_URL=b\r"
    let before := fun index => List.replicate index '\t'
    let after := fun _ : Nat => ['\u00a0', '\r']
    Text.Relaid text.toList other.toList ∧
      read .standard other = read .standard text ∧
      (∀ index, Text.IsPadding (before index)) ∧ (∀ index, Text.IsPadding (after index)) ∧
      read .standard (String.ofList (Text.respaced before after text.toList)) =
        read .standard text ∧
      (read .standard text).items.map (·.group) = [some ["db"], some ["db"]] ∧
      (read .standard text).diagnostics = [⟨3, .repeatedKey "DB_URL"⟩] := by
  intro text other before after
  have lines : text.toList = "# @group: db".toList ++ ['\n'] ++
      ("DB_URL=a".toList ++ ['\r', '\n'] ++ "DB_URL=b".toList) := by decide
  have newLines : other.toList = ['\t'] ++ "# @group: db".toList ++ [' '] ++ ['\r', '\n'] ++
      ([] ++ "DB_URL=a".toList ++ ['\u00a0'] ++ ['\n'] ++
        (['\u2003'] ++ "DB_URL=b".toList ++ ['\r'])) := by decide
  have relaid : Text.Relaid text.toList other.toList := by
    rw [lines, newLines]
    refine .line (by decide) (by decide) (by decide) (.inl rfl) (.inr rfl) ?_
    refine .line (by decide) (by decide) (by decide) (.inr rfl) (.inl rfl) ?_
    exact .last (by decide) (by decide) (by decide)
  have front : ∀ index, Text.IsPadding (before index) := by
    intro index c member
    rw [(List.mem_replicate.mp member).2]
    decide
  have back : ∀ index, Text.IsPadding (after index) := fun _ => by decide
  obtain ⟨anew, padded⟩ := read_relaid .standard text
  exact ⟨relaid, anew other relaid, front, back, padded before after front back, by decide,
    by decide⟩

end EnvTemplate.Template
