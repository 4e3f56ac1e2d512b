import EnvTemplate.Proofs.Schema.Literal
import EnvTemplate.Proofs.Template.Alphabet
import EnvTemplate.Proofs.Template.Choices
import EnvTemplate.Schema.Inference

/-!
# The texts that an item quotes

The chain of an item quotes its choices, or its trimmed sample when that is the default of a string.
The choices of a template are words, and a sample is on one line of it, so that none of these texts
has a line feed; a carriage return can only be inside a sample, which then is quoted.
-/
namespace EnvTemplate.Template

variable {options : Options} {item : Item} {sample : List Char} {words : List String}

/-- Choices hold no other characters than those of choices, and a sample that lists some holds bars
besides. -/
theorem isChoiceChar_of_choices? (listed : choices? sample = some words) :
    (∀ word ∈ words, ∀ c ∈ word.toList, isChoiceChar c = true) ∧
      ∀ c ∈ Text.trim sample, isChoiceChar c = true ∨ c = '|' := by
  have lists := choices?_eq_some_iff.mp listed
  refine ⟨fun word member => (lists.each word member).2, ?_⟩
  rw [joined_iff.mp lists.joined]
  exact isChoiceChar_or_bar (List.forall_mem_map.mpr lists.each)

/-- The choices of an item are those of its sample, which is on one line. -/
theorem choices_of_mem_items {text : String} (member : item ∈ (read options text).items) :
    item.choices = choices? item.sample.toList ∧ '\n' ∉ item.sample.toList := by
  obtain ⟨index, line, key, value, assigned, rfl⟩ := exists_assignment_of_mem_items member
  have single := (assignment?_eq_some_iff.mp assigned).2.2
  simpa [declare] using single

end EnvTemplate.Template

namespace EnvTemplate.Schema

open Template (Item Options read)

variable {item : Item} {options : Options} {text : String}

/-- The texts that the chain of an item quotes: its choices, or its trimmed sample when that is the
default of a string. -/
def quotedTexts (item : Item) : List String :=
  match item.choices with
  | some (first :: others) => first :: others
  | _ =>
    match Inference.ofSample item.sample with
    | .text _ => [String.ofList (Text.trim item.sample.toList)]
    | _ => []

/-- The default of a string is its trimmed sample. -/
theorem eq_trim_of_ofSample {sample value : String}
    (inferred : Inference.ofSample sample = .text value) :
    value = String.ofList (Text.trim sample.toList) := by
  unfold Inference.ofSample Inference.ofTrimmed at inferred
  split at inferred
  · contradiction
  split at inferred
  · contradiction
  split at inferred
  · contradiction
  split at inferred
  · contradiction
  · exact (Inference.text.inj inferred).symm

/-- A sample with a carriage return inside is the default of a string. -/
theorem ofSample_of_return {sample : String} (inside : '\r' ∈ Text.trim sample.toList) :
    ∃ value, Inference.ofSample sample = .text value := by
  have lowered : '\r' ∈ (Text.trim sample.toList).map Char.toLower :=
    List.mem_map.mpr ⟨'\r', inside, rfl⟩
  have filled : Text.trim sample.toList ≠ [] := List.ne_nil_of_mem inside
  have other (word : List Char) (absent : '\r' ∉ word) :
      (Text.trim sample.toList).map Char.toLower ≠ word := fun same => absent (same ▸ lowered)
  rw [Inference.ofSample, Inference.ofTrimmed, if_neg filled,
    if_neg (other _ (by decide)), if_neg (other _ (by decide))]
  cases found : NumberSample.ofText? (Text.trim sample.toList) with
  | none => exact ⟨_, rfl⟩
  | some parts =>
    exact absurd (NumberSample.isNumeric_of_ofText? found _ inside) (by decide)

/-- An item quotes its choices or its trimmed sample. -/
theorem mem_quotedTexts {value : String} (quotes : value ∈ quotedTexts item) :
    (∃ words, item.choices = some words ∧ value ∈ words) ∨
      value = String.ofList (Text.trim item.sample.toList) := by
  unfold quotedTexts at quotes
  split at quotes
  · next listed => exact .inl ⟨_, listed, quotes⟩
  · split at quotes
    · exact .inr (List.mem_singleton.mp quotes)
    · contradiction

/-- An item without choices quotes a sample with a carriage return inside. -/
theorem quotedTexts_of_return (single : item.choices = none)
    (inside : '\r' ∈ Text.trim item.sample.toList) :
    quotedTexts item = [String.ofList (Text.trim item.sample.toList)] := by
  obtain ⟨value, inferred⟩ := ofSample_of_return inside
  simp only [quotedTexts, single, inferred]

/-- The characters of a text that an item of a template quotes are those of choices, or are in the
trimmed sample. -/
theorem mem_of_mem_quotedTexts (member : item ∈ (read options text).items) {value : String}
    (quotes : value ∈ quotedTexts item) {c : Char} (held : c ∈ value.toList) :
    Template.isChoiceChar c = true ∨ c ∈ Text.trim item.sample.toList := by
  rcases mem_quotedTexts quotes with ⟨words, listed, word⟩ | rfl
  · have choices := (Template.choices_of_mem_items member).1
    exact .inl ((Template.isChoiceChar_of_choices? (choices.symm.trans listed)).1 value word c held)
  · exact .inr (by simpa using held)

/-- The texts that an item of a template quotes are on one line of it. -/
theorem lineFeed_notMem_of_quotes (member : item ∈ (read options text).items) {value : String}
    (quotes : value ∈ quotedTexts item) : '\n' ∉ value.toList := by
  intro held
  rcases mem_of_mem_quotedTexts member quotes held with choice | inside
  · exact absurd choice (by decide)
  · exact (Template.choices_of_mem_items member).2 (Text.mem_of_mem_trim inside)

/-- The texts that an item of a template quotes have no carriage returns exactly when its sample has
none inside. -/
theorem return_notMem_quotedTexts_iff (member : item ∈ (read options text).items) :
    (∀ value ∈ quotedTexts item, '\r' ∉ value.toList) ↔
      '\r' ∉ Text.trim item.sample.toList := by
  constructor
  · intro absent inside
    have unlisted : item.choices = none := by
      have choices := (Template.choices_of_mem_items member).1
      cases listed : Template.choices? item.sample.toList with
      | none => rw [choices, listed]
      | some words =>
        have sample := (Template.isChoiceChar_of_choices? listed).2 '\r' inside
        exact absurd sample (by decide)
    refine absent (String.ofList (Text.trim item.sample.toList)) ?_ (by simpa using inside)
    rw [quotedTexts_of_return unlisted inside]
    exact List.mem_singleton_self _
  · intro absent value quotes held
    rcases mem_of_mem_quotedTexts member quotes held with choice | inside
    · exact absurd choice (by decide)
    · exact absent inside

end EnvTemplate.Schema
