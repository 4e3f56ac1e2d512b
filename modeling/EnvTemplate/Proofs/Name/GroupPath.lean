import EnvTemplate.Name.GroupPath
import Mathlib.Data.List.Forall2

/-!
# Accepted group paths

A group path is accepted segment by segment, and each segment gives one name. There is always a
segment, so an accepted path is never empty.
-/
namespace EnvTemplate.Name

variable {path segment text : List Char} {segments : List (List Char)} {name : String}
  {names : List String}

/-- A segment is accepted when something is left of it without the blanks at its ends and all of
that may stand in a segment; its name is then the camel case of it with hyphens for its blanks. -/
theorem groupName?_eq_ok_iff :
    groupName? path segment = .ok name ↔
      Text.trim segment ≠ [] ∧ (∀ c ∈ Text.trim segment, isSegmentChar c = true) ∧
        name = String.ofList (camelChars (hyphenate (Text.trim segment))) := by
  by_cases empty : Text.trim segment = []
  · simp [groupName?, empty]
  · cases found : (Text.trim segment).find? fun c => !isSegmentChar c with
    | none =>
      have clean : ∀ c ∈ Text.trim segment, isSegmentChar c = true := by simpa using found
      simp only [groupName?, empty, ↓reduceIte, found, Except.ok.injEq]
      exact ⟨fun same => ⟨empty, clean, same.symm⟩, fun ⟨_, _, same⟩ => same.symm⟩
    | some bad =>
      have spoiled : ¬∀ c ∈ Text.trim segment, isSegmentChar c = true := fun clean => by
        simpa [clean bad (List.mem_of_find?_eq_some found)] using List.find?_some found
      simp [groupName?, empty, found, spoiled]

/-- The names of a path are those of its segments, when every segment has one. -/
theorem groupNames?_eq_ok_iff :
    groupNames? path segments = .ok names ↔
      List.Forall₂ (fun segment name => groupName? path segment = .ok name) segments names := by
  induction segments generalizing names with
  | nil => cases names <;> simp [groupNames?]
  | cons segment segments ih =>
    cases found : groupName? path segment with
    | error cause => cases names <;> simp [groupNames?, found]
    | ok name =>
      cases names with
      | nil => cases later : groupNames? path segments <;> simp [groupNames?, found, later]
      | cons first names =>
        rw [List.forall₂_cons, ← ih]
        cases later : groupNames? path segments <;> simp [groupNames?, found, later]

/-- An accepted path has as many names as segments. -/
theorem length_of_groupPath?_eq_ok (accepted : groupPath? text = .ok names) :
    names.length = (Text.splitOn '.' (Text.trim text)).length :=
  (groupNames?_eq_ok_iff.mp accepted).length_eq.symm

end EnvTemplate.Name
