import EnvTemplate.Decimal.Shortest
import EnvTemplate.Proofs.Decimal.Rounding

/-!
# The shortest decimal of a magnitude

On a decimal grid a magnitude lies between two neighbours, and when any point of the grid reads back
to the magnitude, one of these neighbours does. So a grid is passed over only when none of its points
reads back. The decimal that is chosen reads back, and it has no zero at the end of its fraction,
since without that zero it would be a point of a coarser grid.
-/
namespace EnvTemplate

/-- A power of five times a power of two is a power of ten. -/
theorem mul_five_mul_twoTo (units exponent : Nat) :
    units * Nat.pow 5 exponent * twoTo exponent = units * tenTo exponent :=
  calc units * Nat.pow 5 exponent * twoTo exponent
      = units * (Nat.pow 5 exponent * twoTo exponent) := Nat.mul_assoc _ _ _
    _ = units * tenTo exponent := congrArg (units * ·) (Nat.mul_pow 5 2 exponent).symm

/-- What a search through the first numbers finds, it finds at a number before which there is
nothing to be found. -/
theorem exists_of_findSome?_range {α : Type} {look : Nat → Option α} {count : Nat} {found : α}
    (search : (List.range count).findSome? look = some found) :
    ∃ place < count, look place = some found ∧ ∀ before < place, look before = none := by
  induction count with
  | zero => contradiction
  | succ count ih =>
    rw [List.range_succ, List.findSome?_append] at search
    cases earlier : (List.range count).findSome? look with
    | some first =>
      rw [earlier, Option.some_or] at search
      obtain ⟨place, low, here, nothing⟩ := ih (earlier.trans search)
      exact ⟨place, Nat.lt_succ_of_lt low, here, nothing⟩
    | none =>
      rw [earlier, Option.none_or, List.findSome?_singleton] at search
      have nothing := List.findSome?_eq_none_iff.mp earlier
      exact ⟨count, Nat.lt_succ_self count, search, fun before low =>
        nothing before (List.mem_range.mpr low)⟩

namespace Binary64

variable {value : Binary64} {step found : Decimal} {count units places : Nat}

/-- What a decimal fraction reads as does not depend on a zero at its end. -/
theorem ofDecimal?_of_zero (reads : ofDecimal? ⟨units * 10, places + 1⟩ = some value) :
    ofDecimal? ⟨units, places⟩ = some value := by
  refine nearest?_of_ratio (tenTo_pos (places + 1)) (tenTo_pos places) reads ?_
  show units * 10 * tenTo places = units * tenTo (places + 1)
  rw [tenTo_succ]
  ac_rfl

/-- The exact decimal fraction of a magnitude reads back. -/
theorem ofDecimal?_exact (finite : value.IsFinite) : ofDecimal? value.exact = some value := by
  refine nearest?_units finite (tenTo_pos 1074) ?_
  simp only [exact, unitsPerOne, mul_five_mul_twoTo]

/-- What is found on a grid reads back and is a point of the grid. -/
theorem onGrid?_sound (hit : value.onGrid? step = some found) :
    ofDecimal? found = some value ∧ found.places = step.places := by
  unfold onGrid? at hit
  simp only at hit
  split at hit
  · next low =>
    cases hit
    exact ⟨low.1, rfl⟩
  · split at hit
    · next high =>
      cases hit
      exact ⟨high, rfl⟩
    · cases hit

/-- A grid with a point that reads back is not passed over. -/
theorem onGrid?_ne_none (finite : value.IsFinite) (wide : 0 < step.units)
    (reads : ofDecimal? ⟨count * step.units, step.places⟩ = some value) :
    value.onGrid? step ≠ none := by
  -- The neighbours are compared by how often the step fits into the magnitude.
  have stride : 0 < step.units * unitsPerOne := Nat.mul_pos wide (twoTo_pos 1074)
  have itself : nearest? value.units unitsPerOne = some value :=
    nearest?_units finite (twoTo_pos 1074) rfl
  generalize floor : value.units * tenTo step.places / (step.units * unitsPerOne) = below
  have neighbour : ofDecimal? ⟨below * step.units, step.places⟩ = some value ∨
      ofDecimal? ⟨(below + 1) * step.units, step.places⟩ = some value := by
    rcases Nat.lt_or_ge below count with above | before
    · -- The point lies above the magnitude, and the upper neighbour between the two.
      right
      refine nearest?_between (twoTo_pos 1074) (tenTo_pos step.places) (tenTo_pos step.places)
        itself reads ?_ ?_
      · have passed : value.units * tenTo step.places <
            (below + 1) * (step.units * unitsPerOne) := by
          rw [← floor, ← Nat.div_lt_iff_lt_mul stride]
          exact Nat.lt_succ_self _
        rw [Nat.mul_assoc]
        exact Nat.le_of_lt passed
      · exact Nat.mul_le_mul_right _ (Nat.mul_le_mul_right _ above)
    · left
      refine nearest?_between (tenTo_pos step.places) (twoTo_pos 1074) (tenTo_pos step.places)
        reads itself ?_ ?_
      · exact Nat.mul_le_mul_right _ (Nat.mul_le_mul_right _ before)
      · rw [← floor, Nat.mul_assoc]
        exact Nat.div_mul_le_self _ _
  unfold onGrid?
  simp only [floor]
  split
  · nofun
  · split
    · nofun
    · next other high =>
      rcases neighbour with low | upper
      · exact absurd ⟨low, .inr high⟩ other
      · exact absurd upper high

/-- The ways in which the shortest decimal is found: among whole numbers, on a grid of fractions
where the grid with one place less has no point that reads back, or as the exact decimal. -/
theorem shortest_cases (value : Binary64) :
    (∃ step, step.places = 0 ∧ value.onGrid? step = some value.shortest) ∨
      (∃ places, value.onGrid? ⟨1, places⟩ = none ∧
        value.onGrid? ⟨1, places + 1⟩ = some value.shortest) ∨
      (value.onGrid? ⟨1, 1073⟩ = none ∧ value.shortest = value.exact) := by
  unfold shortest gridSteps
  simp only [List.findSome?_append, List.findSome?_map, Function.comp_def]
  generalize (Nat.toDigits 10 (value.units / unitsPerOne)).length = most
  cases whole : (List.range (most + 1)).reverse.findSome? fun exponent =>
      value.onGrid? ⟨tenTo exponent, 0⟩ with
  | some found =>
    obtain ⟨exponent, _, hit⟩ := List.exists_of_findSome?_eq_some whole
    exact .inl ⟨⟨tenTo exponent, 0⟩, rfl, hit⟩
  | none =>
    have ones : value.onGrid? ⟨1, 0⟩ = none :=
      List.findSome?_eq_none_iff.mp whole 0
        (List.mem_reverse.mpr (List.mem_range.mpr (Nat.succ_pos most)))
    rw [Option.none_or]
    right
    cases fraction : (List.range 1073).findSome? fun places =>
        value.onGrid? ⟨1, places + 1⟩ with
    | some found =>
      obtain ⟨place, _, hit, nothing⟩ := exists_of_findSome?_range fraction
      refine .inl ⟨place, ?_, hit⟩
      cases place with
      | zero => exact ones
      | succ before => exact nothing before (Nat.lt_succ_self before)
    | none =>
      exact .inr ⟨List.findSome?_eq_none_iff.mp fraction 1072 (List.mem_range.mpr (by decide)), rfl⟩

/-- The shortest decimal reads back. -/
theorem ofDecimal?_shortest (finite : value.IsFinite) :
    ofDecimal? value.shortest = some value := by
  rcases shortest_cases value with ⟨step, _, hit⟩ | ⟨places, _, hit⟩ | ⟨_, same⟩
  · exact (onGrid?_sound hit).1
  · exact (onGrid?_sound hit).1
  · rw [same]
    exact ofDecimal?_exact finite

/-- The fraction of the shortest decimal does not end with a zero. -/
theorem shortest_trimmed (finite : value.IsFinite) (fraction : value.shortest.places ≠ 0) :
    value.shortest.units % 10 ≠ 0 := by
  intro zero
  -- Without the zero there would have been a hit one place earlier.
  have coarser {places : Nat} (last : value.shortest.places = places + 1) :
      value.onGrid? ⟨1, places⟩ ≠ none := by
    have reads := ofDecimal?_shortest finite
    rw [show value.shortest = ⟨value.shortest.units / 10 * 10, places + 1⟩ by
      rw [Nat.div_mul_cancel (Nat.dvd_of_mod_eq_zero zero), ← last]] at reads
    have shorter := ofDecimal?_of_zero reads
    rw [← Nat.mul_one (value.shortest.units / 10)] at shorter
    exact onGrid?_ne_none finite Nat.one_pos shorter
  rcases shortest_cases value with ⟨step, whole, hit⟩ | ⟨places, nothing, hit⟩ | ⟨nothing, same⟩
  · exact fraction ((onGrid?_sound hit).2.trans whole)
  · exact coarser (onGrid?_sound hit).2 nothing
  · exact coarser (congrArg Decimal.places same) nothing

end Binary64

end EnvTemplate
