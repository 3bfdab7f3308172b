import FeatureFlags.Proofs.Decimal.Rounding
import Mathlib

/-!
The double nearest to a number. Rounding intervals meet in the middle between neighbours, so that a
number rounds to the magnitude whose value is nearest to it.
-/

namespace FeatureFlags
namespace Double
open FloatText (unitsPerOne)

/-- The number that a magnitude stands for, if it is below infinity. -/
def value (m : Nat) : ℚ := units m / unitsPerOne

-- The power stays symbolic: its number of places is a variable.
private theorem exists_places : ∃ places, places = 1074 ∧ unitsPerOne = 2 ^ places :=
  ⟨1074, rfl, by decide +kernel⟩

theorem unitsPerOne_pos : 0 < unitsPerOne := by
  obtain ⟨places, -, same⟩ := exists_places
  rw [same]
  positivity

theorem quarters_eq : quarters = 4 * unitsPerOne := by
  obtain ⟨places, count, same⟩ := exists_places
  rw [quarters, same, show 1076 = places + 2 by omega]
  push_cast
  ring

/-- No magnitude is nearer, and an odd one has no other that is as near. -/
def IsNearest (m : Nat) (r : ℚ) : Prop :=
  ∀ n, n ≠ m → |r - value m| < |r - value n| ∨ m % 2 = 0 ∧ |r - value m| = |r - value n|

theorem value_strictMono : StrictMono value := by
  apply strictMono_nat_of_lt_succ
  intro m
  have grows : (units m : ℚ) < units (m + 1) := by
    rw [units_succ]
    exact_mod_cast Nat.lt_add_of_pos_right (Nat.two_pow_pos _)
  exact div_lt_div_of_pos_right grows (by exact_mod_cast unitsPerOne_pos)

section Middle
variable {a b r : ℚ} (less : a < b)
include less

private theorem nearer_below_iff : |r - a| ≤ |r - b| ↔ 2 * r ≤ a + b := by
  rw [← sq_le_sq]
  constructor
  · intro nearer
    nlinarith
  · intro middle
    nlinarith

private theorem nearer_above_iff : |r - b| ≤ |r - a| ↔ a + b ≤ 2 * r := by
  rw [← sq_le_sq]
  constructor
  · intro nearer
    nlinarith
  · intro middle
    nlinarith

end Middle

/-- Two magnitudes that a number is nearest to are even, but an odd one between them is nearer. -/
private theorem IsNearest.not_lt {m n : Nat} {r : ℚ} (nearest : IsNearest m r)
    (nearest' : IsNearest n r) : ¬ m < n := by
  intro less
  have grows := value_strictMono less
  obtain closer | ⟨even, same⟩ := nearest n (by omega)
  · obtain closer' | ⟨-, same⟩ := nearest' m (by omega) <;> linarith
  · obtain closer' | ⟨even', -⟩ := nearest' m (by omega)
    · linarith
    · have next : m + 1 < n := by omega
      have above := value_strictMono (Nat.lt_succ_self m)
      have between := value_strictMono next
      have middle := (nearer_above_iff grows).mp same.ge
      have near : |r - value m| ≤ |r - value (m + 1)| := by
        obtain closer | ⟨-, same⟩ := nearest (m + 1) (by omega)
        · exact closer.le
        · exact same.le
      have := (nearer_below_iff above).mp near
      linarith

theorem IsNearest.unique {m n : Nat} {r : ℚ} (nearest : IsNearest m r) (nearest' : IsNearest n r) :
    m = n := by
  have := nearest.not_lt nearest'
  have := nearest'.not_lt nearest
  omega

/-- An interval begins in the middle between its magnitude and the one before. -/
theorem lowerEnd_succ_eq_middle (m : Nat) :
    2 * lowerEnd (m + 1) = (value m + value (m + 1)) * quarters := by
  have middle : lowerEnd (m + 1) = 2 * (units m + units (m + 1)) := by
    rw [lowerEnd_succ, units_succ, units]
    ring
  have positive : (unitsPerOne : ℚ) ≠ 0 := by exact_mod_cast unitsPerOne_pos.ne'
  rw [middle, value, value, quarters_eq]
  push_cast
  field_simp
  ring

/-- A number that rounds to a magnitude is below the middle to every magnitude above. Only from an
even magnitude it may reach the middle. -/
private theorem Rounds.below_middle {m n : Nat} {r : ℚ} (rounds : Rounds m r) (less : m < n) :
    2 * r ≤ value m + value n ∧ (m % 2 = 1 → 2 * r < value m + value n) := by
  have next : value (m + 1) ≤ value n := value_strictMono.monotone less
  have middle := lowerEnd_succ_eq_middle m
  have scale := quarters_pos
  unfold Rounds at rounds
  split at rounds
  · refine ⟨?_, fun odd => by omega⟩
    have : 2 * r ≤ value m + value (m + 1) := by nlinarith
    linarith
  · have : 2 * r < value m + value (m + 1) := by nlinarith
    exact ⟨by linarith, fun _ => by linarith⟩

private theorem Rounds.above_middle {m n : Nat} {r : ℚ} (rounds : Rounds m r) (less : n < m) :
    value n + value m ≤ 2 * r ∧ (m % 2 = 1 → value n + value m < 2 * r) := by
  obtain ⟨k, rfl⟩ : ∃ k, m = k + 1 := ⟨m - 1, by omega⟩
  have next : value n ≤ value k := value_strictMono.monotone (by omega)
  have middle := lowerEnd_succ_eq_middle k
  have scale := quarters_pos
  unfold Rounds at rounds
  split at rounds
  · refine ⟨?_, fun odd => by omega⟩
    have : value k + value (k + 1) ≤ 2 * r := by nlinarith
    linarith
  · have : value k + value (k + 1) < 2 * r := by nlinarith
    exact ⟨by linarith, fun _ => by linarith⟩

/-- A number rounds to the magnitude that is nearest to it. -/
theorem Rounds.isNearest {m : Nat} {r : ℚ} (rounds : Rounds m r) : IsNearest m r := by
  intro n other
  have nearer : |r - value m| ≤ |r - value n| ∧
      (m % 2 = 1 → |r - value m| < |r - value n|) := by
    rcases Nat.lt_or_gt_of_ne other with less | less
    · have grows := value_strictMono less
      obtain ⟨above, strict⟩ := rounds.above_middle less
      rw [← not_le, nearer_above_iff grows, nearer_below_iff grows, not_le]
      exact ⟨above, strict⟩
    · have grows := value_strictMono less
      obtain ⟨below, strict⟩ := rounds.below_middle less
      rw [← not_le, nearer_above_iff grows, nearer_below_iff grows, not_le]
      exact ⟨below, strict⟩
  rcases Nat.mod_two_eq_zero_or_one m with even | odd
  · rcases nearer.1.lt_or_eq with closer | same
    · exact .inl closer
    · exact .inr ⟨even, same⟩
  · exact .inl (nearer.2 odd)

/-- The double with this sign that is nearest to a number. It is no infinity. -/
structure IsRounding (negative : Bool) (r : ℚ) (x : Float) : Prop where
  finite : x.isFinite = true
  sign : IsNegative x ↔ negative = true
  nearest : IsNearest (magnitude x) r

end Double
end FeatureFlags
