import FeatureFlags.Proofs.Decimal.Doubles

/-!
Which numbers round to a double. In quarters of the smallest double all ends of rounding intervals
are whole, and the interval of a magnitude ends where that of the next one begins. The end that two
of them share belongs to the even one only, so no number rounds to two magnitudes.
-/

namespace FeatureFlags
namespace Double

def fraction (m : Nat) : Nat := m % 2 ^ 52

def field (m : Nat) : Nat := m / 2 ^ 52

def significand (m : Nat) : Nat := if field m = 0 then fraction m else 2 ^ 52 + fraction m

/-- The power of two of the last place, counted from the smallest double. -/
def shift (m : Nat) : Nat := max (field m) 1 - 1

/-- Quarters of the last place down to the end of the interval. -/
def reach (m : Nat) : Nat := if fraction m = 0 ∧ field m > 1 then 1 else 2

/-- The lower end of the interval of a magnitude. -/
def lowerEnd (m : Nat) : Nat := (4 * significand m - reach m) * 2 ^ shift m

/-- How many quarters of the smallest double make up one. -/
def quarters : ℚ := 2 ^ 1076

theorem quarters_pos : 0 < quarters := by
  unfold quarters
  positivity

/-- The numbers that round to a magnitude. The ends belong to it if it is even. -/
def Rounds (m : Nat) (r : ℚ) : Prop :=
  if m % 2 = 0 then lowerEnd m ≤ r * quarters ∧ r * quarters ≤ lowerEnd (m + 1)
  else lowerEnd m < r * quarters ∧ r * quarters < lowerEnd (m + 1)

theorem fraction_lt (m : Nat) : fraction m < 2 ^ 52 := Nat.mod_lt m (Nat.two_pow_pos 52)

theorem significand_mod_two (m : Nat) : significand m % 2 = m % 2 := by
  simp only [significand, fraction]
  split <;> omega

/-- The next magnitude has one more in the same place, or starts a new significand with a place of
twice the size. -/
theorem significand_succ (m : Nat) :
    (shift (m + 1) = shift m ∧ significand (m + 1) = significand m + 1 ∧ reach (m + 1) = 2) ∨
      (shift (m + 1) = shift m + 1 ∧ significand m + 1 = 2 ^ 53 ∧ significand (m + 1) = 2 ^ 52 ∧
        reach (m + 1) = 1) := by
  by_cases carry : fraction (m + 1) = 0
  · have full : fraction m = 2 ^ 52 - 1 := by
      simp only [fraction] at *
      omega
    have carried : field (m + 1) = field m + 1 := by
      simp only [field, fraction] at *
      omega
    have anew : significand (m + 1) = 2 ^ 52 := by
      rw [significand, carried, carry, if_neg (Nat.succ_ne_zero _), Nat.add_zero]
    by_cases first : field m = 0
    · -- The first power of two that is reached has the place of the smallest double, too.
      refine .inl ⟨by simp only [shift, carried, first]; omega, ?_, if_neg fun start => by omega⟩
      rw [anew, significand, if_pos first, full]
      norm_num
    · refine .inr ⟨by simp only [shift, carried]; omega, ?_, anew, if_pos ⟨carry, by omega⟩⟩
      rw [significand, if_neg first, full]
      norm_num
  · have counted : fraction (m + 1) = fraction m + 1 := by
      simp only [fraction] at *
      omega
    have same : field (m + 1) = field m := by
      simp only [field, fraction] at *
      omega
    refine .inl ⟨by rw [shift, shift, same], ?_, if_neg fun start => by omega⟩
    simp only [significand, counted, same]
    split <;> omega

/-- The interval of a magnitude ends where that of the next one begins. -/
theorem lowerEnd_succ (m : Nat) : lowerEnd (m + 1) = (4 * significand m + 2) * 2 ^ shift m := by
  obtain ⟨place, next, reached⟩ | ⟨place, full, anew, reached⟩ := significand_succ m
  · rw [lowerEnd, place, next, reached]
    congr 1
  · have ends : 4 * significand m + 2 = (4 * 2 ^ 52 - 1) * 2 := by omega
    rw [lowerEnd, place, anew, reached, ends, Nat.mul_assoc, ← Nat.pow_succ']

/-- A magnitude in units of the smallest double. -/
def units (m : Nat) : Nat := significand m * 2 ^ shift m

theorem units_succ (m : Nat) : units (m + 1) = units m + 2 ^ shift m := by
  obtain ⟨place, next, -⟩ | ⟨place, full, anew, -⟩ := significand_succ m
  · rw [units, units, place, next, Nat.add_mul, Nat.one_mul]
  · rw [units, units, place, anew, ← Nat.succ_mul, Nat.succ_eq_add_one, full, Nat.pow_succ]
    omega

theorem lowerEnd_strictMono : StrictMono lowerEnd := by
  apply strictMono_nat_of_lt_succ
  intro m
  have narrower : 4 * significand m - reach m < 4 * significand m + 2 := by omega
  rw [lowerEnd_succ, lowerEnd]
  exact Nat.mul_lt_mul_of_pos_right narrower (Nat.two_pow_pos _)

theorem rounds_zero : Rounds 0 0 := by
  simp [Rounds, lowerEnd, significand, fraction, field]

theorem Rounds.bounds {m : Nat} {r : ℚ} (rounds : Rounds m r) :
    lowerEnd m ≤ r * quarters ∧ r * quarters ≤ lowerEnd (m + 1) := by
  unfold Rounds at rounds
  split at rounds
  · exact rounds
  · exact ⟨rounds.1.le, rounds.2.le⟩

private theorem Rounds.not_lt {m n : Nat} {r : ℚ} (rounds : Rounds m r) (rounds' : Rounds n r) :
    ¬ m < n := by
  intro less
  have upper := rounds.bounds.2
  have lower := rounds'.bounds.1
  -- Only the end of the first interval can be in both, and it has to begin the second.
  have meets : lowerEnd n ≤ lowerEnd (m + 1) := by exact_mod_cast lower.trans upper
  have next : n ≤ m + 1 := lowerEnd_strictMono.le_iff_le.mp meets
  obtain rfl : n = m + 1 := by omega
  unfold Rounds at rounds rounds'
  by_cases even : m % 2 = 0
  · rw [if_neg (by omega)] at rounds'
    linarith [rounds'.1]
  · rw [if_neg even] at rounds
    linarith [rounds.2]

/-- No number rounds to two magnitudes. -/
theorem Rounds.unique {m n : Nat} {r : ℚ} (rounds : Rounds m r) (rounds' : Rounds n r) : m = n := by
  have := rounds.not_lt rounds'
  have := rounds'.not_lt rounds
  omega

end Double
end FeatureFlags
