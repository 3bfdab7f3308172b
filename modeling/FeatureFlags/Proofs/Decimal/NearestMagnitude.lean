import FeatureFlags.Proofs.Decimal.Nearest
import Mathlib

/-!
How the nearest double is found. A fraction is rounded to the last place that its significand has,
in whole numbers, and far outside the range of doubles nothing is computed.
-/

namespace FeatureFlags
namespace FloatText
open Double

/-- A whole number that no other one is nearer to a fraction than. An odd one is not as near as the
middle. -/
def RoundsFraction (q numerator denominator : Nat) : Prop :=
  if q % 2 = 0 then
    2 * (q * denominator) ≤ 2 * numerator + denominator ∧
      2 * numerator ≤ 2 * (q * denominator) + denominator
  else
    2 * (q * denominator) < 2 * numerator + denominator ∧
      2 * numerator < 2 * (q * denominator) + denominator

theorem roundsFraction_roundToEven (numerator : Nat) {denominator : Nat}
    (positive : 0 < denominator) :
    RoundsFraction (roundToEven numerator denominator) numerator denominator := by
  have division := Nat.mod_add_div' numerator denominator
  have below := Nat.mod_lt numerator positive
  rw [roundToEven]
  cases order : compare (2 * (numerator % denominator)) denominator with
  | lt =>
    rw [Nat.compare_eq_lt] at order
    simp only [RoundsFraction]
    split <;> omega
  | eq =>
    rw [Nat.compare_eq_eq] at order
    rcases Nat.mod_two_eq_zero_or_one (numerator / denominator) with even | odd
    · simp only [RoundsFraction, even, Nat.add_zero, if_pos]
      omega
    · have next : (numerator / denominator + 1) % 2 = 0 := by omega
      simp only [RoundsFraction, odd, next, if_pos, Nat.add_mul, Nat.one_mul]
      omega
  | gt =>
    rw [Nat.compare_eq_gt] at order
    simp only [RoundsFraction, Nat.add_mul, Nat.one_mul]
    split <;> omega

/-- Rounding of a fraction in whole numbers: its ends in quarters of the smallest double. -/
theorem rounds_div_iff {m numerator denominator : Nat} (positive : 0 < denominator) :
    Rounds m (numerator / denominator) ↔
      if m % 2 = 0 then
        lowerEnd m * denominator ≤ 4 * (numerator * unitsPerOne) ∧
          4 * (numerator * unitsPerOne) ≤ lowerEnd (m + 1) * denominator
      else
        lowerEnd m * denominator < 4 * (numerator * unitsPerOne) ∧
          4 * (numerator * unitsPerOne) < lowerEnd (m + 1) * denominator := by
  have positive' : (0 : ℚ) < denominator := by exact_mod_cast positive
  have quotient : (numerator : ℚ) / denominator * quarters =
      (4 * (numerator * unitsPerOne) : Nat) / denominator := by
    rw [quarters_eq]
    push_cast
    ring
  simp only [Rounds, quotient, le_div_iff₀ positive', div_le_iff₀ positive', lt_div_iff₀ positive',
    div_lt_iff₀ positive']
  norm_cast

/-- A significand with its place, where each power of two begins with the next multiple of
`2 ^ 52`. -/
theorem significand_of_place {place q : Nat} (small : q < 2 ^ 53)
    (full : place = 0 ∨ 2 ^ 52 ≤ q) :
    significand (place * 2 ^ 52 + q) = q ∧ shift (place * 2 ^ 52 + q) = place ∧
      (reach (place * 2 ^ 52 + q) = 2 ∨ q = 2 ^ 52 ∧ 0 < place) := by
  rcases Nat.lt_or_ge q (2 ^ 52) with subnormal | normal
  · have fields : field (place * 2 ^ 52 + q) = 0 := by
      simp only [field]
      omega
    have fractions : fraction (place * 2 ^ 52 + q) = q := by
      simp only [fraction]
      omega
    refine ⟨by rw [significand, if_pos fields, fractions], by rw [shift, fields]; omega, .inl ?_⟩
    rw [reach, if_neg (by omega)]
  · have fields : field (place * 2 ^ 52 + q) = place + 1 := by
      simp only [field]
      omega
    have fractions : fraction (place * 2 ^ 52 + q) = q - 2 ^ 52 := by
      simp only [fraction]
      omega
    refine ⟨?_, by rw [shift, fields]; omega, ?_⟩
    · rw [significand, fields, fractions, if_neg (Nat.succ_ne_zero _)]
      omega
    · simp only [reach, fields, fractions]
      split <;> omega

/-- A full significand is rounded up to the first one of the next power of two. -/
theorem significand_of_carry (place : Nat) :
    significand (place * 2 ^ 52 + 2 ^ 53) = 2 ^ 52 ∧
      shift (place * 2 ^ 52 + 2 ^ 53) = place + 1 ∧ reach (place * 2 ^ 52 + 2 ^ 53) = 1 := by
  have fields : field (place * 2 ^ 52 + 2 ^ 53) = place + 2 := by
    simp only [field]
    omega
  have fractions : fraction (place * 2 ^ 52 + 2 ^ 53) = 0 := by
    simp only [fraction]
    omega
  refine ⟨?_, by rw [shift, fields]; omega, if_pos ⟨fractions, by omega⟩⟩
  rw [significand, fields, fractions, if_neg (Nat.succ_ne_zero _), Nat.add_zero]

theorem RoundsFraction.bounds {q numerator denominator : Nat}
    (nearest : RoundsFraction q numerator denominator) :
    2 * (q * denominator) ≤ 2 * numerator + denominator ∧
      2 * numerator ≤ 2 * (q * denominator) + denominator := by
  unfold RoundsFraction at nearest
  split at nearest <;> omega

theorem RoundsFraction.le_of_le {q bound numerator denominator : Nat}
    (nearest : RoundsFraction q numerator denominator) (positive : 0 < denominator)
    (large : bound * denominator ≤ numerator) : bound ≤ q := by
  by_contra below
  have steps : (q + 1) * denominator ≤ bound * denominator :=
    Nat.mul_le_mul_right denominator (by omega)
  rw [Nat.add_mul, Nat.one_mul] at steps
  have := nearest.bounds
  omega

theorem RoundsFraction.le_of_lt {q bound numerator denominator : Nat}
    (nearest : RoundsFraction q numerator denominator) (positive : 0 < denominator)
    (small : numerator < bound * denominator) : q ≤ bound := by
  by_contra above
  have steps : (bound + 1) * denominator ≤ q * denominator :=
    Nat.mul_le_mul_right denominator (by omega)
  rw [Nat.add_mul, Nat.one_mul] at steps
  have := nearest.bounds
  omega

/-- A fraction that is rounded at the last place of its significand rounds to the magnitude with
this significand. -/
theorem rounds_of_place {place q numerator denominator : Nat} (positive : 0 < denominator)
    (nearest : RoundsFraction q (numerator * unitsPerOne) (denominator * 2 ^ place))
    (small : numerator * unitsPerOne < 2 ^ 53 * (denominator * 2 ^ place))
    (full : place = 0 ∨ 2 ^ 52 * (denominator * 2 ^ place) ≤ numerator * unitsPerOne) :
    Rounds (place * 2 ^ 52 + q) (numerator / denominator) := by
  have wide : 0 < denominator * 2 ^ place := Nat.mul_pos positive (Nat.two_pow_pos place)
  have ends (k : Nat) : k * 2 ^ place * denominator = k * (denominator * 2 ^ place) := by ring
  have parity : (place * 2 ^ 52 + q) % 2 = q % 2 := by omega
  have full' : place = 0 ∨ 2 ^ 52 ≤ q := full.imp_right (nearest.le_of_le wide)
  have bounds := nearest.bounds
  rw [rounds_div_iff positive, lowerEnd_succ, lowerEnd, parity]
  rcases (nearest.le_of_lt wide small).lt_or_eq with below | rfl
  · obtain ⟨same, places, reached⟩ := significand_of_place below full'
    rw [same, places, ends, ends, Nat.sub_mul, Nat.add_mul, Nat.mul_assoc]
    generalize denominator * 2 ^ place = unit at *
    rcases reached with reached | ⟨rfl, some⟩
    · have odd : q % 2 = 0 ∨ unit ≤ q * unit := by
        rcases Nat.eq_zero_or_pos q with rfl | positive
        · exact .inl rfl
        · exact .inr (Nat.le_mul_of_pos_left unit positive)
      rw [reached]
      unfold RoundsFraction at nearest
      by_cases even : q % 2 = 0
      · rw [if_pos even] at nearest ⊢
        omega
      · rw [if_neg even] at nearest ⊢
        omega
    · -- A power of two is even, and no fraction below it is rounded at this place.
      rw [if_pos (by decide)]
      omega
  · obtain ⟨same, places, reached⟩ := significand_of_carry place
    have double (k : Nat) : k * 2 ^ (place + 1) * denominator =
        2 * k * (denominator * 2 ^ place) := by ring
    rw [same, places, reached, if_pos (by decide), double, double]
    omega

/-- The place of the last digit that a significand of a whole number has. -/
theorem log_place (n : Nat) :
    n < 2 ^ 53 * 2 ^ (n.log2 - 52) ∧
      (n.log2 - 52 = 0 ∨ 2 ^ 52 * 2 ^ (n.log2 - 52) ≤ n) := by
  rw [← Nat.pow_add, ← Nat.pow_add]
  have below : n < 2 ^ (n.log2 + 1) := Nat.lt_log2_self
  refine ⟨below.trans_le (Nat.pow_le_pow_right (by decide) (by omega)), ?_⟩
  rcases Nat.lt_or_ge n.log2 53 with small | large
  · omega
  · right
    have some : n ≠ 0 := by
      rintro rfl
      simp at large
    calc 2 ^ (52 + (n.log2 - 52)) = 2 ^ n.log2 := by congr 1; omega
      _ ≤ n := Nat.log2_self_le some

theorem nearestMagnitude_eq (numerator denominator : Nat) :
    nearestMagnitude numerator denominator =
      ((numerator * unitsPerOne / denominator).log2 - 52) * 2 ^ 52 +
        roundToEven (numerator * unitsPerOne)
          (denominator * 2 ^ ((numerator * unitsPerOne / denominator).log2 - 52)) :=
  rfl

theorem rounds_nearestMagnitude (numerator : Nat) {denominator : Nat} (positive : 0 < denominator) :
    Rounds (nearestMagnitude numerator denominator) (numerator / denominator) := by
  rw [nearestMagnitude_eq]
  obtain ⟨below, full⟩ := log_place (numerator * unitsPerOne / denominator)
  generalize (numerator * unitsPerOne / denominator).log2 - 52 = place at *
  have wide : 0 < denominator * 2 ^ place := Nat.mul_pos positive (Nat.two_pow_pos place)
  refine rounds_of_place positive (roundsFraction_roundToEven _ wide) ?_
    (full.imp_right fun large => ?_)
  · rw [Nat.div_lt_iff_lt_mul positive] at below
    linarith
  · rw [Nat.le_div_iff_mul_le positive] at large
    linarith

/-- A coefficient with a power of ten, by how many digits stand before its point. -/
theorem decimal_bounds {coefficient : Nat} (some : coefficient ≠ 0) (exponent : Int) :
    (10 : ℚ) ^ (exponent + (Nat.toDigits 10 coefficient).length - 1) ≤ coefficient * 10 ^ exponent ∧
      (coefficient * 10 ^ exponent : ℚ) <
        10 ^ (exponent + (Nat.toDigits 10 coefficient).length) := by
  have ten : (10 : ℚ) ≠ 0 := by norm_num
  have power : (0 : ℚ) < 10 ^ exponent := zpow_pos (by norm_num) exponent
  obtain ⟨k, digits⟩ : ∃ k, (Nat.toDigits 10 coefficient).length = k + 1 :=
    Nat.exists_eq_add_one.mpr Nat.length_toDigits_pos
  have below : coefficient < 10 ^ (k + 1) :=
    (Nat.length_toDigits_le_iff (by decide) k.succ_pos).mp digits.le
  have above : 10 ^ k ≤ coefficient := by
    rcases Nat.eq_zero_or_pos k with rfl | more
    · omega
    · by_contra less
      have := (Nat.length_toDigits_le_iff (by decide) more).mpr (Nat.lt_of_not_le less)
      omega
  have shorter : exponent + ((k + 1 : Nat) : ℤ) - 1 = k + exponent := by omega
  rw [digits, shorter, add_comm exponent, zpow_add₀ ten, zpow_add₀ ten, zpow_natCast, zpow_natCast]
  constructor
  · exact mul_le_mul_of_nonneg_right (by exact_mod_cast above) power.le
  · exact mul_lt_mul_of_pos_right (by exact_mod_cast below) power

theorem mul_lt_one_of_size {coefficient : Nat} (some : coefficient ≠ 0) {exponent : Int} {far : Nat}
    (tiny : exponent + (Nat.toDigits 10 coefficient).length ≤ -far) :
    (coefficient * 10 ^ exponent : ℚ) * 10 ^ far < 1 := by
  have ten : (10 : ℚ) ≠ 0 := by norm_num
  have power : (0 : ℚ) < 10 ^ far := by positivity
  calc (coefficient * 10 ^ exponent : ℚ) * 10 ^ far
      < 10 ^ (exponent + (Nat.toDigits 10 coefficient).length) * 10 ^ far :=
        mul_lt_mul_of_pos_right (decimal_bounds some exponent).2 power
    _ = 10 ^ (exponent + (Nat.toDigits 10 coefficient).length + far) := by
        rw [zpow_add₀ ten _ (far : ℤ), zpow_natCast]
    _ ≤ 1 := zpow_le_one_of_nonpos₀ (by norm_num) (by omega)

theorem pow_le_of_size {coefficient : Nat} (some : coefficient ≠ 0) {exponent : Int} {far : Nat}
    (huge : far < exponent + (Nat.toDigits 10 coefficient).length) :
    (10 : ℚ) ^ far ≤ coefficient * 10 ^ exponent := by
  refine le_trans ?_ (decimal_bounds some exponent).1
  rw [← zpow_natCast]
  exact zpow_le_zpow_right₀ (by norm_num) (by omega)

/-- What is less than half of the smallest double rounds to zero. -/
theorem rounds_zero_of_tiny {r far : ℚ} (nonneg : 0 ≤ r) (wide : quarters ≤ 2 * far)
    (tiny : r * far < 1) : Rounds 0 r := by
  have first : lowerEnd 1 = 2 := lowerEnd_succ 0
  have below : r * quarters ≤ r * (2 * far) := mul_le_mul_of_nonneg_left wide nonneg
  rw [Rounds, if_pos rfl, first]
  refine ⟨?_, ?_⟩
  · simpa [lowerEnd, significand, fraction, field] using mul_nonneg nonneg quarters_pos.le
  · push_cast
    linarith

theorem infinity_le_of_huge {m : Nat} {r far : ℚ} (wide : lowerEnd infinity < far * quarters)
    (huge : far ≤ r) (rounds : Rounds m r) : infinity ≤ m := by
  by_contra small
  have ends : (lowerEnd (m + 1) : ℚ) ≤ lowerEnd infinity :=
    Nat.cast_le.mpr (lowerEnd_strictMono.monotone (by omega))
  have scaled : far * quarters ≤ r * quarters := mul_le_mul_of_nonneg_right huge quarters_pos.le
  linarith [rounds.bounds.2]

theorem lt_infinity_of_small {m : Nat} {r far : ℚ} (narrow : far * quarters < lowerEnd infinity)
    (small : r ≤ far) (rounds : Rounds m r) : m < infinity := by
  by_contra large
  have ends : (lowerEnd infinity : ℚ) ≤ lowerEnd m :=
    Nat.cast_le.mpr (lowerEnd_strictMono.monotone (by omega))
  have scaled : r * quarters ≤ far * quarters := mul_le_mul_of_nonneg_right small quarters_pos.le
  linarith [rounds.bounds.1]

private theorem lowerEnd_lt_of_nat {m far places : Nat}
    (bound : lowerEnd m < 10 ^ far * 2 ^ places) :
    (lowerEnd m : ℚ) < 10 ^ far * 2 ^ places := by
  exact_mod_cast bound

-- The powers stay symbolic, as they are too large to be computed in each step.
private theorem exists_far : ∃ far, far = 400 ∧ quarters ≤ 2 * 10 ^ far ∧
    (lowerEnd infinity : ℚ) < 10 ^ far * quarters := by
  have scale (places far : Nat) (bound : 2 ^ places ≤ 2 * 10 ^ far) :
      (2 : ℚ) ^ places ≤ 2 * 10 ^ far := by exact_mod_cast bound
  exact ⟨400, rfl, scale 1076 400 (by decide +kernel),
    @lowerEnd_lt_of_nat infinity 400 1076 (by decide +kernel)⟩

theorem quotient_of_exponent (coefficient : Nat) (exponent : Int) :
    ((coefficient * Nat.pow 10 exponent.toNat : Nat) : ℚ) / (Nat.pow 10 (-exponent).toNat : Nat) =
      coefficient * 10 ^ exponent := by
  simp only [Nat.pow_eq]
  push_cast
  obtain ⟨n, rfl | rfl⟩ := exponent.eq_nat_or_neg
  · simp
  · simp [div_eq_mul_inv]

/-- Within the range of doubles, a decimal is read as the magnitude that it rounds to. -/
theorem exists_rounds_nearest (coefficient : Nat) (exponent : Int) :
    ∃ m, Rounds m (coefficient * 10 ^ exponent) ∧
      nearest coefficient exponent = min infinity m := by
  obtain ⟨far, count, wide, wide'⟩ := exists_far
  have positive : 0 < Nat.pow 10 (-exponent).toNat := Nat.pow_pos (by decide)
  have nearestOne := rounds_nearestMagnitude (coefficient * Nat.pow 10 exponent.toNat) positive
  rw [quotient_of_exponent] at nearestOne
  simp only [nearest]
  split_ifs with small large
  · refine ⟨0, ?_, by simp⟩
    by_cases zero : coefficient = 0
    · simpa [zero] using rounds_zero
    · exact rounds_zero_of_tiny (by positivity) wide (mul_lt_one_of_size zero (by omega))
  · rw [not_or] at small
    have places : far < exponent + (Nat.toDigits 10 coefficient).length := by omega
    have huge := infinity_le_of_huge wide' (pow_le_of_size small.1 places) nearestOne
    exact ⟨_, nearestOne, (Nat.min_eq_left huge).symm⟩
  · exact ⟨_, nearestOne, rfl⟩

theorem nearest_le (coefficient : Nat) (exponent : Int) :
    nearest coefficient exponent ≤ infinity := by
  obtain ⟨m, -, same⟩ := exists_rounds_nearest coefficient exponent
  rw [same]
  exact Nat.min_le_left _ _

/-- What is read is the double nearest to the decimal, if there is one below infinity. -/
theorem isRounding_iff {negative : Bool} {coefficient : Nat} {exponent : Int} {x : Float} :
    IsRounding negative (coefficient * 10 ^ exponent) x ↔
      nearest coefficient exponent < infinity ∧
        x = signed negative (nearest coefficient exponent) := by
  obtain ⟨m, rounds, same⟩ := exists_rounds_nearest coefficient exponent
  have number := nearest_le coefficient exponent
  constructor
  · rintro ⟨finite, sign, nearest⟩
    rw [isFinite_iff] at finite
    obtain rfl := rounds.isNearest.unique nearest
    rw [Nat.min_eq_right finite.le] at same
    rw [same] at number ⊢
    refine ⟨finite, eq_of_magnitude ?_ (magnitude_signed number negative).symm⟩
    rw [sign, isNegative_signed number]
  · rintro ⟨below, rfl⟩
    refine ⟨?_, isNegative_signed number negative, ?_⟩
    · rwa [isFinite_iff, magnitude_signed number]
    · have own : nearest coefficient exponent = m := by omega
      rw [magnitude_signed number, own]
      exact rounds.isNearest

theorem isRounding_rounded {coefficient : Nat} {exponent : Int} {x : Float} :
    IsRounding false (coefficient * 10 ^ exponent) x ↔
      nearest coefficient exponent < infinity ∧ x = rounded coefficient exponent :=
  isRounding_iff

private theorem exists_last : ∃ last, last = 308 ∧
    (10 : ℚ) ^ last * quarters < lowerEnd infinity ∧
      lowerEnd infinity < (10 : ℚ) ^ (last + 1) * quarters := by
  have below (places far m : Nat) (bound : 10 ^ far * 2 ^ places < lowerEnd m) :
      (10 : ℚ) ^ far * 2 ^ places < lowerEnd m := by exact_mod_cast bound
  exact ⟨308, rfl, below 1076 308 infinity (by decide +kernel),
    @lowerEnd_lt_of_nat infinity 309 1076 (by decide +kernel)⟩

/-- The powers of ten that have a double. -/
theorem nearest_one_lt_iff (n : Nat) : nearest 1 n < infinity ↔ n ≤ 308 := by
  obtain ⟨last, count, below, above⟩ := exists_last
  obtain ⟨m, rounds, same⟩ := exists_rounds_nearest 1 n
  rw [Nat.cast_one, one_mul, zpow_natCast] at rounds
  rw [same, ← count]
  rcases Nat.lt_or_ge last n with beyond | within
  · have huge : (10 : ℚ) ^ (last + 1) ≤ 10 ^ n := pow_le_pow_right₀ (by norm_num) beyond
    have := infinity_le_of_huge above huge rounds
    omega
  · have small : (10 : ℚ) ^ n ≤ 10 ^ last := pow_le_pow_right₀ (by norm_num) within
    have := lt_infinity_of_small below small rounds
    omega

theorem isRounding_powerOfTen {n : Nat} {x : Float} :
    IsRounding false (10 ^ n) x ↔ n ≤ 308 ∧ x = rounded 1 n := by
  rw [← nearest_one_lt_iff, ← isRounding_rounded, Nat.cast_one, one_mul, zpow_natCast]

theorem isRounding_word {n : Nat} (fits : n < 2 ^ 64) {x : Float} :
    IsRounding false n x ↔ x = rounded n 0 := by
  obtain ⟨last, count, below, -⟩ := exists_last
  obtain ⟨m, rounds, same⟩ := exists_rounds_nearest n 0
  have small : (n : ℚ) * 10 ^ (0 : ℤ) ≤ 10 ^ last := by
    have bound : n ≤ 10 ^ last := by
      calc n ≤ 10 ^ 20 := by omega
        _ ≤ 10 ^ last := Nat.pow_le_pow_right (by decide) (by omega)
    rw [zpow_zero, mul_one]
    exact_mod_cast bound
  have finite : nearest n 0 < infinity := by
    have := lt_infinity_of_small below small rounds
    omega
  rw [← and_iff_right (b := x = rounded n 0) finite, ← isRounding_rounded, zpow_zero, mul_one]

theorem rounded_beq_zero_iff (n : Nat) : (rounded n 0 == 0) = true ↔ n = 0 := by
  rw [beq_zero_iff, rounded, magnitude_signed (nearest_le n 0)]
  constructor
  · intro nothing
    obtain ⟨m, rounds, same⟩ := exists_rounds_nearest n 0
    have some : 0 < infinity := by decide +kernel
    obtain rfl : m = 0 := by omega
    have bound := rounds.bounds.2
    have first : lowerEnd (0 + 1) = 2 := lowerEnd_succ 0
    rw [first, zpow_zero, mul_one] at bound
    have scale : (4 : ℚ) ≤ quarters := by
      rw [quarters_eq]
      exact_mod_cast Nat.le_mul_of_pos_right 4 unitsPerOne_pos
    by_contra some
    have large : (1 : ℚ) ≤ n := by exact_mod_cast Nat.one_le_iff_ne_zero.mpr some
    push_cast at bound
    nlinarith
  · rintro rfl
    rfl

end FloatText
end FeatureFlags
