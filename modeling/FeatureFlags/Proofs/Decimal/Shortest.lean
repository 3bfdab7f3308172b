import FeatureFlags.Proofs.Decimal.Rounding

/-!
The search for the shortest decimal of a double. What it finds rounds to the double, and it always
finds something: with seventeen digits the grid is finer than the interval is wide.
-/

namespace FeatureFlags
namespace RoundingInterval

def Holds (i : RoundingInterval) (r : ℚ) : Prop :=
  if i.closed then i.low ≤ r * i.scale ∧ r * i.scale ≤ i.high
  else i.low < r * i.scale ∧ r * i.scale < i.high

theorem contains_iff_holds {i : RoundingInterval} {n : Nat} : i.contains n = true ↔ i.Holds n := by
  unfold contains Holds
  split <;> simp only [Bool.and_eq_true, decide_eq_true_eq] <;> norm_cast

/-- The other unit changes all parts of the interval alike. -/
theorem exists_factor_inUnitsOf (i : RoundingInterval) (place : Int) :
    ∃ factor : Nat, 0 < factor ∧ (i.inUnitsOf place).low = i.low * factor ∧
      (i.inUnitsOf place).value = i.value * factor ∧
      (i.inUnitsOf place).high = i.high * factor ∧
      (i.inUnitsOf place).closed = i.closed ∧
      ((i.inUnitsOf place).scale : ℚ) = i.scale * factor * 10 ^ place := by
  unfold inUnitsOf
  by_cases whole : place ≥ 0
  · obtain ⟨n, rfl⟩ := Int.eq_ofNat_of_zero_le whole
    exact ⟨1, one_pos, by simp⟩
  · obtain ⟨n, rfl⟩ := Int.exists_eq_neg_ofNat (le_of_not_ge whole)
    refine ⟨Nat.pow 10 n, Nat.pow_pos (by decide), ?_⟩
    simp only [if_neg whole, Int.natAbs_neg, Int.natAbs_natCast, true_and]
    simp

theorem holds_inUnitsOf {i : RoundingInterval} {place : Int} {r : ℚ} :
    (i.inUnitsOf place).Holds r ↔ i.Holds (r * 10 ^ place) := by
  obtain ⟨factor, positive, low, -, high, closed, scale⟩ := i.exists_factor_inUnitsOf place
  have positive' : (0 : ℚ) < factor := by exact_mod_cast positive
  have moved : r * (i.scale * factor * 10 ^ place) = r * 10 ^ place * i.scale * factor := by ring
  unfold Holds
  rw [closed, low, high, scale, moved]
  push_cast
  simp only [mul_le_mul_iff_left₀ positive', mul_lt_mul_iff_left₀ positive']

/-- The search gives up only if neither neighbour of the value is inside. -/
theorem integer?_cases (i : RoundingInterval) :
    (∃ c, i.integer? = some c ∧ i.contains c = true) ∨
      (i.integer? = none ∧ i.contains (i.value / i.scale) = false ∧
        i.contains (i.value / i.scale + 1) = false) := by
  simp only [integer?]
  cases lower : i.contains (i.value / i.scale) <;>
    cases upper : i.contains (i.value / i.scale + 1)
  case false.false => exact .inr ⟨rfl, rfl, rfl⟩
  case false.true => exact .inl ⟨_, rfl, upper⟩
  case true.false => exact .inl ⟨_, rfl, lower⟩
  case true.true =>
    refine .inl ⟨_, rfl, ?_⟩
    split
    · exact lower
    · exact upper

theorem contains_of_integer? {i : RoundingInterval} {c : Nat} (found : i.integer? = some c) :
    i.contains c = true := by
  rcases i.integer?_cases with ⟨c', found', inside⟩ | ⟨missed, -⟩
  · cases found'.symm.trans found
    exact inside
  · cases missed.symm.trans found

/-- An interval that is wider than the unit has a whole number next to its value. -/
theorem exists_integer? {i : RoundingInterval} (below : i.low < i.value) (above : i.value < i.high)
    (positive : 0 < i.scale) (wide : i.scale + i.low < i.high) :
    ∃ c, i.integer? = some c := by
  have inside {n : Nat} (lower : i.low < n * i.scale) (upper : n * i.scale < i.high) :
      i.contains n = true := by
    unfold contains
    split <;> simp <;> omega
  have floor : i.value / i.scale * i.scale ≤ i.value := Nat.div_mul_le_self _ _
  have ceiling : i.value < i.value / i.scale * i.scale + i.scale := Nat.lt_div_mul_add positive
  rcases i.integer?_cases with ⟨c, found, -⟩ | ⟨-, outside, outside'⟩
  · exact ⟨c, found⟩
  · -- Then the whole interval lies between the neighbours, which are one unit apart.
    by_cases reached : i.low < i.value / i.scale * i.scale
    · exact absurd (inside reached (by omega)) (by simp [outside])
    · have next : (i.value / i.scale + 1) * i.scale = i.value / i.scale * i.scale + i.scale :=
        Nat.succ_mul _ _
      exact absurd (inside (n := i.value / i.scale + 1) (by omega) (by omega)) (by simp [outside'])

private theorem ten_pow_sub_mul_le {exponent places scale value : Nat}
    (bound : 10 ^ exponent * scale ≤ value * 10 ^ places) :
    (10 : ℚ) ^ ((exponent : ℤ) - places) * scale ≤ value := by
  have bound' : (10 : ℚ) ^ exponent * scale ≤ value * 10 ^ places := by exact_mod_cast bound
  rw [zpow_sub₀ (by norm_num), zpow_natCast, zpow_natCast, div_mul_eq_mul_div,
    div_le_iff₀ (by positivity)]
  exact bound'

private theorem leading_digit_le (places : Nat) {value scale : Nat} (positive : 0 < scale)
    (large : scale ≤ value * Nat.pow 10 places) {offset : ℤ} (same : offset = places + 1) :
    (10 : ℚ) ^ (((Nat.toDigits 10 (value * Nat.pow 10 places / scale)).length : ℤ) - offset) *
      scale ≤ value := by
  have digit : 0 < value * Nat.pow 10 places / scale := Nat.div_pos large positive
  obtain ⟨exponent, length⟩ := Nat.exists_eq_add_one_of_ne_zero
    (Nat.length_toDigits_pos (b := 10) (n := value * Nat.pow 10 places / scale)).ne'
  have leading : 10 ^ exponent ≤ value * Nat.pow 10 places / scale := by
    by_contra short
    rcases Nat.eq_zero_or_pos exponent with rfl | some
    · omega
    · have := (Nat.length_toDigits_le_iff (by decide) some).mpr (Nat.lt_of_not_le short)
      omega
  have place : (((Nat.toDigits 10 (value * Nat.pow 10 places / scale)).length : ℤ) - offset) =
      (exponent : ℤ) - places := by omega
  rw [place]
  exact ten_pow_sub_mul_le ((Nat.le_div_iff_mul_le positive).mp leading)

/-- The value has a digit at its leading place. -/
theorem leadingPlace_le {i : RoundingInterval} {places : Nat} (count : places = 324)
    (positive : 0 < i.scale) (large : i.scale ≤ i.value * Nat.pow 10 places) :
    (10 : ℚ) ^ i.leadingPlace * i.scale ≤ i.value := by
  unfold leadingPlace
  rw [← count]
  apply leading_digit_le places positive large
  rw [count]
  norm_num

end RoundingInterval
namespace Double

/-- A quarter of the last place of the significand, in the scale of the interval. -/
def unit (m : Nat) : Nat := if shift m ≥ 1074 then 2 ^ (shift m - 1074) else 1

def scaleOf (m : Nat) : Nat := if shift m ≥ 1074 then 4 else 4 * 2 ^ (1074 - shift m)

theorem unit_pos (m : Nat) : 0 < unit m := by
  unfold unit
  split
  · exact Nat.two_pow_pos _
  · exact one_pos

theorem scaleOf_pos (m : Nat) : 0 < scaleOf m := by
  unfold scaleOf
  split
  · decide
  · exact Nat.mul_pos (by decide) (Nat.two_pow_pos _)

theorem unit_mul_two_pow (m : Nat) {places : Nat} (count : places = 1076) :
    unit m * 2 ^ places = scaleOf m * 2 ^ shift m := by
  have four : 4 = 2 ^ 2 := rfl
  unfold unit scaleOf
  split
  · rw [four, ← Nat.pow_add, ← Nat.pow_add,
      show shift m - 1074 + places = 2 + shift m by omega]
  · rw [four, ← Nat.pow_add, ← Nat.pow_add, one_mul,
      show places = 2 + (1074 - shift m) + shift m by omega]

theorem unit_mul_quarters (m : Nat) : unit m * quarters = scaleOf m * 2 ^ shift m := by
  -- The power stays symbolic: its number of places is a variable.
  obtain ⟨places, count⟩ : ∃ places, places = 1076 := ⟨_, rfl⟩
  rw [quarters, ← count]
  exact_mod_cast unit_mul_two_pow m count

end Double

namespace RoundingInterval
open Double

theorem ofFloat_eq (x : Float) :
    ofFloat x =
      { low := (4 * significand (magnitude x) - reach (magnitude x)) * unit (magnitude x)
        value := 4 * significand (magnitude x) * unit (magnitude x)
        high := (4 * significand (magnitude x) + 2) * unit (magnitude x)
        scale := scaleOf (magnitude x)
        closed := significand (magnitude x) % 2 = 0 } := by
  have fractions : x.toBits.toNat % Nat.pow 2 52 = fraction (magnitude x) := by
    simp only [fraction, magnitude, Nat.pow_eq]
    omega
  have fields : x.toBits.toNat / Nat.pow 2 52 % 2048 = field (magnitude x) := by
    simp only [field, magnitude, Nat.pow_eq]
    omega
  have shifts : max (field (magnitude x)) 1 = shift (magnitude x) + 1 := by
    simp only [shift]
    omega
  have units : shift (magnitude x) + 1 - 1075 = shift (magnitude x) - 1074 := by omega
  have scales : 1075 - (shift (magnitude x) + 1) = 1074 - shift (magnitude x) := by omega
  have large : shift (magnitude x) + 1 ≥ 1075 ↔ shift (magnitude x) ≥ 1074 := by omega
  simp only [ofFloat, fractions, fields, shifts, units, scales, large]
  rfl

/-- The interval of a double holds what rounds to its magnitude. -/
theorem holds_ofFloat {x : Float} {r : ℚ} : (ofFloat x).Holds r ↔ Rounds (magnitude x) r := by
  rw [ofFloat_eq]
  generalize magnitude x = m
  obtain ⟨factor, positive, units, scales⟩ : ∃ factor : ℚ, 0 < factor ∧
      (unit m : ℚ) = 2 ^ shift m * factor ∧ (scaleOf m : ℚ) = quarters * factor := by
    have scale : (0 : ℚ) < scaleOf m := by exact_mod_cast scaleOf_pos m
    refine ⟨scaleOf m / quarters, div_pos scale quarters_pos, ?_,
      (mul_div_cancel₀ _ quarters_pos.ne').symm⟩
    rw [← mul_div_assoc, eq_div_iff quarters_pos.ne', unit_mul_quarters, mul_comm]
  unfold Holds Rounds
  simp only [significand_mod_two, decide_eq_true_eq, lowerEnd_succ]
  rw [lowerEnd]
  push_cast
  simp only [units, scales, ← mul_assoc, mul_le_mul_iff_left₀ positive,
    mul_lt_mul_iff_left₀ positive]

end RoundingInterval

namespace Decimal
open Double RoundingInterval

private theorem significand_le (m : Nat) : significand m ≤ 2 ^ 52 * reach m := by
  have := fraction_lt m
  unfold significand reach
  split <;> split <;> omega

private theorem significand_pos {m : Nat} (nonzero : m ≠ 0) : 0 < significand m := by
  unfold significand field fraction
  split <;> omega

private theorem finest_le {places binary : Nat} (count : places = 324) (count' : binary = 1076) :
    2 ^ binary ≤ 4 * Nat.pow 10 places := by
  subst count count'
  decide +kernel

/-- No double is so small that its leading digit would be missed. -/
private theorem scaleOf_le {m : Nat} (nonzero : m ≠ 0) {places : Nat} (count : places = 324) :
    scaleOf m ≤ 4 * significand m * unit m * Nat.pow 10 places := by
  obtain ⟨binary, count'⟩ : ∃ binary, binary = 1076 := ⟨_, rfl⟩
  calc scaleOf m ≤ scaleOf m * 2 ^ shift m := Nat.le_mul_of_pos_right _ (Nat.two_pow_pos _)
    _ = unit m * 2 ^ binary := (unit_mul_two_pow m count').symm
    _ ≤ unit m * (4 * Nat.pow 10 places) := Nat.mul_le_mul_left _ (finest_le count count')
    _ ≤ unit m * (4 * Nat.pow 10 places) * significand m :=
        Nat.le_mul_of_pos_right _ (significand_pos nonzero)
    _ = 4 * significand m * unit m * Nat.pow 10 places := by ring

private theorem leadingPlace_ofFloat_le {x : Float} (nonzero : magnitude x ≠ 0) :
    (10 : ℚ) ^ (ofFloat x).leadingPlace * (ofFloat x).scale ≤ (ofFloat x).value := by
  obtain ⟨places, count⟩ : ∃ places, places = 324 := ⟨_, rfl⟩
  apply leadingPlace_le count
  · rw [ofFloat_eq]
    exact scaleOf_pos _
  · rw [ofFloat_eq]
    exact scaleOf_le nonzero count

/-- With seventeen digits the unit is smaller than the interval is wide. -/
private theorem unit_lt_width {σ reach unit scale : Nat} (one_or_two : reach = 1 ∨ reach = 2)
    (positive : 0 < σ) (bound : σ ≤ 2 ^ 52 * reach) (some : 0 < unit)
    (digits : 10 ^ 16 * scale ≤ 4 * σ * unit) :
    scale + (4 * σ - reach) * unit < (4 * σ + 2) * unit := by
  have area : σ * unit ≤ 2 ^ 52 * reach * unit := Nat.mul_le_mul_right _ bound
  have least : unit ≤ σ * unit := Nat.le_mul_of_pos_left _ positive
  have four : 4 * σ * unit = 4 * (σ * unit) := Nat.mul_assoc _ _ _
  rw [Nat.sub_mul, Nat.add_mul, four]
  rcases one_or_two with rfl | rfl <;> omega

/-- So many places below the leading one, the unit goes that often into the value. -/
private theorem ten_pow_mul_scale_le {i : RoundingInterval}
    (leading : (10 : ℚ) ^ i.leadingPlace * i.scale ≤ i.value) (below : Nat) :
    10 ^ below * (i.inUnitsOf (i.leadingPlace - below)).scale ≤
      (i.inUnitsOf (i.leadingPlace - below)).value := by
  obtain ⟨factor, -, -, value, -, -, scale⟩ := i.exists_factor_inUnitsOf (i.leadingPlace - below)
  have rational : (10 : ℚ) ^ below * (i.inUnitsOf (i.leadingPlace - below)).scale ≤
      (i.inUnitsOf (i.leadingPlace - below)).value := by
    rw [scale, value, zpow_sub₀ (by norm_num), zpow_natCast]
    push_cast
    calc (10 : ℚ) ^ below * (i.scale * factor * (10 ^ i.leadingPlace / 10 ^ below))
        = 10 ^ i.leadingPlace * i.scale * factor := by field_simp
      _ ≤ i.value * factor := by gcongr
  exact_mod_cast rational

private theorem scale_inUnitsOf_pos {i : RoundingInterval} (positive : 0 < i.scale) (place : Int) :
    0 < (i.inUnitsOf place).scale := by
  obtain ⟨factor, positive', -, -, -, -, scale⟩ := i.exists_factor_inUnitsOf place
  have rational : (0 : ℚ) < (i.inUnitsOf place).scale := by
    rw [scale]
    positivity
  exact_mod_cast rational

/-- With seventeen digits the search finds something. -/
theorem exists_integer?_of_seventeen {x : Float} (nonzero : magnitude x ≠ 0) :
    ∃ c, ((ofFloat x).inUnitsOf ((ofFloat x).leadingPlace - 16)).integer? = some c := by
  have digits := ten_pow_mul_scale_le (leadingPlace_ofFloat_le nonzero) 16
  have scaled := scale_inUnitsOf_pos (i := ofFloat x) (by rw [ofFloat_eq]; exact scaleOf_pos _)
    ((ofFloat x).leadingPlace - 16)
  obtain ⟨factor, positive, low, value, high, -⟩ :=
    (ofFloat x).exists_factor_inUnitsOf ((ofFloat x).leadingPlace - 16)
  rw [Nat.cast_ofNat] at digits
  generalize (ofFloat x).inUnitsOf ((ofFloat x).leadingPlace - 16) = i at *
  rw [ofFloat_eq, Nat.mul_assoc] at low value high
  have unit := Nat.mul_pos (unit_pos (magnitude x)) positive
  have one_or_two : reach (magnitude x) = 1 ∨ reach (magnitude x) = 2 := by
    unfold reach
    split <;> simp
  have significand := significand_pos nonzero
  apply exists_integer? _ _ scaled
  · rw [low, high]
    exact unit_lt_width one_or_two significand (significand_le _) unit (value ▸ digits)
  · rw [low, value]
    exact Nat.mul_lt_mul_of_pos_right (by omega) unit
  · rw [value, high]
    exact Nat.mul_lt_mul_of_pos_right (by omega) unit

/-- The shortest decimal rounds to the double. -/
theorem exists_shortest {x : Float} (nonzero : magnitude x ≠ 0) :
    ∃ (c : Nat) (place : Int), 0 < c ∧ shortest x = ofCoefficient c place ∧
      Rounds (magnitude x) (c * 10 ^ place) := by
  obtain ⟨last, lastFound⟩ := exists_integer?_of_seventeen nonzero
  simp only [shortest]
  cases found : (List.range 17).findSome? fun n : Nat =>
      ((ofFloat x).inUnitsOf ((ofFloat x).leadingPlace - n)).integer?.map fun c =>
        ofCoefficient c ((ofFloat x).leadingPlace - n) with
  | none =>
      have missed := List.findSome?_eq_none_iff.mp found 16 (by decide)
      simp [lastFound] at missed
  | some d =>
      obtain ⟨n, -, made⟩ := List.exists_of_findSome?_eq_some found
      obtain ⟨c, chosen, rfl⟩ := Option.map_eq_some_iff.mp made
      have rounds : Rounds (magnitude x) (c * 10 ^ ((ofFloat x).leadingPlace - n)) :=
        holds_ofFloat.mp (holds_inUnitsOf.mp (contains_iff_holds.mp (contains_of_integer? chosen)))
      refine ⟨c, _, ?_, rfl, rounds⟩
      -- Zero rounds to no other magnitude.
      apply Nat.pos_of_ne_zero
      rintro rfl
      apply nonzero
      apply rounds.unique
      rw [Nat.cast_zero, zero_mul]
      exact rounds_zero

end Decimal
end FeatureFlags
