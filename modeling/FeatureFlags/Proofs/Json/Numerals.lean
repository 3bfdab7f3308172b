import FeatureFlags.Json.Numeral
import FeatureFlags.Proofs.Decimal.NearestMagnitude
import FeatureFlags.Proofs.Decimal.Numerals

/-!
The numbers that literals stand for. A literal that is no whole number of 64 bits is a double. It is
computed from as many digits as fit into 64 bits, with a power of ten for the others, so that it is
not always the double nearest to what is written.
-/

namespace FeatureFlags.Json.Numeral
open Double (IsRounding)

/-- The whole number of a literal without fraction and exponent, if it fits into 64 bits. A negative
zero is none, since it has a sign. -/
inductive IsWhole (literal : Numeral) : Int → Prop
  | natural (plain : literal.fraction = [] ∧ literal.exponent = none)
      (sign : literal.negative = false) (fits : ofDigits literal.whole < 2 ^ 64) :
      IsWhole literal (ofDigits literal.whole)
  | negative (plain : literal.fraction = [] ∧ literal.exponent = none)
      (sign : literal.negative = true)
      (fits : 0 < ofDigits literal.whole ∧ ofDigits literal.whole ≤ 2 ^ 63) :
      IsWhole literal (-ofDigits literal.whole)

/-- The digits that are taken behind those in front, until their number does not fit. -/
structure Takes (front digits taken left : List Char) : Prop where
  split : digits = taken ++ left
  fits : ofDigits (front ++ taken) < 2 ^ 64
  full : ∀ c ∈ left.head?, 2 ^ 64 ≤ ofDigits (front ++ taken ++ [c])

/-- The number of the digits that are taken, and the power of ten that belongs to it. -/
inductive Scientific (literal : Numeral) : Nat → Int → Prop
  | mk {taken overflow taken' dropped : List Char} (whole : Takes [] literal.whole taken overflow)
      (fraction : Takes taken literal.fraction taken' dropped) :
      Scientific literal (ofDigits (taken ++ taken'))
        (overflow.length - taken'.length + literal.exponent.getD 0)

/-- A number times a power of ten. Both are rounded, and so is what comes out of every step. -/
inductive Scales (significand : Nat) : Int → Float → Prop
  | zero {exponent : Int} (nothing : significand = 0) : Scales significand exponent 0
  | product {n : Nat} {x power : Float} (some : significand ≠ 0)
      (own : IsRounding false significand x) (tens : IsRounding false (10 ^ n) power)
      (finite : (x * power).isFinite = true) : Scales significand n (x * power)
  | quotient {n : Nat} {x power : Float} (some : significand ≠ 0) (positive : 0 < n)
      (own : IsRounding false significand x) (tens : IsRounding false (10 ^ n) power) :
      Scales significand (-n) (x / power)
  | quotients {n : Nat} {x power power' : Float} (some : significand ≠ 0) (positive : 0 < n)
      (own : IsRounding false significand x) (tens : IsRounding false (10 ^ 308) power)
      (tens' : IsRounding false (10 ^ n) power') :
      Scales significand (-(308 + n)) (x / power / power')
  | tiny {n : Nat} (some : significand ≠ 0) (beyond : 2 * 308 < n) : Scales significand (-n) 0

/-- The double that is computed for a literal. -/
def Computes (literal : Numeral) (x : Float) : Prop :=
  ∃ significand exponent magnitude, literal.Scientific significand exponent ∧
    Scales significand exponent magnitude ∧ x = if literal.negative then -magnitude else magnitude

/-- A whole number, or else a double. -/
inductive Denotes (literal : Numeral) : Number → Prop
  | whole {n : Int} (own : literal.IsWhole n) : Denotes literal (.integer n)
  | real {x : Float} (other : ∀ n, ¬ literal.IsWhole n) (computed : literal.Computes x) :
      Denotes literal (.real x)

section Takes
variable {front digits taken left : List Char} {c : Char}

theorem takes_cons :
    Takes front (c :: digits) (c :: taken) left ↔ Takes (front ++ [c]) digits taken left := by
  have same : front ++ c :: taken = front ++ [c] ++ taken := by simp
  constructor
  · rintro ⟨split, fits, full⟩
    rw [same] at fits full
    exact ⟨(List.cons.inj split).2, fits, full⟩
  · rintro ⟨split, fits, full⟩
    rw [← same] at fits full
    exact ⟨by rw [split, List.cons_append], fits, full⟩

/-- A digit that fits is taken. -/
theorem takes_of_fits (next : ofDigits (front ++ [c]) < 2 ^ 64) :
    Takes front (c :: digits) taken left ↔
      ∃ rest, taken = c :: rest ∧ Takes (front ++ [c]) digits rest left := by
  constructor
  · intro takes
    cases taken with
    | nil =>
        obtain rfl : c :: digits = left := takes.split
        have beyond := takes.full c rfl
        rw [List.append_nil] at beyond
        omega
    | cons first rest =>
        obtain ⟨rfl, -⟩ := List.cons.inj takes.split
        exact ⟨rest, rfl, takes_cons.mp takes⟩
  · rintro ⟨rest, rfl, takes⟩
    exact takes_cons.mpr takes

/-- No digit is taken behind one that does not fit. -/
theorem takes_of_beyond (fits : ofDigits front < 2 ^ 64)
    (beyond : 2 ^ 64 ≤ ofDigits (front ++ [c])) :
    Takes front (c :: digits) taken left ↔ taken = [] ∧ left = c :: digits := by
  constructor
  · intro takes
    cases taken with
    | nil => exact ⟨rfl, takes.split.symm⟩
    | cons first rest =>
        obtain ⟨rfl, -⟩ := List.cons.inj takes.split
        have grows := ofDigits_le_append (front ++ [c]) rest
        have below := (takes_cons.mp takes).fits
        omega
  · rintro ⟨rfl, rfl⟩
    refine ⟨rfl, by rwa [List.append_nil], ?_⟩
    rintro first ⟨⟩
    rwa [List.append_nil]

theorem gather_eq_iff (fits : ofDigits front < 2 ^ 64) {n : Nat} :
    gather (ofDigits front) digits = (n, left) ↔
      ∃ taken, Takes front digits taken left ∧ n = ofDigits (front ++ taken) := by
  have size : UInt64.size = 2 ^ 64 := rfl
  induction digits generalizing front with
  | nil =>
      rw [gather, Prod.mk.injEq]
      constructor
      · rintro ⟨rfl, rfl⟩
        exact ⟨[], ⟨rfl, by rwa [List.append_nil], by simp⟩, by rw [List.append_nil]⟩
      · rintro ⟨taken, ⟨split, -, -⟩, rfl⟩
        obtain ⟨rfl, rfl⟩ := List.nil_eq_append_iff.mp split
        exact ⟨by rw [List.append_nil], rfl⟩
  | cons c digits ih =>
      rw [gather, size, ← ofDigits_concat]
      by_cases next : ofDigits (front ++ [c]) < 2 ^ 64
      · simp only [if_pos next, takes_of_fits next, ih next]
        constructor
        · rintro ⟨rest, takes, rfl⟩
          exact ⟨c :: rest, ⟨rest, rfl, takes⟩, by simp⟩
        · rintro ⟨_, ⟨rest, rfl, takes⟩, rfl⟩
          exact ⟨rest, takes, by simp⟩
      · simp only [if_neg next, takes_of_beyond fits (Nat.le_of_not_lt next), Prod.mk.injEq]
        constructor
        · rintro ⟨rfl, rfl⟩
          exact ⟨[], ⟨rfl, rfl⟩, by rw [List.append_nil]⟩
        · rintro ⟨_, ⟨rfl, rfl⟩, rfl⟩
          exact ⟨by rw [List.append_nil], rfl⟩

end Takes

theorem Takes.unique {front digits taken taken' left left' : List Char}
    (takes : Takes front digits taken left) (takes' : Takes front digits taken' left') :
    taken = taken' ∧ left = left' := by
  have fits := (ofDigits_le_append front taken).trans_lt takes.fits
  have read := (gather_eq_iff fits).mpr ⟨taken, takes, rfl⟩
  have read' := (gather_eq_iff fits).mpr ⟨taken', takes', rfl⟩
  obtain rfl : left = left' := (Prod.mk.inj (read.symm.trans read')).2
  exact ⟨List.append_cancel_right (takes.split.symm.trans takes'.split), rfl⟩

section Scale
variable {x y : Float}

theorem scale_natCast (some : ¬ (x == 0) = true) (n : Nat) :
    scale x n = .some y ↔
      n ≤ 308 ∧ (x * powerOfTen n).isFinite = true ∧ y = x * powerOfTen n := by
  have nonneg : ¬ (n : Int) < 0 := by omega
  simp only [scale, if_neg some, if_neg nonneg, Int.natAbs_natCast, Option.ite_none_right_eq_some,
    Option.some.injEq]
  rw [eq_comm (a := y)]

theorem scale_neg (some : ¬ (x == 0) = true) {n : Nat} (positive : 0 < n) :
    scale x (-n) = .some y ↔
      y = if n ≤ 308 then x / powerOfTen n
        else if n ≤ 616 then x / powerOfTen 308 / powerOfTen (n - 308)
        else 0 := by
  have negative : -(n : Int) < 0 := by omega
  rw [scale, if_neg some, if_pos negative, Int.natAbs_neg, Int.natAbs_natCast, Option.some.injEq,
    eq_comm]

end Scale

section Scaled
variable {significand : Nat} {exponent : Int} {y : Float} (fits : significand < 2 ^ 64)
include fits

theorem scales_of_scale (given : scale (FloatText.rounded significand 0) exponent = some y) :
    Scales significand exponent y := by
  have own (x : Float) := FloatText.isRounding_word fits (x := x)
  have tens (n : Nat) (x : Float) := FloatText.isRounding_powerOfTen (n := n) (x := x)
  by_cases nothing : significand = 0
  · rw [scale, if_pos ((FloatText.rounded_beq_zero_iff _).mpr nothing)] at given
    cases given
    exact .zero nothing
  · have number := mt (FloatText.rounded_beq_zero_iff significand).mp nothing
    rcases Int.lt_or_le exponent 0 with negative | nonneg
    · obtain ⟨n, rfl⟩ : ∃ n : Nat, exponent = -n := ⟨exponent.natAbs, by omega⟩
      obtain rfl := (scale_neg number (by omega)).mp given
      split_ifs with once twice
      · exact .quotient nothing (by omega) ((own _).mpr rfl) ((tens n _).mpr ⟨once, rfl⟩)
      · obtain ⟨k, rfl⟩ : ∃ k, n = 308 + k := ⟨n - 308, by omega⟩
        rw [Nat.add_sub_cancel_left, Nat.cast_add]
        exact .quotients nothing (by omega) ((own _).mpr rfl) ((tens 308 _).mpr ⟨le_rfl, rfl⟩)
          ((tens k _).mpr ⟨by omega, rfl⟩)
      · exact .tiny nothing (by omega)
    · obtain ⟨n, rfl⟩ := Int.eq_ofNat_of_zero_le nonneg
      obtain ⟨small, finite, rfl⟩ := (scale_natCast number n).mp given
      exact .product nothing ((own _).mpr rfl) ((tens n _).mpr ⟨small, rfl⟩) finite

theorem scale_of_scales (scales : Scales significand exponent y) :
    scale (FloatText.rounded significand 0) exponent = some y := by
  have own (x : Float) := FloatText.isRounding_word fits (x := x)
  have tens (n : Nat) (x : Float) := FloatText.isRounding_powerOfTen (n := n) (x := x)
  have number := mt (FloatText.rounded_beq_zero_iff significand).mp
  cases scales with
  | zero nothing => rw [scale, if_pos ((FloatText.rounded_beq_zero_iff _).mpr nothing)]
  | product some rounding power finite =>
      obtain rfl := (own _).mp rounding
      obtain ⟨small, rfl⟩ := (tens _ _).mp power
      exact (scale_natCast (number some) _).mpr ⟨small, finite, rfl⟩
  | quotient some positive rounding power =>
      obtain rfl := (own _).mp rounding
      obtain ⟨small, rfl⟩ := (tens _ _).mp power
      exact (scale_neg (number some) positive).mpr (if_pos small).symm
  | @quotients n _ _ _ some positive rounding power power' =>
      obtain rfl := (own _).mp rounding
      obtain ⟨-, rfl⟩ := (tens 308 _).mp power
      obtain ⟨small, rfl⟩ := (tens n _).mp power'
      have once : ¬ 308 + n ≤ 308 := by omega
      have twice : 308 + n ≤ 616 := by omega
      refine (scale_neg (number some) (n := 308 + n) (by omega)).mpr ?_
      rw [if_neg once, if_pos twice, Nat.add_sub_cancel_left]
      rfl
  | @tiny n some beyond =>
      have once : ¬ n ≤ 308 := by omega
      have twice : ¬ n ≤ 616 := by omega
      refine (scale_neg (number some) (by omega)).mpr ?_
      rw [if_neg once, if_neg twice]

theorem scale_eq_some_iff :
    scale (FloatText.rounded significand 0) exponent = some y ↔ Scales significand exponent y :=
  ⟨scales_of_scale fits, scale_of_scales fits⟩

end Scaled

theorem toFloat?_eq_some_iff {literal : Numeral} {x : Float} :
    literal.toFloat? = some x ↔ literal.Computes x := by
  obtain ⟨head, overflow, first⟩ : ∃ head overflow, gather 0 literal.whole = (head, overflow) :=
    ⟨_, _, rfl⟩
  obtain ⟨taken, whole, rfl⟩ := (@gather_eq_iff [] _ _ (by decide) _).mp first
  obtain ⟨significand, dropped, second⟩ : ∃ significand dropped,
      gather (ofDigits taken) literal.fraction = (significand, dropped) := ⟨_, _, rfl⟩
  obtain ⟨taken', fraction, rfl⟩ := (gather_eq_iff whole.fits).mp second
  have count : literal.fraction.length - dropped.length = taken'.length := by
    rw [fraction.split, List.length_append, Nat.add_sub_cancel]
  have scaled (exponent : Int) (y : Float) := @scale_eq_some_iff _ exponent y fraction.fits
  simp only [toFloat?, first, List.nil_append, second, count, Option.map_eq_some_iff]
  constructor
  · rintro ⟨magnitude, scales, rfl⟩
    exact ⟨_, _, magnitude, .mk whole fraction, (scaled _ _).mp scales, rfl⟩
  · rintro ⟨_, _, magnitude, ⟨whole', fraction'⟩, scales, rfl⟩
    obtain ⟨rfl, rfl⟩ := whole.unique whole'
    obtain ⟨rfl, rfl⟩ := fraction.unique fraction'
    exact ⟨magnitude, (scaled _ _).mpr scales, rfl⟩

theorem toInteger?_eq_some_iff {literal : Numeral} {n : Int} :
    literal.toInteger? = some n ↔ literal.IsWhole n := by
  have size : UInt64.size = 2 ^ 64 := rfl
  have half : 2 ^ 64 / 2 = 2 ^ 63 := rfl
  simp only [toInteger?, size, half, Bool.and_eq_true, List.isEmpty_iff, Option.isNone_iff_eq_none]
  constructor
  · intro given
    split_ifs at given with plain sign fits fits
    · cases given
      exact .negative plain sign fits
    · cases given
      exact .natural plain (Bool.eq_false_iff.mpr sign) fits
  · intro whole
    cases whole with
    | natural plain sign fits => rw [if_pos plain, if_neg (by simp [sign]), if_pos fits]
    | negative plain sign fits => rw [if_pos plain, if_pos sign, if_pos fits]

theorem value?_eq_some_iff {literal : Numeral} {number : Number} :
    literal.value? = some number ↔ literal.Denotes number := by
  cases found : literal.toInteger? with
  | some n =>
      have whole := toInteger?_eq_some_iff.mp found
      simp only [value?, found, Option.some.injEq]
      constructor
      · rintro rfl
        exact .whole whole
      · rintro (own | ⟨other, -⟩)
        · rw [Option.some.inj (found.symm.trans (toInteger?_eq_some_iff.mpr own))]
        · exact absurd whole (other n)
  | none =>
      have other (n : Int) : ¬ literal.IsWhole n := fun own => by
        cases found.symm.trans (toInteger?_eq_some_iff.mpr own)
      simp only [value?, found, Option.map_eq_some_iff, toFloat?_eq_some_iff]
      constructor
      · rintro ⟨x, computed, rfl⟩
        exact .real other computed
      · rintro (own | ⟨-, computed⟩)
        · exact absurd own (other _)
        · exact ⟨_, computed, rfl⟩

end FeatureFlags.Json.Numeral
