import FeatureFlags.Decimal.Layout
import FeatureFlags.Decimal.Reading
import Mathlib

/-!
Doubles by their bits: a sign and a magnitude of 63 bits. Only the two zeros have no magnitude, and
numbers have one below that of infinity.
-/

namespace FeatureFlags.Double
open Float.Model
open FloatText (infinity)

def IsNegative (x : Float) : Prop := x.toBits ≥ 0x8000000000000000

instance (x : Float) : Decidable (IsNegative x) :=
  inferInstanceAs (Decidable (x.toBits ≥ 0x8000000000000000))

def magnitude (x : Float) : Nat := x.toBits.toNat % 2 ^ 63

theorem eq_of_magnitude {x y : Float} (sign : IsNegative x ↔ IsNegative y)
    (same : magnitude x = magnitude y) : x = y := by
  apply Float.toBits_inj.mp
  have place : (0x8000000000000000 : UInt64).toNat = 2 ^ 63 := rfl
  simp only [IsNegative, ge_iff_le, UInt64.le_iff_toNat_le, place] at sign
  simp only [magnitude] at same
  have bound := x.toBits.toNat_lt
  have bound' := y.toBits.toNat_lt
  apply UInt64.toNat_inj.mp
  omega

/-- The zeros of either sign are the doubles that compare equal to zero. -/
theorem beq_zero_iff (x : Float) : (x == 0) = true ↔ magnitude x = 0 := by
  rw [Float.beq_iff_ne_nan_and_eq]
  constructor
  · rintro ⟨-, -, rfl | ⟨rfl, -⟩ | ⟨rfl, -⟩⟩ <;> rfl
  · intro zero
    have number : (0 : Float) ≠ Float.nan ∧ (-0 : Float) ≠ Float.nan := by decide
    by_cases negative : IsNegative x
    · have signed : IsNegative (-0) := by decide
      have own : x = -0 := eq_of_magnitude (by simp [negative, signed]) zero
      exact ⟨own ▸ number.2, number.1, .inr (.inr ⟨own, rfl⟩)⟩
    · have unsigned : ¬ IsNegative 0 := by decide
      have own : x = 0 := eq_of_magnitude (by simp [negative, unsigned]) zero
      exact ⟨own ▸ number.1, number.1, .inl own⟩

/-- The exponent of a bit pattern is full from infinity on. -/
theorem unpackExponent_eq_iff (bits : UInt64) :
    @UnpackedFloat.unpackExponent Format.binary64 bits.toBitVec = -1#_ ↔
      infinity ≤ bits.toNat % 2 ^ 63 := by
  rw [← BitVec.toNat_inj, UnpackedFloat.unpackExponent_def, BitVec.extractLsb'_toNat]
  simp [infinity, Nat.shiftRight_eq_div_pow]
  omega

theorem unpackMantissa_eq_iff (bits : UInt64) :
    @UnpackedFloat.unpackMantissa Format.binary64 bits.toBitVec = 0#_ ↔
      bits.toNat % 2 ^ 52 = 0 := by
  rw [← BitVec.toNat_inj, UnpackedFloat.unpackMantissa_def, BitVec.extractLsb'_toNat]
  simp

/-- The magnitudes below infinity are those of numbers. -/
theorem isFinite_iff (x : Float) : x.isFinite = true ↔ magnitude x < infinity := by
  have full := unpackExponent_eq_iff x.toBits
  change (UnpackedFloat.unpack Format.binary64 x.toBits.toBitVec).isFinite = true ↔ _
  rw [magnitude, ← not_le, ← full]
  simp only [UnpackedFloat.unpack]
  split_ifs with beyond
  · exact iff_of_false Bool.false_ne_true (not_not.mpr beyond)
  · exact iff_of_false Bool.false_ne_true (not_not.mpr beyond)
  all_goals exact iff_of_true rfl beyond

theorem toBits_ofBits {bits : UInt64} (number : bits.toNat % 2 ^ 63 ≤ infinity) :
    (Float.ofBits bits).toBits = bits := by
  apply UInt64.toBitVec_inj.mp
  change UnpackedFloat.pack Format.binary64 (UnpackedFloat.unpack Format.binary64 bits.toBitVec) = _
  rw [UnpackedFloat.pack_unpack, if_neg]
  intro undefined
  obtain ⟨full, some⟩ := of_decide_eq_true undefined
  have magnitude := (unpackExponent_eq_iff bits).mp full
  have remainder := mt (unpackMantissa_eq_iff bits).mpr some
  simp only [infinity, Nat.pow_eq] at *
  omega

theorem toNat_signed {m : Nat} (number : m ≤ infinity) (negative : Bool) :
    (FloatText.signed negative m).toBits.toNat = (if negative then 2 ^ 63 else 0) + m := by
  have small : m < 2 ^ 63 := by
    simp only [infinity, Nat.pow_eq] at number
    omega
  have bits : (UInt64.ofNat (if negative then Nat.pow 2 63 + m else m)).toNat =
      (if negative then 2 ^ 63 else 0) + m := by
    rw [UInt64.toNat_ofNat_of_lt' (by simp only [UInt64.size, Nat.pow_eq]; split <;> omega)]
    cases negative <;> simp
  rw [FloatText.signed, toBits_ofBits (by rw [bits]; split <;> omega), bits]

theorem magnitude_signed {m : Nat} (number : m ≤ infinity) (negative : Bool) :
    magnitude (FloatText.signed negative m) = m := by
  simp only [infinity, Nat.pow_eq] at number
  rw [magnitude, toNat_signed (by simpa [infinity] using number)]
  split <;> omega

theorem isNegative_signed {m : Nat} (number : m ≤ infinity) (negative : Bool) :
    IsNegative (FloatText.signed negative m) ↔ negative = true := by
  have place : (0x8000000000000000 : UInt64).toNat = 2 ^ 63 := rfl
  rw [IsNegative, ge_iff_le, UInt64.le_iff_toNat_le, place, toNat_signed number]
  simp only [infinity, Nat.pow_eq] at number
  cases negative
  · simp
    omega
  · simp

end FeatureFlags.Double
