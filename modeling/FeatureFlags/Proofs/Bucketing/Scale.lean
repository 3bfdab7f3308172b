import FeatureFlags.Proofs.Bucketing.Eligibility
import Mathlib.Algebra.Order.Floor.Semifield
import Mathlib.Data.Rat.Floor
import Mathlib.Data.Set.Card
import Mathlib.Order.Interval.Finset.Nat

/-!
The scale of bucket values. Hashes are mapped to them in order and exactly, in words of 64 bits as
well as in natural numbers, and as evenly as the number of hashes allows. No value reaches the end
of full traffic, so everyone is in it.
-/

namespace FeatureFlags
namespace Sharder

/-- The scale in machine words: the upper half of a product of 64 bits. -/
def scaleInWords (hash : UInt32) : UInt32 :=
  ((hash.toUInt64 * UInt64.ofNat maxTraffic) >>> 32).toUInt32

/-- The least hash of a bucket value. -/
def firstHash (bucket : Nat) : Nat := (bucket * UInt32.size + (maxTraffic - 1)) / maxTraffic

/-- The hashes of a bucket value. -/
def hashesOf (bucket : Nat) : Set UInt32 := { hash | scale hash = bucket }

theorem scale_lt (hash : UInt32) : scale hash < maxTraffic := by
  have bound : hash.toNat < UInt32.size := hash.toNat_lt
  simp only [scale, maxTraffic, UInt32.size] at *
  omega

theorem scale_mono {hash hash' : UInt32} (le : hash ≤ hash') : scale hash ≤ scale hash' :=
  Nat.div_le_div_right (Nat.mul_le_mul_left maxTraffic (UInt32.le_iff_toNat_le.mp le))

theorem scale_eq_floor (hash : UInt32) :
    scale hash = ⌊((maxTraffic * hash.toNat : Nat) : ℚ) / (UInt32.size : Nat)⌋₊ :=
  (Nat.floor_div_eq_div _ _).symm

/-- The product does not overflow. -/
theorem toNat_product (hash : UInt32) :
    (hash.toUInt64 * UInt64.ofNat maxTraffic).toNat = maxTraffic * hash.toNat := by
  have bound : hash.toNat < UInt32.size := hash.toNat_lt
  have room : hash.toNat * maxTraffic < UInt64.size := by
    simp only [maxTraffic, UInt32.size, UInt64.size] at *
    omega
  rw [UInt64.toNat_mul, UInt32.toNat_toUInt64, Nat.mul_comm maxTraffic]
  exact Nat.mod_eq_of_lt room

/-- Nor does its upper half, when it is cut to a word. -/
theorem toNat_scaleInWords (hash : UInt32) : (scaleInWords hash).toNat = scale hash := by
  have room : scale hash < UInt32.size := Nat.lt_trans (scale_lt hash) (by decide)
  rw [scaleInWords, UInt64.toNat_toUInt32, UInt64.toNat_shiftRight, toNat_product,
    Nat.shiftRight_eq_div_pow]
  exact Nat.mod_eq_of_lt room

theorem scale_eq_iff (hash : UInt32) (bucket : Nat) :
    scale hash = bucket ↔ firstHash bucket ≤ hash.toNat ∧ hash.toNat < firstHash (bucket + 1) := by
  simp only [scale, firstHash, maxTraffic, UInt32.size]
  omega

/-- The hashes of a bucket value are an interval. -/
theorem image_hashesOf {bucket : Nat} (below : bucket < maxTraffic) :
    UInt32.toNat '' hashesOf bucket = Finset.Ico (firstHash bucket) (firstHash (bucket + 1)) := by
  ext number
  rw [Finset.mem_coe, Finset.mem_Ico, Set.mem_image]
  constructor
  · rintro ⟨hash, scaled, rfl⟩
    exact (scale_eq_iff hash bucket).mp scaled
  · intro between
    have fits : number < UInt32.size := by
      simp only [firstHash, maxTraffic, UInt32.size] at *
      omega
    have same : (UInt32.ofNat number).toNat = number := UInt32.toNat_ofNat_of_lt' fits
    exact ⟨UInt32.ofNat number, (scale_eq_iff _ bucket).mpr (same.symm ▸ between), same⟩

theorem ncard_hashesOf {bucket : Nat} (below : bucket < maxTraffic) :
    (hashesOf bucket).ncard = firstHash (bucket + 1) - firstHash bucket := by
  have injective : Function.Injective UInt32.toNat := fun _ _ => UInt32.toNat_inj.mp
  rw [← Set.ncard_image_of_injective _ injective, image_hashesOf below, Set.ncard_coe_finset,
    Nat.card_Ico]

/-- Every bucket value has as many hashes as any other, or one more. -/
theorem ncard_hashesOf_eq {bucket : Nat} (below : bucket < maxTraffic) :
    (hashesOf bucket).ncard = 429496 ∨ (hashesOf bucket).ncard = 429497 := by
  rw [ncard_hashesOf below]
  simp only [firstHash, maxTraffic, UInt32.size] at *
  omega

end Sharder

namespace TrafficAllocation

/-- A bucket value below some end is decided by an entry. -/
theorem exists_deciding_of_mem {allocations : List TrafficAllocation} {entry : TrafficAllocation}
    (member : entry ∈ allocations) {value : Nat} (below : value < entry.endOfRange) :
    ∃ decides ∈ allocations, deciding? value allocations = some decides ∧
      allocate value allocations = decides.entity? := by
  have decided : (deciding? value allocations).isSome :=
    List.find?_isSome.mpr ⟨entry, member, decide_eq_true below⟩
  obtain ⟨decides, found⟩ := Option.isSome_iff_exists.mp decided
  refine ⟨decides, List.mem_of_find?_eq_some found, found, ?_⟩
  rw [allocate_eq, found, Option.bind_some]

end TrafficAllocation

namespace Bucketing
open Sharder TrafficAllocation

/-- Hashes are scaled exactly, in order and evenly, to the values below the end of full traffic. So
whatever the key, an allocation up to that end has an entry that decides, and a bandit with that
share of traffic gets everyone whom the group lets through. -/
theorem full_traffic_reaches_everyone :
    (∀ key, murmur3 key = scale (Murmur3.hash 1 key)) ∧
    (∀ hash : UInt32,
      (hash.toUInt64 * UInt64.ofNat maxTraffic).toNat = maxTraffic * hash.toNat ∧
      (scaleInWords hash).toNat = scale hash ∧
      scale hash = ⌊((maxTraffic * hash.toNat : Nat) : ℚ) / (UInt32.size : Nat)⌋₊ ∧
      scale hash < maxTraffic) ∧
    (∀ hash hash' : UInt32, hash ≤ hash' → scale hash ≤ scale hash') ∧
    (∀ bucket < maxTraffic,
      (hashesOf bucket).ncard = 429496 ∨ (hashesOf bucket).ncard = 429497) ∧
    (∀ key allocations, ∀ entry ∈ allocations, maxTraffic ≤ entry.endOfRange →
      ∃ decides ∈ allocations, deciding? (murmur3 key) allocations = some decides ∧
        allocate (murmur3 key) allocations = decides.entity?) ∧
    ∀ config experiment bucketingId share, maxTraffic ≤ share →
      ((bucketForBandit murmur3 config experiment share bucketingId).value.isSome = true ↔
        (admittedByGroup murmur3 config experiment bucketingId).value = true) := by
  have below (key : String) {limit : Nat} (full : maxTraffic ≤ limit) : murmur3 key < limit :=
    Nat.lt_of_lt_of_le (scale_lt _) full
  refine ⟨fun _ => rfl, fun hash => ⟨toNat_product hash, toNat_scaleInWords hash,
    scale_eq_floor hash, scale_lt hash⟩, fun _ _ => scale_mono, fun _ => ncard_hashesOf_eq, ?_, ?_⟩
  · intro key allocations entry member full
    exact exists_deciding_of_mem member (below key full)
  · intro config experiment bucketingId share full
    rw [isSome_bucketForBandit]
    exact and_iff_left (below _ full)

/-- The last bucket value is hashed to, and the last entry of an allocation gets it. -/
theorem full_traffic_reaches_last_value :
    let allocations : List TrafficAllocation := [⟨"a", 9999⟩, ⟨"b", 10000⟩]
    scale 0 ≤ scale 4294967295 ∧
      ((hashesOf 9999).ncard = 429496 ∨ (hashesOf 9999).ncard = 429497) ∧
      murmur3 "11003" = 9999 ∧ allocate (murmur3 "11003") allocations = some "b" ∧
      (∃ decides ∈ allocations, deciding? (murmur3 "11003") allocations = some decides ∧
        allocate (murmur3 "11003") allocations = decides.entity?) ∧
      (bucketForBandit murmur3 Sample.drawn Sample.entrant 10000 "user").value.isSome = true := by
  intro allocations
  obtain ⟨-, -, ordered, even, decided, eligible⟩ := full_traffic_reaches_everyone
  have value : murmur3 "11003" = 9999 := by decide
  have admitted : (admittedByGroup murmur3 Sample.drawn Sample.entrant "user").value = true := by
    rfl
  refine ⟨ordered 0 4294967295 (by decide), even 9999 (by decide), value, ?_, ?_, ?_⟩
  · rw [value]
    rfl
  · exact decided "11003" allocations ⟨"b", 10000⟩ (.tail _ (.head _)) (Nat.le_refl _)
  · exact (eligible Sample.drawn Sample.entrant "user" 10000 (Nat.le_refl _)).mpr admitted

end Bucketing
end FeatureFlags
