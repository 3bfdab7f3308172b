import FeatureFlags.Bandit.Service
import FeatureFlags.Proofs.Attribute

/-!
What the hash of attributes tells. Hashes that agree belong to attributes that are alike, unless two
different texts collide. Nothing collides with no attributes at all, whose hash has no digits.
-/

namespace FeatureFlags.Bandit

/-- Two different texts with the same hash. -/
def Collide (first second : Attributes) : Prop :=
  first.toJson.render ≠ second.toJson.render ∧
    Murmur3.hash 0 first.toJson.render = Murmur3.hash 0 second.toJson.render

private theorem empty_ne_digits (n : Nat) : "empty" ≠ String.ofList (Nat.toDigits 16 n) := by
  intro same
  have listed : 'm' ∈ Nat.toDigits 16 n := by
    rw [← String.toList_ofList (l := Nat.toDigits 16 n), ← same]
    decide
  obtain ⟨digit, small, same⟩ := Text.exists_digit_of_mem (by decide) listed
  revert digit
  decide

theorem alike_or_collide {first second : Attributes}
    (same : hashAttributes first = hashAttributes second) :
    first.Alike second ∨ Collide first second := by
  unfold hashAttributes at same
  cases firstEmpty : first.isEmpty <;> cases secondEmpty : second.isEmpty <;>
    simp only [firstEmpty, secondEmpty, if_true, Bool.false_eq_true, if_false] at same
  · have hashes := UInt32.toNat_inj.mp (Text.toDigits_inj (by decide) (by decide)
      (String.ofList_inj.mp same))
    by_cases texts : first.toJson.render = second.toJson.render
    · exact .inl (Attributes.alike_of_render texts)
    · exact .inr ⟨texts, hashes⟩
  · exact absurd same.symm (empty_ne_digits _)
  · exact absurd same (empty_ne_digits _)
  · rw [Std.ExtTreeMap.isEmpty_iff.mp firstEmpty, Std.ExtTreeMap.isEmpty_iff.mp secondEmpty]
    exact .inl fun _ => rfl

example : Collide (Dict.ofPairs [("age", .string "32768")])
    (Dict.ofPairs [("age", .string "114500")]) :=
  ⟨by decide, rfl⟩

end FeatureFlags.Bandit
