import FeatureFlags.Bandit.Service
import FeatureFlags.Proofs.Text.Digits
import FeatureFlags.Proofs.Text.Splitting

/-!
Keys of cached choices. A user id may hold any characters, also those that hold the parts of a key
together; the length in front of it still says where it ends.
-/

namespace FeatureFlags.Bandit

private theorem toList_cacheKey (userId ruleId : String) :
    (cacheKey userId ruleId).toList =
      Nat.toDigits 10 userId.utf8ByteSize ++ '-' :: (userId ++ ("-" ++ ruleId)).toList := by
  change (toString userId.utf8ByteSize ++ "-" ++ userId ++ "-" ++ ruleId).toList = _
  simp

/-- No two users and rules share a key. -/
theorem cacheKey_inj {userId userId' ruleId ruleId' : String}
    (same : cacheKey userId ruleId = cacheKey userId' ruleId') :
    userId = userId' ∧ ruleId = ruleId' := by
  have lists := congrArg String.toList same
  rw [toList_cacheKey, toList_cacheKey] at lists
  obtain ⟨digits, -, rests⟩ := Text.append_cons_inj (fun c : Char => c.isDigit = true)
    (fun _ digit => Nat.isDigit_of_mem_toDigits (by decide) (by decide) digit)
    (fun _ digit => Nat.isDigit_of_mem_toDigits (by decide) (by decide) digit)
    (by decide) (by decide) lists
  have size : userId.utf8ByteSize = userId'.utf8ByteSize :=
    Text.toDigits_inj (by decide) (by decide) digits
  obtain ⟨users, rules⟩ := Text.append_inj_of_size size (String.toList_inj.mp rests)
  exact ⟨users, (String.append_right_inj "-").mp rules⟩

example : cacheKey "a-1" "b" ≠ cacheKey "a" "1-b" := by decide

end FeatureFlags.Bandit
