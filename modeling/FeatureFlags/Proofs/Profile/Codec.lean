import FeatureFlags.Profile
import FeatureFlags.Proofs.Dict

/-!
Stored profiles read back as the profiles that were written, and a profile that is saved is the one
that is found.
-/

namespace FeatureFlags
namespace UserProfile

theorem storedVariation?_storeVariation (id : String) :
    storedVariation? (storeVariation id) = some id := by
  simp [storedVariation?, storeVariation, Json.member?, Json.string?]

private theorem readEntries_writeEntries (pairs : List (String × String)) :
    (pairs.map fun entry => (entry.1, storeVariation entry.2)).mapM
      (fun entry => (storedVariation? entry.2).bind fun id => pure (entry.1, id)) =
        some pairs := by
  induction pairs with
  | nil => rfl
  | cons first rest ih =>
      rw [List.map_cons, List.mapM_cons, ih, storedVariation?_storeVariation]
      rfl

theorem toStored_userId (profile : UserProfile) :
    profile.toStored["user_id"]? = some (.string profile.userId) := by
  simp only [toStored, Dict.ofPairs, List.foldl_cons, List.foldl_nil]
  rw [Std.ExtTreeMap.getElem?_insert, if_neg (by decide)]
  exact Std.ExtTreeMap.getElem?_insert_self

theorem toStored_variations (profile : UserProfile) :
    profile.toStored["experiment_bucket_map"]? =
      some (.object (profile.variations.toList.map fun entry =>
        (entry.1, storeVariation entry.2))) := by
  simp only [toStored, Dict.ofPairs, List.foldl_cons, List.foldl_nil]
  exact Std.ExtTreeMap.getElem?_insert_self

/-- Reading undoes writing. -/
theorem ofStored?_toStored (profile : UserProfile) : ofStored? profile.toStored = some profile := by
  simp only [ofStored?, toStored_userId, toStored_variations, Option.bind_eq_bind, Option.bind_some,
    Json.string?, Json.members?, readEntries_writeEntries, Dict.ofPairs_toList]
  rfl

theorem remember_userId (profile : UserProfile) (experimentId id : String) :
    (profile.remember experimentId id).userId = profile.userId := rfl

theorem remember_variations_self (profile : UserProfile) (experimentId id : String) :
    (profile.remember experimentId id).variations[experimentId]? = some id := by
  simp [remember]

theorem remember_variations_of_ne (profile : UserProfile) {experimentId other : String}
    (id : String) (different : experimentId ≠ other) :
    (profile.remember experimentId id).variations[other]? = profile.variations[other]? := by
  simp [remember, Std.ExtTreeMap.getElem?_insert, different]

end UserProfile
end FeatureFlags
