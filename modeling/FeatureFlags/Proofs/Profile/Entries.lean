import FeatureFlags.Proofs.Profile.Tracker

/-!
Single entries of stored profiles. An entry can be told by itself, whatever else is in the profile;
a profile that can be read as a whole has the same entries.
-/

namespace FeatureFlags

/-- The variation id that a stored profile has for an experiment. Of several entries with one key
the last one counts. -/
def StoredProfile.variationId? (stored : StoredProfile) (experimentId : String) :
    Option String := do
  let entries ← (← stored["experiment_bucket_map"]?).members?
  UserProfile.storedVariation? (← (Dict.ofPairs entries)[experimentId]?)

theorem UserProfile.variationId?_of_ofStored? {stored : StoredProfile} {profile : UserProfile}
    (reads : ofStored? stored = some profile) (experimentId : String) :
    stored.variationId? experimentId = profile.variations[experimentId]? := by
  obtain ⟨_, _, reads⟩ := Option.bind_eq_some_iff.mp reads
  obtain ⟨userId, _, reads⟩ := Option.bind_eq_some_iff.mp reads
  obtain ⟨bucketMap, listed, reads⟩ := Option.bind_eq_some_iff.mp reads
  obtain ⟨entries, members, reads⟩ := Option.bind_eq_some_iff.mp reads
  obtain ⟨pairs, named, reads⟩ := Option.bind_eq_some_iff.mp reads
  cases reads
  simp only [StoredProfile.variationId?, listed, members, Option.bind_eq_bind, Option.bind_some]
  exact (Dict.getElem?_ofPairs_of_mapM named experimentId).symm

theorem UserProfile.variationId?_toStored (profile : UserProfile) (experimentId : String) :
    profile.toStored.variationId? experimentId = profile.variations[experimentId]? :=
  variationId?_of_ofStored? (ofStored?_toStored profile) experimentId

namespace ProfileStore

/-- The variation id that the store has for a user and an experiment. -/
def variationId? (store : ProfileStore) (userId experimentId : String) : Option String :=
  store.profiles[userId]?.bind (·.variationId? experimentId)

/-- A lookup for the user succeeds, and what it finds, if anything, can be read. -/
def Readable (store : ProfileStore) (userId : String) : Prop :=
  store.lookupFault = none ∧ ∀ stored, store.profiles[userId]? = some stored →
    (UserProfile.ofStored? stored).isSome

theorem Readable.variationId?_eq {store : ProfileStore} {userId : String}
    (readable : store.Readable userId) (experimentId : String) :
    store.variationId? userId experimentId =
      (store.profileOf userId).variations[experimentId]? := by
  obtain ⟨lookups, reads⟩ := readable
  simp only [variationId?, profileOf, lookup, lookups]
  cases found : store.profiles[userId]? with
  | none => simp
  | some stored =>
      obtain ⟨profile, read⟩ := Option.isSome_iff_exists.mp (reads stored found)
      simp [read, UserProfile.variationId?_of_ofStored? read]

theorem profileOf_of_not_readable {store : ProfileStore} {userId : String}
    (unreadable : ¬ store.Readable userId) : store.profileOf userId = { userId } := by
  simp only [profileOf, lookup]
  cases lookups : store.lookupFault with
  | some fault => rfl
  | none =>
      cases found : store.profiles[userId]? with
      | none => rfl
      | some stored =>
          cases read : UserProfile.ofStored? stored with
          | none => simp [read]
          | some profile =>
              refine absurd ⟨lookups, fun other same => ?_⟩ unreadable
              cases found.symm.trans same
              rw [read, Option.isSome_some]

end ProfileStore
end FeatureFlags
