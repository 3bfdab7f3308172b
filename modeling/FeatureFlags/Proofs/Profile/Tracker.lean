import FeatureFlags.Profile.Tracker
import FeatureFlags.Proofs.Profile.Codec

/-!
What a tracker does, told by the profile that it stands for: the loaded one, or the one that the
store would give if it was loaded now. Looking at a profile only ever adds a single lookup, and
saving touches the store only if a variation was added.
-/

namespace FeatureFlags

/-- The variation that a profile names for an experiment, if the experiment still has it. -/
def UserProfile.variationOf? (profile : UserProfile) (experiment : Experiment) :
    Option Variation :=
  (profile.variations[experiment.id]?).bind experiment.variationById?

theorem UserProfile.variationOf?_remember_of_ne (profile : UserProfile) {experimentId : String}
    (id : String) {experiment : Experiment} (different : experimentId ≠ experiment.id) :
    (profile.remember experimentId id).variationOf? experiment =
      profile.variationOf? experiment := by
  rw [variationOf?, remember_variations_of_ne profile id different, variationOf?]

namespace ProfileStore

/-- The profile that a call finds for a user. A missing or unusable one counts as empty. -/
def profileOf (store : ProfileStore) (userId : String) : UserProfile :=
  match store.lookup userId with
  | .ok (some stored) => (UserProfile.ofStored? stored).getD { userId }
  | .ok none | .error _ => { userId }

/-- The store with a profile put under the user id that it names. -/
def put (store : ProfileStore) (profile : UserProfile) : ProfileStore :=
  { store with profiles := store.profiles.insert profile.userId profile.toStored }

/-- A store that answers every call. -/
structure InMemory (store : ProfileStore) : Prop where
  lookups : store.lookupFault = none
  saves : store.saveFault = none

theorem InMemory.put {store : ProfileStore} (inMemory : store.InMemory) (profile : UserProfile) :
    (store.put profile).InMemory :=
  ⟨inMemory.lookups, inMemory.saves⟩

theorem InMemory.lookup_eq {store : ProfileStore} (inMemory : store.InMemory) (userId : String) :
    store.lookup userId = .ok store.profiles[userId]? := by
  rw [lookup, inMemory.lookups]

/-- The profile that is stored for a user, if it can be read, names that user. -/
def Filed (store : ProfileStore) (userId : String) : Prop :=
  ∀ stored profile, store.profiles[userId]? = some stored →
    UserProfile.ofStored? stored = some profile → profile.userId = userId

theorem Filed.profileOf_userId {store : ProfileStore} {userId : String}
    (filed : store.Filed userId) : (store.profileOf userId).userId = userId := by
  simp only [profileOf, lookup]
  cases store.lookupFault with
  | some fault => rfl
  | none =>
      cases found : store.profiles[userId]? with
      | none => rfl
      | some stored =>
          cases read : UserProfile.ofStored? stored with
          | none => simp [read]
          | some profile => simpa [read] using filed stored profile found read

theorem profiles_put_self (store : ProfileStore) (profile : UserProfile) :
    (store.put profile).profiles[profile.userId]? = some profile.toStored :=
  Std.ExtTreeMap.getElem?_insert_self

theorem profiles_put_of_ne (store : ProfileStore) (profile : UserProfile) {userId : String}
    (different : profile.userId ≠ userId) :
    (store.put profile).profiles[userId]? = store.profiles[userId]? := by
  simp [put, Std.ExtTreeMap.getElem?_insert, different]

theorem Filed.put {store : ProfileStore} {userId : String} (filed : store.Filed userId)
    (profile : UserProfile) : (store.put profile).Filed userId := by
  intro stored found stands reads
  by_cases same : profile.userId = userId
  · rw [← same, profiles_put_self] at stands
    cases stands
    rw [UserProfile.ofStored?_toStored] at reads
    cases reads
    exact same
  · rw [profiles_put_of_ne store profile same] at stands
    exact filed stored found stands reads

theorem profileOf_put {store : ProfileStore} (inMemory : store.InMemory) (profile : UserProfile) :
    (store.put profile).profileOf profile.userId = profile := by
  rw [profileOf, (inMemory.put profile).lookup_eq, profiles_put_self]
  simp [UserProfile.ofStored?_toStored]

/-- Of two profiles of one user, the one that is put last is what the store holds. -/
theorem put_put (store : ProfileStore) {first second : UserProfile}
    (same : first.userId = second.userId) : (store.put first).put second = store.put second := by
  have overwritten : (store.profiles.insert first.userId first.toStored).insert second.userId
      second.toStored = store.profiles.insert second.userId second.toStored := by
    apply Std.ExtTreeMap.ext_getElem?
    intro key
    simp only [Std.ExtTreeMap.getElem?_insert, same]
    split <;> rfl
  simp only [put, overwritten]

end ProfileStore

namespace Tracker
variable (store : ProfileStore) (userId : String)

/-- The profile that a tracker stands for. -/
def profile : Tracker → UserProfile
  | idle => store.profileOf userId
  | loaded profile | changed profile => profile

/-- The tracker once the profile is there. -/
def opened : Tracker → Tracker
  | idle => loaded (store.profileOf userId)
  | loaded profile => loaded profile
  | changed profile => changed profile

/-- The lookup that has to be made before the profile is there. -/
def lookups : Tracker → List Event
  | idle => [.lookedUp userId]
  | loaded _ | changed _ => []

@[simp] theorem profile_opened (tracker : Tracker) :
    (tracker.opened store userId).profile store userId = tracker.profile store userId := by
  cases tracker <;> rfl

@[simp] theorem lookups_opened (tracker : Tracker) :
    (tracker.opened store userId).lookups userId = [] := by
  cases tracker <;> rfl

theorem value_fetch : (fetch store userId).value = store.profileOf userId := by
  simp only [fetch, Traced.value_bind, ProfileStore.profileOf]
  cases store.lookup userId with
  | error fault => rfl
  | ok found =>
      cases found with
      | none => rfl
      | some stored => cases read : UserProfile.ofStored? stored <;> simp [read]

theorem events_fetch : (fetch store userId).events = [.lookedUp userId] := by
  simp only [fetch, Traced.events_bind, Traced.events_emit]
  cases store.lookup userId with
  | error fault => rfl
  | ok found =>
      cases found with
      | none => rfl
      | some stored => cases read : UserProfile.ofStored? stored <;> simp [read]

@[simp] theorem value_load (tracker : Tracker) :
    (tracker.load store userId).value =
      (tracker.profile store userId, tracker.opened store userId) := by
  cases tracker with
  | idle => simp only [load, Traced.value_bind, Traced.value_pure, value_fetch, profile, opened]
  | loaded _ | changed _ => rfl

@[simp] theorem events_load (tracker : Tracker) :
    (tracker.load store userId).events = tracker.lookups userId := by
  cases tracker with
  | idle => simp [load, events_fetch, lookups]
  | loaded _ | changed _ => rfl

@[simp] theorem value_storedVariation (experiment : Experiment) (tracker : Tracker) :
    (tracker.storedVariation store userId experiment).value =
      ((tracker.profile store userId).variationOf? experiment, tracker.opened store userId) := by
  simp only [storedVariation, Traced.value_bind, value_load, UserProfile.variationOf?]
  cases (tracker.profile store userId).variations[experiment.id]? with
  | none => rfl
  | some id => cases named : experiment.variationById? id <;> simp [named]

@[simp] theorem events_storedVariation (experiment : Experiment) (tracker : Tracker) :
    (tracker.storedVariation store userId experiment).events = tracker.lookups userId := by
  simp only [storedVariation, Traced.events_bind, value_load, events_load]
  cases (tracker.profile store userId).variations[experiment.id]? with
  | none => simp
  | some id => cases named : experiment.variationById? id <;> simp [named]

@[simp] theorem value_update (experiment : Experiment) (variation : Variation)
    (tracker : Tracker) :
    (tracker.update store userId experiment variation).value =
      changed ((tracker.profile store userId).remember experiment.id variation.id) := by
  simp [update]

@[simp] theorem events_update (experiment : Experiment) (variation : Variation)
    (tracker : Tracker) :
    (tracker.update store userId experiment variation).events = tracker.lookups userId := by
  simp [update]

/-- Whether a variation was added. -/
def isChanged : Tracker → Bool
  | changed _ => true
  | idle | loaded _ => false

@[simp] theorem isChanged_opened (tracker : Tracker) :
    (tracker.opened store userId).isChanged = tracker.isChanged := by
  cases tracker <;> rfl

theorem finish_of_unchanged {tracker : Tracker} (unchanged : tracker.isChanged = false) :
    tracker.finish store userId = pure store := by
  cases tracker with
  | idle | loaded _ => rfl
  | changed _ => cases unchanged

/-- The store that a tracker leaves behind. -/
def saved (store : ProfileStore) : Tracker → ProfileStore
  | changed profile => store.put profile
  | idle | loaded _ => store

theorem value_finish {store : ProfileStore} (inMemory : store.InMemory) (tracker : Tracker) :
    (tracker.finish store userId).value = tracker.saved store := by
  cases tracker with
  | idle | loaded _ => rfl
  | changed profile =>
      have saving : store.save profile = .ok (store.put profile) := by
        simp only [ProfileStore.save, ProfileStore.put, inMemory.saves]
      simp [finish, saving, saved]

theorem saved_opened (store : ProfileStore) (tracker : Tracker) :
    (tracker.opened store userId).saved store = tracker.saved store := by
  cases tracker <;> rfl

end Tracker
end FeatureFlags
