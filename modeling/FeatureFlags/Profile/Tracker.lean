import FeatureFlags.Profile
import FeatureFlags.Project.Model
import FeatureFlags.Traced

/-!
The profile of one user during one call. It is loaded when it is first needed, at most once, and
saved at the end, only if a variation was added.
-/

namespace FeatureFlags

inductive Tracker where
  /-- The profile was not needed so far. -/
  | idle
  | loaded (profile : UserProfile)
  /-- A variation was added. -/
  | changed (profile : UserProfile)

namespace Tracker

/-- The stored profile of a user. A missing or unusable one counts as empty. -/
def fetch (store : ProfileStore) (userId : String) : Traced UserProfile := do
  Traced.emit (.lookedUp userId)
  match store.lookup userId with
  | .ok none =>
    Traced.info "We were unable to get a user profile map from the UserProfileService."
    return { userId }
  | .ok (some stored) =>
    match UserProfile.ofStored? stored with
    | some profile => return profile
    | none =>
      Traced.warn "The UserProfileService returned an invalid map."
      return { userId }
  | .error fault =>
    Traced.error s!"Failed to look up the user profile of user \"{userId}\": {fault}"
    return { userId }

/-- The profile, and the tracker once the profile is there. -/
def load (store : ProfileStore) (userId : String) : Tracker → Traced (UserProfile × Tracker)
  | idle => do
    let profile ← fetch store userId
    return (profile, loaded profile)
  | loaded profile => return (profile, loaded profile)
  | changed profile => return (profile, changed profile)

/-- The stored variation of an experiment, if the experiment still has it. -/
def storedVariation (store : ProfileStore) (userId : String) (experiment : Experiment)
    (tracker : Tracker) : Traced (Option Variation × Tracker) := do
  let (profile, tracker) ← tracker.load store userId
  match profile.variations[experiment.id]? with
  | none =>
    let place := s!"experiment \"{experiment.key}\" for user \"{userId}\""
    Traced.info s!"No previously activated variation of {place} found in user profile."
    return (none, tracker)
  | some id =>
    match experiment.variationById? id with
    | some variation =>
      let found := s!"previously activated variation \"{variation.key}\""
      let place := s!"experiment \"{experiment.key}\" for user \"{userId}\""
      Traced.info s!"Returning {found} of {place} from user profile."
      return (some variation, tracker)
    | none =>
      let past := s!"was previously bucketed into variation with ID \"{id}\""
      let place := s!"for experiment \"{experiment.key}\""
      let outcome := "but no matching variation was found for that user."
      Traced.info s!"User \"{userId}\" {past} {place}, {outcome} We will re-bucket the user."
      return (none, tracker)

def update (store : ProfileStore) (userId : String) (experiment : Experiment)
    (variation : Variation) (tracker : Tracker) : Traced Tracker := do
  let (profile, _) ← tracker.load store userId
  return changed (profile.remember experiment.id variation.id)

/-- Save the profile if it has changed. The store stays as it is if that fails. -/
def finish (store : ProfileStore) (userId : String) : Tracker → Traced ProfileStore
  | changed profile => do
    Traced.emit (.saved profile.toStored)
    match store.save profile with
    | .ok store => return store
    | .error fault =>
      Traced.error s!"Failed to save the user profile of user \"{userId}\": {fault}"
      return store
  | idle | loaded _ => return store

end Tracker
end FeatureFlags
