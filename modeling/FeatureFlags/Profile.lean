import FeatureFlags.Dict
import FeatureFlags.Json.Basic

/-!
User profiles: the variations that a user was given before. A profile is stored as a JSON object
with the user id and, for each experiment id, an object that names the variation. Stored data is
checked before it is used, and one malformed entry spoils the whole profile.
-/

namespace FeatureFlags

abbrev StoredProfile := Dict Json

def StoredProfile.toJson (stored : StoredProfile) : Json := .object stored.toList

structure UserProfile where
  userId : String
  /-- Variation ids by experiment id. -/
  variations : Dict String := ∅
  deriving DecidableEq

namespace UserProfile

def storedVariation? (entry : Json) : Option String := do
  (← entry.member? "variation_id").string?

def storeVariation (variationId : String) : Json :=
  .object [("variation_id", .string variationId)]

def ofStored? (stored : StoredProfile) : Option UserProfile := do
  let userId ← (← stored["user_id"]?).string?
  let entries ← (← stored["experiment_bucket_map"]?).members?
  let pairs ← entries.mapM fun (experimentId, entry) => do
    return (experimentId, ← storedVariation? entry)
  return { userId, variations := Dict.ofPairs pairs }

def toStored (profile : UserProfile) : StoredProfile :=
  Dict.ofPairs [
    ("user_id", .string profile.userId),
    ("experiment_bucket_map", .object (profile.variations.toList.map fun (experimentId, id) =>
      (experimentId, storeVariation id)))]

def remember (profile : UserProfile) (experimentId variationId : String) : UserProfile :=
  { profile with variations := profile.variations.insert experimentId variationId }

end UserProfile

/-- Stored profiles by user id. A fault, while there is one, is the answer to every call of its
kind. -/
structure ProfileStore where
  profiles : Dict StoredProfile := ∅
  lookupFault : Option String := none
  saveFault : Option String := none

namespace ProfileStore

def lookup (store : ProfileStore) (userId : String) : Except String (Option StoredProfile) :=
  match store.lookupFault with
  | some fault => .error fault
  | none => .ok store.profiles[userId]?

def save (store : ProfileStore) (profile : UserProfile) : Except String ProfileStore :=
  match store.saveFault with
  | some fault => .error fault
  | none => .ok { store with profiles := store.profiles.insert profile.userId profile.toStored }

end ProfileStore
end FeatureFlags
