import FeatureFlags.Attribute
import FeatureFlags.Traced

/-!
The user a decision is made for, with attributes and forced decisions. A forced decision holds for
a whole flag or for one of its rules.
-/

namespace FeatureFlags

/-- A flag, or one of its rules. -/
structure DecisionScope where
  flagKey : String
  ruleKey : Option String := none
  deriving DecidableEq, Repr

namespace DecisionScope

/-- By the flag, then by the rule. -/
instance : Ord DecisionScope where
  compare := compareLex (compareOn flagKey) (compareOn ruleKey)

instance : Std.TransOrd DecisionScope :=
  inferInstanceAs (Std.TransCmp (compareLex (compareOn flagKey) (compareOn ruleKey)))

instance : Std.LawfulEqOrd DecisionScope where
  eq_of_compare {a b} h := by
    have h : (compare a.flagKey b.flagKey).then (compare a.ruleKey b.ruleKey) = .eq := h
    obtain ⟨hf, hr⟩ := Ordering.then_eq_eq.1 h
    cases a
    cases b
    simp_all

end DecisionScope

structure User where
  id : String
  attributes : Attributes := ∅
  /-- The keys of the variations that are forced. -/
  forced : Std.ExtTreeMap DecisionScope String := ∅

namespace User

def force (user : User) (scope : DecisionScope) (variationKey : String) : User :=
  { user with forced := user.forced.insert scope variationKey }

def unforce (user : User) (scope : DecisionScope) : User :=
  { user with forced := user.forced.erase scope }

def unforceAll (user : User) : User := { user with forced := ∅ }

def forced? (user : User) (scope : DecisionScope) : Option String := user.forced[scope]?

/-- The identity that is hashed: the reserved attribute if it is a string, else the user id. -/
def bucketingId (user : User) : Traced String :=
  match user.attributes[Attributes.bucketingId]? with
  | some (.string id) => return id
  | none | some .null => return user.id
  | some _ => do
    Traced.warn "BucketingID attribute is not a string. Defaulted to userId"
    return user.id

end User
end FeatureFlags
