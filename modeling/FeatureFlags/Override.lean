import FeatureFlags.Project.Model
import FeatureFlags.Traced

/-!
Overrides: variations set by hand for one user in one experiment. They come before every computed
decision.
-/

namespace FeatureFlags

structure OverrideKey where
  userId : String
  experimentId : String
  deriving DecidableEq, Repr

namespace OverrideKey

/-- By the user, then by the experiment. -/
instance : Ord OverrideKey where
  compare := compareLex (compareOn userId) (compareOn experimentId)

instance : Std.TransOrd OverrideKey :=
  inferInstanceAs (Std.TransCmp (compareLex (compareOn userId) (compareOn experimentId)))

instance : Std.LawfulEqOrd OverrideKey where
  eq_of_compare {a b} h := by
    have h : (compare a.userId b.userId).then (compare a.experimentId b.experimentId) = .eq := h
    obtain ⟨hu, he⟩ := Ordering.then_eq_eq.1 h
    cases a
    cases b
    simp_all

end OverrideKey

structure OverrideTable where
  entries : Std.ExtTreeMap OverrideKey String := ∅

namespace OverrideTable

def size (table : OverrideTable) : Nat := table.entries.size

def isEmpty (table : OverrideTable) : Bool := table.entries.isEmpty

/-- The variation id set for a user. The empty user id has no overrides. -/
def variationId? (table : OverrideTable) (experiment : Experiment) (userId : String) :
    Option String :=
  if userId.isEmpty then none else table.entries[OverrideKey.mk userId experiment.id]?

/-- Override the variation of a user, or drop the override when no key is given. Refused, without
a change, for the empty user id and for a key that names no variation of the experiment. -/
def set (table : OverrideTable) (experiment : Experiment) (userId : String)
    (variationKey : Option String) : Bool × OverrideTable :=
  let key : OverrideKey := { userId, experimentId := experiment.id }
  if userId.isEmpty then (false, table)
  else
    match variationKey with
    | none => (true, { entries := table.entries.erase key })
    | some variationKey =>
      match experiment.variationByKey? variationKey with
      | none => (false, table)
      | some variation => (true, { entries := table.entries.insert key variation.id })

/-- The overriding variation of a user, if the experiment still has it. -/
def get (table : OverrideTable) (experiment : Experiment) (userId : String) :
    Traced (Option Variation) :=
  match table.variationId? experiment userId with
  | none => return none
  | some id =>
    match experiment.variationById? id with
    | some variation => do
      let place := s!"experiment \"{experiment.key}\" and user \"{userId}\""
      Traced.info
        s!"Variation \"{variation.key}\" is mapped to {place} in the forced variation map"
      return some variation
    | none => do
      let place := s!"experiment \"{experiment.key}\" for user \"{userId}\""
      Traced.error s!"Overridden variation \"{id}\" of {place} is no longer in the datafile."
      return none

end OverrideTable
end FeatureFlags
