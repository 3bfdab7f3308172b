import FeatureFlags.Attribute

/-!
Contextual bandits: a remote service chooses the variation of an experiment for a user. A request
carries a correlation id, which tags everything that follows from the answer.
-/

namespace FeatureFlags.Bandit

structure Request where
  ruleId : String
  userId : String
  attributes : Attributes
  correlationId : String
  deriving DecidableEq

structure Choice where
  variationId : String
  correlationId : String
  deriving DecidableEq, Repr

inductive Failure where
  | fetchFailed (cause : String)
  | invalidResponse
  deriving DecidableEq, Repr

def Failure.message : Failure → String
  | fetchFailed cause => s!"failed to fetch CMAB decision: {cause}"
  | invalidResponse => "invalid CMAB response"

end FeatureFlags.Bandit
