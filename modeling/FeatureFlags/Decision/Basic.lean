import FeatureFlags.Project.Model
import FeatureFlags.Reason

/-!
Decisions on experiments and on flags. A decision without a variation is a regular outcome; only a
failing bandit makes it an error.
-/

namespace FeatureFlags

inductive Stage where
  | override
  | whitelist
  | sticky
  | experiment
  | rollout
  | holdout
  | bandit
  | forced
  deriving DecidableEq, Repr

def Stage.name : Stage → String
  | override => "override"
  | whitelist => "whitelist"
  | sticky => "sticky"
  | experiment => "experiment"
  | rollout => "rollout"
  | holdout => "holdout"
  | bandit => "cmab"
  | forced => "forced-decision"

inductive Source where
  | override
  | whitelist
  | sticky
  | experiment
  | rollout
  | holdout
  /-- A bandit, with the correlation id of its choice. -/
  | bandit (correlationId : String)
  | forced
  deriving DecidableEq, Repr

namespace Source

def stage : Source → Stage
  | override => .override
  | whitelist => .whitelist
  | sticky => .sticky
  | experiment => .experiment
  | rollout => .rollout
  | holdout => .holdout
  | bandit _ => .bandit
  | forced => .forced

def correlationId? : Source → Option String
  | bandit correlationId => some correlationId
  | _ => none

end Source

inductive Outcome where
  | undecided
  | served (variation : Variation) (source : Source)
  /-- The bandit failed, or chose a variation that does not exist; in the latter case there is a
  correlation id. -/
  | failed (correlationId : Option String)
  deriving DecidableEq, Repr

namespace Outcome

def variation? : Outcome → Option Variation
  | served variation _ => some variation
  | _ => none

def stage? : Outcome → Option Stage
  | undecided => none
  | served _ source => some source.stage
  | failed _ => some .bandit

def isError : Outcome → Bool
  | failed _ => true
  | _ => false

def correlationId? : Outcome → Option String
  | undecided => none
  | served _ source => source.correlationId?
  | failed correlationId => correlationId

def isEnabled (outcome : Outcome) : Bool := outcome.variation?.any (·.featureEnabled)

def isFinal : Outcome → Bool
  | undecided => false
  | _ => true

end Outcome

inductive RuleType where
  | holdout
  | experiment
  | rollout
  deriving DecidableEq, Repr

def RuleType.name : RuleType → String
  | holdout => "holdout"
  | experiment => "experiment"
  | rollout => "rollout"

/-- What a flag decides for a user, and the rule that decided. A decision that is forced for the
whole flag has no rule. -/
structure FlagOutcome where
  rule : Option (RuleType × Experiment) := none
  outcome : Outcome := .undecided

structure VariationDecision where
  outcome : Outcome
  reasons : List Reason

structure FeatureDecision where
  decided : FlagOutcome
  reasons : List Reason

end FeatureFlags
