import FeatureFlags.Decision.Experiment
import FeatureFlags.Decision.Rollout

/-!
How a flag decides. Its layers are asked in order: the decision forced for the whole flag, holdouts,
experiments, and the rollout. The first layer with an answer decides, and nothing behind it is
looked at.
-/

namespace FeatureFlags

namespace Context
variable {σ : Type}

def bucketIntoHoldout (context : Context σ) (holdout : Experiment) :
    Traced (Option Variation) := do
  let bucketingId ← context.user.bucketingId
  let variation ← Bucketing.bucket context.sharder context.config holdout bucketingId
  let subject := s!"User \"{context.user.id}\""
  match variation with
  | some variation =>
    Traced.info s!"{subject} is in variation \"{variation.key}\" of holdout \"{holdout.key}\"."
  | none => Traced.info s!"{subject} is not in holdout \"{holdout.key}\"."
  return variation

/-- The variation of a running holdout whose audiences admit the user. -/
def holdoutVariation (context : Context σ) (holdout : Experiment) :
    Traced (Option Variation) := do
  if holdout.isRunning then
    let admitted ← Targeting.admits context.config context.user.attributes holdout
      "holdout" holdout.key
    if admitted then context.bucketIntoHoldout holdout
    else
      let place := s!"does not meet conditions for holdout \"{holdout.key}\"."
      Traced.info s!"User \"{context.user.id}\" {place}"
      return none
  else
    Traced.info s!"Holdout \"{holdout.key}\" is not running."
    return none

def resolveHoldouts (context : Context σ) (flag : Flag) : Traced (Option FlagOutcome) :=
  Traced.firstSome (fun holdout => do
    let variation ← context.holdoutVariation holdout.experiment
    return variation.map fun variation =>
      { rule := some (.holdout, holdout.experiment), outcome := .served variation .holdout })
    (context.config.holdoutsForFlag flag.id)

/-- An experiment of a flag decides if it gives a variation or an error. -/
def resolveRule (context : Context σ) (flag : Flag) (experimentId : String) :
    Resolution σ (Option FlagOutcome) := do
  match context.config.experimentsById[experimentId]? with
  | none =>
    Traced.debug s!"Experiment \"{experimentId}\" of flag \"{flag.key}\" is not in the datafile."
    return none
  | some experiment =>
    match ← context.forcedByRule flag .experiment experiment with
    | some decided => return some decided
    | none =>
      let outcome ← context.resolveExperiment experiment
      return if outcome.isFinal then some { rule := some (.experiment, experiment), outcome }
        else none

def resolveExperiments (context : Context σ) (flag : Flag) : Resolution σ (Option FlagOutcome) :=
  Resolution.firstSome (context.resolveRule flag) flag.experimentIds

/-- Decide a flag: the first layer with an answer decides. -/
def resolveFlag (context : Context σ) (flag : Flag) : Resolution σ FlagOutcome := do
  let decided ← Resolution.orElse (context.forcedByFlag flag)
    (Resolution.orElse (context.resolveHoldouts flag)
      (Resolution.orElse (context.resolveExperiments flag) (context.resolveRollout flag)))
  return decided.getD {}

end Context
end FeatureFlags
