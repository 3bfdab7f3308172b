import FeatureFlags.Decision.Basic
import FeatureFlags.Decision.Context
import FeatureFlags.Targeting

/-!
How an experiment decides. Its stages are asked in order: overrides, the whitelist, the profile of
the user, and, behind the audiences, a bandit or the hash. The first stage with an answer decides,
and nothing behind it is looked at.
-/

namespace FeatureFlags

/-- The whitelist of an experiment. A key that names no variation is passed over. -/
def Experiment.whitelisted (experiment : Experiment) (userId : String) :
    Traced (Option Variation) :=
  match experiment.forcedVariations[userId]? with
  | none => return none
  | some key =>
    match experiment.variationByKey? key with
    | some variation => do
      Traced.info s!"User \"{userId}\" is forced in variation \"{key}\"."
      return some variation
    | none => do
      let consequence := s!"Not activating user \"{userId}\"."
      Traced.warn s!"Variation \"{key}\" is not in the datafile. {consequence}"
      return none

namespace Context
variable {σ : Type}

def assignByHash (context : Context σ) (experiment : Experiment) (bucketingId : String) :
    Traced Outcome := do
  match ← Bucketing.bucket context.sharder context.config experiment bucketingId with
  | some variation => return .served variation .experiment
  | none => return .undecided

def banditOutcome (userId : String) (experiment : Experiment) :
    Except Bandit.Failure Bandit.Choice → Traced Outcome
  | .error _ => do
    Traced.error s!"Failed to fetch CMAB data for experiment {experiment.key}."
    return .failed none
  | .ok choice =>
    match experiment.variationById? choice.variationId with
    | none => do
      let place := s!"which is not in experiment \"{experiment.key}\"."
      Traced.error s!"CMAB returned variation \"{choice.variationId}\" {place}"
      return .failed (some choice.correlationId)
    | some variation => do
      let place := s!"user \"{userId}\" and experiment \"{experiment.key}\""
      Traced.info s!"CMAB decision fetched for {place}: variation \"{variation.key}\"."
      return .served variation (.bandit choice.correlationId)

/-- Let a bandit assign a variation. A user outside its share of traffic gets none. -/
def assignByBandit (context : Context σ) (service : Bandit.Service σ)
    (settings : BanditSettings) (experiment : Experiment) (bucketingId : String) :
    Resolution σ Outcome := do
  let eligible ← Bucketing.bucketForBandit context.sharder context.config experiment
    settings.trafficAllocation bucketingId
  match eligible with
  | none =>
    let place := s!"not in CMAB experiment \"{experiment.key}\" due to traffic allocation."
    Traced.info s!"User \"{context.user.id}\" {place}"
    return .undecided
  | some _ =>
    let answer ←
      Resolution.consult service context.config context.user experiment.id context.options
    banditOutcome context.user.id experiment answer

/-- Assign a variation. A bandit decides if the experiment has one and there is a service. -/
def assign (context : Context σ) (experiment : Experiment) : Resolution σ Outcome := do
  let bucketingId ← context.user.bucketingId
  match experiment.bandit, context.bandit with
  | some settings, some service =>
    context.assignByBandit service settings experiment bucketingId
  | some _, none =>
    let problem := "is controlled by a contextual bandit but no CMAB service is configured."
    let remedy := "Falling back to traffic allocation."
    Traced.warn s!"Experiment \"{experiment.key}\" {problem} {remedy}"
    context.assignByHash experiment bucketingId
  | none, _ => context.assignByHash experiment bucketingId

def sticky (context : Context σ) (experiment : Experiment) : Resolution σ (Option Variation) :=
  match context.profiles with
  | none => return none
  | some store => Resolution.withTracker (Tracker.storedVariation store context.user.id experiment)

def remember (context : Context σ) (experiment : Experiment) (outcome : Outcome) :
    Resolution σ Unit :=
  match context.profiles, outcome.variation? with
  | some store, some variation => Resolution.withTracker fun tracker => do
    return ((), ← tracker.update store context.user.id experiment variation)
  | _, _ => return ()

/-- The variation that an experiment has for the user before its audiences are looked at. -/
def preassigned (context : Context σ) (experiment : Experiment) :
    Resolution σ (Option (Variation × Source)) := do
  let userId := context.user.id
  match ← context.overrides.get experiment userId with
  | some variation => return some (variation, .override)
  | none =>
    match ← experiment.whitelisted userId with
    | some variation => return some (variation, .whitelist)
    | none => return (← context.sticky experiment).map (·, .sticky)

def assignIfAdmitted (context : Context σ) (experiment : Experiment) : Resolution σ Outcome := do
  let admitted ← Targeting.admits context.config context.user.attributes experiment
    "experiment" experiment.key
  if admitted then
    let outcome ← context.assign experiment
    context.remember experiment outcome
    return outcome
  else
    let place := s!"does not meet conditions to be in experiment \"{experiment.key}\"."
    Traced.info s!"User \"{context.user.id}\" {place}"
    return .undecided

def resolveExperiment (context : Context σ) (experiment : Experiment) : Resolution σ Outcome := do
  if experiment.isActive then
    match ← context.preassigned experiment with
    | some (variation, source) => return .served variation source
    | none => context.assignIfAdmitted experiment
  else
    Traced.info s!"Experiment \"{experiment.key}\" is not running."
    return .undecided

end Context
end FeatureFlags
