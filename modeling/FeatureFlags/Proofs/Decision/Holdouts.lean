import FeatureFlags.Decision.Flag
import FeatureFlags.Proofs.Decision.Stages

/-!
Forced decisions and holdouts as plain answers. Forced decisions leave no events, and a holdout only
those of the hash, if it is running and meant for the user.
-/

namespace FeatureFlags

/-- The variation that a user forces, if some rule of the flag can serve it. -/
def User.forcedVariation? (user : User) (config : Config) (scope : DecisionScope) :
    Option Variation :=
  (user.forced? scope).bind (config.flagVariationByKey? scope.flagKey)

@[simp] theorem User.value_forcedVariation (user : User) (config : Config)
    (scope : DecisionScope) :
    (user.forcedVariation config scope).value = user.forcedVariation? config scope := by
  simp only [forcedVariation, forcedVariation?]
  cases user.forced? scope with
  | none => rfl
  | some key => cases served : config.flagVariationByKey? scope.flagKey key <;> simp [served]

@[simp] theorem User.events_forcedVariation (user : User) (config : Config)
    (scope : DecisionScope) : (user.forcedVariation config scope).events = [] := by
  simp only [forcedVariation]
  cases user.forced? scope with
  | none => rfl
  | some key => cases served : config.flagVariationByKey? scope.flagKey key <;> simp [served]

namespace Context
variable {σ : Type}

/-- The variation that the user forces for a whole flag. -/
def forcedOnFlag? (context : Context σ) (flag : Flag) : Option Variation :=
  context.user.forcedVariation? context.config { flagKey := flag.key }

/-- The variation that the user forces for a rule of a flag. -/
def forcedOnRule? (context : Context σ) (flag : Flag) (rule : Experiment) : Option Variation :=
  context.user.forcedVariation? context.config { flagKey := flag.key, ruleKey := some rule.key }

theorem value_forcedByFlag (context : Context σ) (flag : Flag) :
    (context.forcedByFlag flag).value =
      (context.forcedOnFlag? flag).map fun variation =>
        { outcome := .served variation .forced } := by
  simp [forcedByFlag, forcedOnFlag?]

theorem events_forcedByFlag (context : Context σ) (flag : Flag) :
    (context.forcedByFlag flag).events = [] := by
  simp [forcedByFlag]

theorem value_forcedByRule (context : Context σ) (flag : Flag) (ruleType : RuleType)
    (rule : Experiment) :
    (context.forcedByRule flag ruleType rule).value =
      (context.forcedOnRule? flag rule).map fun variation =>
        { rule := some (ruleType, rule), outcome := .served variation .forced } := by
  simp [forcedByRule, forcedOnRule?]

theorem events_forcedByRule (context : Context σ) (flag : Flag) (ruleType : RuleType)
    (rule : Experiment) : (context.forcedByRule flag ruleType rule).events = [] := by
  simp [forcedByRule]

/-- Whether a holdout is running and meant for the user. -/
def holdoutApplies (context : Context σ) (holdout : Experiment) : Bool :=
  holdout.isRunning && holdout.admits context.config context.user.attributes

/-- The variation that a holdout serves. -/
def holdoutServes? (context : Context σ) (holdout : Holdout) : Option Variation :=
  if context.holdoutApplies holdout.experiment then (context.hashed holdout.experiment).value
  else none

/-- The events of looking at a holdout. -/
def holdoutEvents (context : Context σ) (holdout : Holdout) : List Event :=
  if context.holdoutApplies holdout.experiment then (context.hashed holdout.experiment).events
  else []

theorem value_bucketIntoHoldout (context : Context σ) (holdout : Experiment) :
    (context.bucketIntoHoldout holdout).value = (context.hashed holdout).value := by
  simp only [bucketIntoHoldout, Traced.value_bind, hashed]
  split <;> rename_i bucketed <;> simp [bucketed]

theorem events_bucketIntoHoldout (context : Context σ) (holdout : Experiment) :
    (context.bucketIntoHoldout holdout).events = (context.hashed holdout).events := by
  simp only [bucketIntoHoldout, Traced.events_bind, hashed, User.events_bucketingId]
  split <;> simp

theorem value_holdoutVariation (context : Context σ) (holdout : Holdout) :
    (context.holdoutVariation holdout.experiment).value = context.holdoutServes? holdout := by
  simp only [holdoutVariation, holdoutServes?, holdoutApplies]
  by_cases running : holdout.experiment.isRunning = true
  case neg => simp [running]
  by_cases admitted : holdout.experiment.admits context.config context.user.attributes = true
  · simp [running, admitted, value_bucketIntoHoldout]
  · simp [running, admitted]

theorem events_holdoutVariation (context : Context σ) (holdout : Holdout) :
    (context.holdoutVariation holdout.experiment).events = context.holdoutEvents holdout := by
  simp only [holdoutVariation, holdoutEvents, holdoutApplies]
  by_cases running : holdout.experiment.isRunning = true
  case neg => simp [running]
  by_cases admitted : holdout.experiment.admits context.config context.user.attributes = true
  · simp [running, admitted, events_bucketIntoHoldout]
  · simp [running, admitted]

theorem resolveHoldouts_of_none {context : Context σ} {flag : Flag}
    (passed : ∀ holdout ∈ context.config.holdoutsForFlag flag.id,
      context.holdoutServes? holdout = none) :
    (context.resolveHoldouts flag).value = none ∧
      (context.resolveHoldouts flag).events =
        (context.config.holdoutsForFlag flag.id).flatMap context.holdoutEvents := by
  refine (Traced.firstSome_of_none fun holdout member => ?_).imp_right fun events =>
    events.trans ?_
  · simp [value_holdoutVariation, passed holdout member]
  · simp [events_holdoutVariation]

theorem resolveHoldouts_of_some {context : Context σ} {flag : Flag} {before after : List Holdout}
    {holdout : Holdout} {variation : Variation}
    (listed : context.config.holdoutsForFlag flag.id = before ++ holdout :: after)
    (passed : ∀ earlier ∈ before, context.holdoutServes? earlier = none)
    (serves : context.holdoutServes? holdout = some variation) :
    (context.resolveHoldouts flag).value =
        some { rule := some (.holdout, holdout.experiment), outcome := .served variation .holdout } ∧
      (context.resolveHoldouts flag).events =
        (before ++ [holdout]).flatMap context.holdoutEvents := by
  rw [resolveHoldouts, listed]
  refine (Traced.firstSome_of_some (fun earlier member => ?_) ?_).imp_right fun events =>
    events.trans ?_
  · simp [value_holdoutVariation, passed earlier member]
  · simp [value_holdoutVariation, serves]
  · simp [events_holdoutVariation]

end Context
end FeatureFlags
