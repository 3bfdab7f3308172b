import FeatureFlags.Decision.Basic
import FeatureFlags.Decision.Options
import FeatureFlags.Decision.Variables
import FeatureFlags.Project.Config
import FeatureFlags.User

/-!
The decision on a flag as the caller gets it: with the values of the variables, and with the reasons
that the options ask for.
-/

namespace FeatureFlags

structure FlagDecision where
  flagKey : String
  userId : String
  variationKey : Option String := none
  enabled : Bool := false
  /-- Empty if variables are left out or the decision failed. -/
  variableValues : Dict Json := ∅
  ruleKey : Option String := none
  stage : Option Stage := none
  correlationId : Option String := none
  /-- The flag is unknown, or a bandit failed. -/
  error : Bool := false
  reasons : List String := []
  reportImpression : Bool := false

namespace FlagDecision

/-- A decision is reported if the project wants all of them, or if a variation is served by anything
but a rollout. Errors are never reported. -/
def isReported (config : Config) (decided : FlagOutcome) : Bool :=
  !decided.outcome.isError &&
    (config.sendFlagDecisions ||
      (decided.outcome.variation?.isSome && decided.rule.map (·.1) ≠ some .rollout))

/-- The values of the variables, unless the decision failed or they are left out. -/
def resolveVariables (flag : Flag) (outcome : Outcome) (options : DecideOptions) :
    Traced (Dict Json) :=
  if outcome.isError || options.contains .excludeVariables then return ∅
  else flag.variableValues outcome.variation?

def ofOutcome (flag : Flag) (decided : FlagOutcome) (reasons : List Reason) (user : User)
    (config : Config) (options : DecideOptions) : FlagDecision :=
  let outcome := decided.outcome
  let resolved := resolveVariables flag outcome options
  { flagKey := flag.key
    userId := user.id
    variationKey := outcome.variation?.map (·.key)
    enabled := outcome.isEnabled
    variableValues := resolved.value
    ruleKey := decided.rule.map (·.2.key)
    stage := outcome.stage?
    correlationId := outcome.correlationId?
    error := outcome.isError
    reasons := Reason.report (options.contains .includeReasons) (reasons ++ resolved.reasons)
    reportImpression := isReported config decided }

def unknownFlag (flagKey : String) (user : User) : FlagDecision :=
  let trace := Traced.error s!"No flag was found for key \"{flagKey}\"."
  { flagKey, userId := user.id, error := true, reasons := Reason.report false trace.reasons }

end FlagDecision
end FeatureFlags
