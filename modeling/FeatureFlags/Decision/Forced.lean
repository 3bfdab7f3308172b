import FeatureFlags.Decision.Basic
import FeatureFlags.Decision.Context

/-!
Decisions that a user forces, for a whole flag or for one of its rules. They only count if some rule
of the flag can serve the variation.
-/

namespace FeatureFlags

/-- The decision forced by the user for a flag or one of its rules, if the flag can serve that
variation. -/
def User.forcedVariation (user : User) (config : Config) (scope : DecisionScope) :
    Traced (Option Variation) :=
  match user.forced? scope with
  | none => return none
  | some key =>
    let target := match scope.ruleKey with
      | some ruleKey => s!"flag ({scope.flagKey}), rule ({ruleKey})"
      | none => s!"flag ({scope.flagKey})"
    let place := s!"is mapped to {target} and user ({user.id}) in the forced decision map."
    match config.flagVariationByKey? scope.flagKey key with
    | some variation => do
      Traced.info s!"Variation ({key}) {place}"
      return some variation
    | none => do
      Traced.info s!"Invalid variation {place}"
      return none

namespace Context
variable {σ : Type}

def forcedByFlag (context : Context σ) (flag : Flag) : Traced (Option FlagOutcome) := do
  let variation ← context.user.forcedVariation context.config { flagKey := flag.key }
  return variation.map fun variation => { outcome := .served variation .forced }

def forcedByRule (context : Context σ) (flag : Flag) (ruleType : RuleType) (rule : Experiment) :
    Traced (Option FlagOutcome) := do
  let scope : DecisionScope := { flagKey := flag.key, ruleKey := some rule.key }
  let variation ← context.user.forcedVariation context.config scope
  return variation.map fun variation =>
    { rule := some (ruleType, rule), outcome := .served variation .forced }

end Context
end FeatureFlags
