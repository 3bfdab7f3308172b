import FeatureFlags.Decision.Forced
import FeatureFlags.Targeting

/-!
How a rollout decides. Its rules are looked at in order. A rule that is not meant for the user leads
to the next one; a rule that is, but has no traffic for them, leads to the last one, which is for
everyone else. A decision that the user forces for a rule comes before the rule itself.
-/

namespace FeatureFlags

inductive Verdict where
  | decided (decided : FlagOutcome)
  /-- The rule is inactive or not meant for the user. -/
  | passed
  /-- The rule is meant for the user, but has no traffic for them. -/
  | missed

namespace Context
variable {σ : Type}

def bucketIntoRule (context : Context σ) (rule : Experiment) (name bucketingId : String) :
    Traced Verdict := do
  let subject := s!"User \"{context.user.id}\""
  Traced.info s!"{subject} meets conditions for targeting rule \"{name}\"."
  match ← Bucketing.bucket context.sharder context.config rule bucketingId with
  | none => return .missed
  | some variation =>
    Traced.info s!"{subject} bucketed into a targeting rule \"{name}\"."
    return .decided { rule := some (.rollout, rule), outcome := .served variation .rollout }

def examineRule (context : Context σ) (flag : Flag) (rule : Experiment)
    (name bucketingId : String) : Traced Verdict := do
  match ← context.forcedByRule flag .rollout rule with
  | some decided => return .decided decided
  | none =>
    if rule.isActive then
      let admitted ← Targeting.admits context.config context.user.attributes rule "rule" name
      if admitted then context.bucketIntoRule rule name bucketingId
      else
        let place := s!"does not meet conditions for targeting rule \"{name}\"."
        Traced.info s!"User \"{context.user.id}\" {place}"
        return .passed
    else
      Traced.info s!"Targeting rule \"{name}\" is not running."
      return .passed

def everyoneElse : String := "Everyone Else"

def examineLastRule (context : Context σ) (flag : Flag) (rule : Experiment)
    (bucketingId : String) : Traced (Option FlagOutcome) := do
  match ← context.examineRule flag rule everyoneElse bucketingId with
  | .decided decided => return some decided
  | .passed => return none
  | .missed =>
    let place := s!"is not in the traffic group for \"{everyoneElse}\" rule."
    Traced.info s!"User \"{context.user.id}\" {place}"
    return none

/-- Look at the rules of a rollout, the first of which stands at the given position. A rule that is
passed leads to the next one, and a rule that is missed to the last one. -/
def walkRules (context : Context σ) (flag : Flag) (bucketingId : String) :
    Nat → List Experiment → Traced (Option FlagOutcome)
  | _, [] => return none
  | _, [last] => context.examineLastRule flag last bucketingId
  | position, rule :: next :: rules => do
    let name := toString (position + 1)
    match ← context.examineRule flag rule name bucketingId with
    | .decided decided => return some decided
    | .passed => walkRules context flag bucketingId (position + 1) (next :: rules)
    | .missed =>
      let place := s!"is not in the traffic group for targeting rule \"{name}\"."
      let consequence := s!"Checking \"{everyoneElse}\" rule now."
      Traced.info s!"User \"{context.user.id}\" {place} {consequence}"
      context.examineLastRule flag ((next :: rules).getLast (List.cons_ne_nil _ _)) bucketingId

def resolveRollout (context : Context σ) (flag : Flag) : Traced (Option FlagOutcome) := do
  match (context.config.rolloutsById[flag.rolloutId]?).elim [] (·.rules) with
  | [] =>
    Traced.info s!"The feature flag \"{flag.key}\" is not used in a rollout."
    return none
  | rules =>
    let bucketingId ← context.user.bucketingId
    context.walkRules flag bucketingId 0 rules

end Context
end FeatureFlags
