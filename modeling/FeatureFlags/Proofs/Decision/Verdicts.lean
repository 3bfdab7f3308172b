import FeatureFlags.Proofs.Decision.Rollouts

/-!
What a rule of a rollout comes to for a user: it decides, by force or by the hash, it is not meant
for the user, or it has no traffic for them. The user is bucketed unless a decision is forced or the
rule is not meant for them.
-/

namespace FeatureFlags
namespace Context
variable {σ : Type} (context : Context σ) (flag : Flag)

/-- Whether a rule is active and its audiences admit the user. -/
def isMeantFor (rule : Experiment) : Bool :=
  rule.isActive && rule.admits context.config context.user.attributes

/-- What a rule of a rollout comes to for the user. -/
inductive Judges (rule : Experiment) : Verdict → Prop
  | forced {variation : Variation}
      (forced : context.forcedOnRule? flag rule = some variation) :
      Judges rule
        (.decided { rule := some (.rollout, rule), outcome := .served variation .forced })
  | bucketed {variation : Variation} (unforced : context.forcedOnRule? flag rule = none)
      (meant : context.isMeantFor rule = true)
      (bucketed : (context.hashed rule).value = some variation) :
      Judges rule
        (.decided { rule := some (.rollout, rule), outcome := .served variation .rollout })
  | passed (unforced : context.forcedOnRule? flag rule = none)
      (other : context.isMeantFor rule = false) : Judges rule .passed
  | missed (unforced : context.forcedOnRule? flag rule = none)
      (meant : context.isMeantFor rule = true) (closed : (context.hashed rule).value = none) :
      Judges rule .missed

/-- Whether the user is bucketed in a rule, with success or not. -/
def bucketsIn (rule : Experiment) : Bool :=
  (context.forcedOnRule? flag rule).isNone && context.isMeantFor rule

variable {context flag}

theorem Judges.unique {rule : Experiment} {verdict verdict' : Verdict}
    (first : context.Judges flag rule verdict) (second : context.Judges flag rule verdict') :
    verdict = verdict' := by
  cases first <;> cases second <;> simp_all

theorem Judges.bucketsIn_eq_false {rule : Experiment}
    (passed : context.Judges flag rule .passed) : context.bucketsIn flag rule = false := by
  cases passed with
  | passed _ other => simp [bucketsIn, other]

variable (context flag)

theorem value_bucketIntoRule (rule : Experiment) (name : String) :
    (context.bucketIntoRule rule name context.user.bucketingId.value).value =
      match (context.hashed rule).value with
      | none => .missed
      | some variation =>
        .decided { rule := some (.rollout, rule), outcome := .served variation .rollout } := by
  simp only [bucketIntoRule, Traced.value_bind, hashed]
  cases (Bucketing.bucket context.sharder context.config rule
    context.user.bucketingId.value).value <;> simp

theorem events_bucketIntoRule (rule : Experiment) (name : String) :
    (context.bucketIntoRule rule name context.user.bucketingId.value).events =
      (context.hashed rule).events := by
  simp only [bucketIntoRule, Traced.events_bind, hashed]
  split <;> simp

theorem judges_examineRule (rule : Experiment) (name : String) :
    context.Judges flag rule
      (context.examineRule flag rule name context.user.bucketingId.value).value := by
  simp only [examineRule, Traced.value_bind, value_forcedByRule]
  cases forced : context.forcedOnRule? flag rule with
  | some variation => exact .forced forced
  | none =>
      by_cases active : rule.isActive = true
      case neg => simpa [active] using Judges.passed forced (by simp [isMeantFor, active])
      by_cases admitted : rule.admits context.config context.user.attributes = true
      case neg =>
        simpa [active, admitted] using Judges.passed forced (by simp [isMeantFor, admitted])
      have meant : context.isMeantFor rule = true := by simp [isMeantFor, active, admitted]
      simp only [Option.map_none, active, if_true, Traced.value_bind, Targeting.value_admits,
        admitted, value_bucketIntoRule]
      cases bucketed : (context.hashed rule).value with
      | none => exact .missed forced meant bucketed
      | some variation => exact .bucketed forced meant bucketed

theorem events_examineRule (rule : Experiment) (name : String) :
    (context.examineRule flag rule name context.user.bucketingId.value).events =
      if context.bucketsIn flag rule then (context.hashed rule).events else [] := by
  simp only [examineRule, Traced.events_bind, events_forcedByRule, value_forcedByRule,
    List.nil_append, bucketsIn, isMeantFor]
  obtain unforced | ⟨variation, forced⟩ := (context.forcedOnRule? flag rule).eq_none_or_eq_some
  case inr => simp [forced]
  by_cases active : rule.isActive = true
  case neg => simp [unforced, active]
  by_cases admitted : rule.admits context.config context.user.attributes = true
  · simp [unforced, active, admitted, events_bucketIntoRule]
  · simp [unforced, active, admitted]

end Context
end FeatureFlags
