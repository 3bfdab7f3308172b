import FeatureFlags.Proofs.Decision.Holdouts

/-!
Rollouts from the outside: their only events are hashes, and what they decide is served by one of
their rules.
-/

namespace FeatureFlags
open Event
namespace Context
variable {σ : Type}

theorem onlyHashes_hashed (context : Context σ) (experiment : Experiment) :
    OnlyHashes (context.hashed experiment).events :=
  Bucketing.onlyHashes_bucket _ _ _ _

theorem onlyHashes_holdoutEvents (context : Context σ) (holdout : Holdout) :
    OnlyHashes (context.holdoutEvents holdout) := by
  simp only [holdoutEvents]
  split
  · exact context.onlyHashes_hashed _
  · exact onlyHashes_nil

theorem onlyHashes_bucketIntoRule (context : Context σ) (rule : Experiment)
    (name bucketingId : String) :
    OnlyHashes (context.bucketIntoRule rule name bucketingId).events := by
  simp only [bucketIntoRule, Traced.events_bind, Traced.info, Traced.events_note,
    List.nil_append]
  refine (Bucketing.onlyHashes_bucket _ _ _ _).append ?_
  split <;> exact onlyHashes_nil

theorem onlyHashes_examineRule (context : Context σ) (flag : Flag) (rule : Experiment)
    (name bucketingId : String) :
    OnlyHashes (context.examineRule flag rule name bucketingId).events := by
  simp only [examineRule, Traced.events_bind, events_forcedByRule, List.nil_append]
  split
  · exact onlyHashes_nil
  · split
    · simp only [Traced.events_bind, Targeting.events_admits, List.nil_append]
      split
      · exact context.onlyHashes_bucketIntoRule rule name bucketingId
      · exact onlyHashes_nil
    · exact onlyHashes_nil

theorem onlyHashes_examineLastRule (context : Context σ) (flag : Flag) (rule : Experiment)
    (bucketingId : String) :
    OnlyHashes (context.examineLastRule flag rule bucketingId).events := by
  simp only [examineLastRule, Traced.events_bind]
  refine (context.onlyHashes_examineRule flag rule _ bucketingId).append ?_
  split <;> exact onlyHashes_nil

theorem onlyHashes_walkRules (context : Context σ) (flag : Flag) (bucketingId : String)
    (position : Nat) (rules : List Experiment) :
    OnlyHashes (context.walkRules flag bucketingId position rules).events := by
  induction rules generalizing position with
  | nil => exact onlyHashes_nil
  | cons rule rest ih =>
      cases rest with
      | nil => exact context.onlyHashes_examineLastRule flag rule bucketingId
      | cons next rules =>
          simp only [walkRules, Traced.events_bind]
          refine (context.onlyHashes_examineRule flag rule _ bucketingId).append ?_
          split
          · exact onlyHashes_nil
          · exact ih (position + 1)
          · exact context.onlyHashes_examineLastRule flag _ bucketingId

/-- A rollout does nothing but hash. -/
theorem onlyHashes_resolveRollout (context : Context σ) (flag : Flag) :
    OnlyHashes (context.resolveRollout flag).events := by
  simp only [resolveRollout]
  split
  · exact onlyHashes_nil
  · simp only [Traced.events_bind, User.events_bucketingId, List.nil_append]
    exact context.onlyHashes_walkRules flag _ 0 _

/-- A decision by one of the rules of a rollout. -/
def ServedByRollout (decided : FlagOutcome) : Prop :=
  ∃ rule variation source, decided.rule = some (.rollout, rule) ∧
    decided.outcome = .served variation source ∧ (source = .rollout ∨ source = .forced)

/-- What a rule decides by itself: the variation that the user forces, or else one of its own. -/
theorem decided_of_examineRule {context : Context σ} {flag : Flag} {rule : Experiment}
    {name bucketingId : String} {decided : FlagOutcome}
    (examined : (context.examineRule flag rule name bucketingId).value = .decided decided) :
    ∃ variation source,
      decided = { rule := some (.rollout, rule), outcome := .served variation source } ∧
      (source = .rollout ∧ variation ∈ rule.variations ∨
        source = .forced ∧ context.forcedOnRule? flag rule = some variation) := by
  simp only [examineRule, Traced.value_bind, value_forcedByRule] at examined
  cases forced : context.forcedOnRule? flag rule with
  | some variation =>
      simp only [forced, Option.map_some, Traced.value_pure, Verdict.decided.injEq] at examined
      exact ⟨variation, .forced, examined.symm, .inr ⟨rfl, rfl⟩⟩
  | none =>
      simp only [forced, Option.map_none] at examined
      split at examined
      case isFalse => cases examined
      simp only [Traced.value_bind] at examined
      split at examined
      case isFalse => cases examined
      simp only [bucketIntoRule, Traced.value_bind] at examined
      split at examined
      · cases examined
      · rename_i variation bucketed
        cases examined
        have own := Bucketing.variationById?_of_bucket _ _ _ _ bucketed
        exact ⟨variation, .rollout, rfl, .inl ⟨rfl, List.mem_of_find?_eq_some own⟩⟩

theorem examined_of_examineLastRule {context : Context σ} {flag : Flag} {rule : Experiment}
    {bucketingId : String} {decided : FlagOutcome}
    (served : (context.examineLastRule flag rule bucketingId).value = some decided) :
    (context.examineRule flag rule everyoneElse bucketingId).value = .decided decided := by
  simp only [examineLastRule, Traced.value_bind] at served
  split at served
  · rename_i verdict
    cases served
    exact verdict
  · cases served
  · cases served

theorem examined_of_walkRules {context : Context σ} {flag : Flag} {bucketingId : String}
    {position : Nat} {rules : List Experiment} {decided : FlagOutcome}
    (served : (context.walkRules flag bucketingId position rules).value = some decided) :
    ∃ rule ∈ rules, ∃ name,
      (context.examineRule flag rule name bucketingId).value = .decided decided := by
  induction rules generalizing position with
  | nil => cases served
  | cons rule rest ih =>
      cases rest with
      | nil => exact ⟨rule, List.mem_cons_self, _, examined_of_examineLastRule served⟩
      | cons next rules =>
          simp only [walkRules, Traced.value_bind] at served
          split at served
          · rename_i verdict
            cases served
            exact ⟨rule, List.mem_cons_self, _, verdict⟩
          · obtain ⟨later, member, name, examined⟩ := ih served
            exact ⟨later, List.mem_cons_of_mem _ member, name, examined⟩
          · exact ⟨_, List.mem_cons_of_mem _ (List.getLast_mem _), _,
              examined_of_examineLastRule served⟩

/-- A rollout decides by one of its rules, which decides by itself. -/
theorem examined_of_resolveRollout {context : Context σ} {flag : Flag} {decided : FlagOutcome}
    (served : (context.resolveRollout flag).value = some decided) :
    ∃ rule ∈ (context.config.rolloutsById[flag.rolloutId]?).elim [] (·.rules), ∃ name bucketingId,
      (context.examineRule flag rule name bucketingId).value = .decided decided := by
  simp only [resolveRollout] at served
  split at served
  · cases served
  · obtain ⟨rule, member, name, examined⟩ := examined_of_walkRules served
    exact ⟨rule, member, name, _, examined⟩

theorem servedByRollout_of_resolveRollout {context : Context σ} {flag : Flag}
    {decided : FlagOutcome} (served : (context.resolveRollout flag).value = some decided) :
    ServedByRollout decided := by
  obtain ⟨rule, _, _, _, examined⟩ := examined_of_resolveRollout served
  obtain ⟨variation, source, rfl, own | forced⟩ := decided_of_examineRule examined
  · exact ⟨rule, variation, source, rfl, rfl, .inl own.1⟩
  · exact ⟨rule, variation, source, rfl, rfl, .inr forced.1⟩

section Unread
variable (context : Context σ) (bandit : Option (Bandit.Service σ)) (overrides : OverrideTable)
  (profiles : Option ProfileStore) (options : DecideOptions)

theorem walkRules_with (flag : Flag) (bucketingId : String) (position : Nat)
    (rules : List Experiment) :
    let context' := { context with bandit, overrides, profiles, options }
    context'.walkRules flag bucketingId position rules =
      context.walkRules flag bucketingId position rules := by
  intro context'
  induction rules generalizing position with
  | nil => rfl
  | cons rule rest ih =>
      cases rest with
      | nil => rfl
      | cons next rules =>
          simp only [walkRules, ih]
          rfl

/-- Bandits, overrides, profiles and options have no part in a rollout. -/
theorem resolveRollout_with (flag : Flag) :
    { context with bandit, overrides, profiles, options }.resolveRollout flag =
      context.resolveRollout flag := by
  simp only [resolveRollout, walkRules_with]

theorem resolveRollout_withProfiles (flag : Flag) :
    { context with profiles }.resolveRollout flag = context.resolveRollout flag :=
  context.resolveRollout_with context.bandit context.overrides profiles context.options flag

end Unread

end Context
end FeatureFlags
