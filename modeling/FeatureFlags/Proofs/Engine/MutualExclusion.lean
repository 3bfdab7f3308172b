import FeatureFlags.Proofs.Bucketing.Exclusion
import FeatureFlags.Proofs.Decision.LayerPrecedence
import FeatureFlags.Proofs.Engine.Queries

/-!
Mutual exclusion in random groups, as a caller sees it. What is computed for an experiment, by the
hash or by a bandit, is computed behind its group, and the group lets a user through to one experiment
at most. Overrides, profiles and the state of bandits have no part in that.
-/

namespace FeatureFlags
namespace Context
variable {σ : Type} {context : Context σ} {experiment : Experiment} {start finish : Progress σ}
  {outcome : Outcome} {events : List Event}

theorem Assigned.admitted_of_computed
    (assigned : Assigned context experiment start outcome events finish)
    (computed : outcome.IsComputed) :
    (Bucketing.admittedByGroup context.sharder context.config experiment
      context.user.bucketingId.value).value = true := by
  cases assigned with
  | hash _ =>
      apply Bucketing.admitted_of_bucket
      cases bucketed : (context.hashed experiment).value with
      | none =>
          rw [bucketed] at computed
          rcases computed with stage | stage <;> cases stage
      | some variation =>
          rw [hashed] at bucketed
          rw [bucketed]
          rfl
  | outsideShare _ _ _ => rcases computed with stage | stage <;> cases stage
  | bandit _ _ inside => exact Bucketing.admitted_of_bucketForBandit _ _ _ _ _ inside

/-- An experiment only gets to compute anything for a user that its group lets through. -/
theorem Staged.admitted_of_computed
    (staged : Staged context experiment start outcome events finish)
    (computed : outcome.IsComputed) :
    (Bucketing.admittedByGroup context.sharder context.config experiment
      context.user.bucketingId.value).value = true := by
  cases staged with
  | inactive _ | override _ _ | whitelist _ _ _ | sticky _ _ _ _ | outsideAudiences _ _ =>
      rcases computed with stage | stage <;> cases stage
  | assigned _ _ assigned => exact assigned.admitted_of_computed computed

end Context

namespace Engine
variable {σ : Type}

/-- Of two experiments of a random group one at least is shut out for a user: in no state and by no
query anything is computed for both of them. -/
theorem random_group_excludes (engine : Engine σ) (config : Config) {first second : Experiment}
    {group : Group} (member : config.InRandomGroup first group)
    (member' : config.InRandomGroup second group) (different : first.id ≠ second.id) :
    (∀ bucketingId, Bucketing.ShutOut engine.sharder config first bucketingId ∨
      Bucketing.ShutOut engine.sharder config second bucketingId) ∧
    ∀ (user : User) (state state' : EngineState σ) (options options' : DecideOptions)
      (query query' : Query) (decided decided' : FlagOutcome) (ruleType ruleType' : RuleType),
      decided ∈ engine.decisions state config user options query →
      decided' ∈ engine.decisions state' config user options' query' →
      decided.rule = some (ruleType, first) → decided'.rule = some (ruleType', second) →
      decided.outcome.IsComputed → ¬ decided'.outcome.IsComputed := by
  refine ⟨fun bucketingId => Bucketing.shutOut_or_shutOut engine.sharder config bucketingId member
    member' different, ?_⟩
  intro user state state' options options' query query' decided decided' ruleType ruleType'
    listed listed' byFirst bySecond computed computed'
  obtain ⟨_, _, _, staged⟩ := staged_of_decisions listed byFirst computed
  obtain ⟨_, _, _, staged'⟩ := staged_of_decisions listed' bySecond computed'
  -- Both are computed for the same user, by the same hash.
  exact different (Bucketing.id_eq_of_admitted engine.sharder config user.bucketingId.value member
    member' (staged.admitted_of_computed computed) (staged'.admitted_of_computed computed'))

namespace Sample

/-- A member of a random group, and another one that is left to a bandit. -/
def hashedRival : Experiment := { everyone with id := "61", key := "hashed", groupId := some "60" }

def banditRival : Experiment :=
  { everyone with
    id := "62", key := "bandit", groupId := some "60", bandit := some { trafficAllocation := 10000 } }

/-- All traffic of the group goes to the first member. -/
def rivalry : Group :=
  { id := "60", policy := .random
    trafficAllocation := [{ entityId := "61", endOfRange := 10000 }]
    experiments := [hashedRival, banditRival] }

def rivals : Config := .ofDatafile { groups := [rivalry] }

/-- A bandit that would serve everyone. -/
def generous : Engine Unit :=
  { first with bandit := some (.constant (.ok { variationId := "1", correlationId := "a" })) }

end Sample

theorem random_group_excludes_bandit :
    Sample.rivals.InRandomGroup Sample.hashedRival Sample.rivalry ∧
      Sample.rivals.InRandomGroup Sample.banditRival Sample.rivalry ∧
      (Sample.generous.getVariation Sample.empty Sample.rivals { id := "user" } ∅ "hashed").value.map
        (·.outcome) = .ok (.served Sample.on .experiment) ∧
      ∀ (state : EngineState Unit) (options : DecideOptions) (query : Query)
        (decided : FlagOutcome) (ruleType : RuleType),
        decided ∈ Sample.generous.decisions state Sample.rivals { id := "user" } options query →
        decided.rule = some (ruleType, Sample.banditRival) → ¬ decided.outcome.IsComputed := by
  have known : Sample.rivals.groupsById["60"]? = some Sample.rivalry := rfl
  have member : Sample.rivals.InRandomGroup Sample.hashedRival Sample.rivalry :=
    ⟨⟨"60", by decide, rfl, known⟩, rfl⟩
  have member' : Sample.rivals.InRandomGroup Sample.banditRival Sample.rivalry :=
    ⟨⟨"60", by decide, rfl, known⟩, rfl⟩
  have served : (Sample.generous.getVariation Sample.empty Sample.rivals { id := "user" } ∅
      "hashed").value.map (·.outcome) = .ok (.served Sample.on .experiment) := by rfl
  have listed : { rule := some (.experiment, Sample.hashedRival)
                  outcome := .served Sample.on .experiment } ∈
      Sample.generous.decisions Sample.empty Sample.rivals { id := "user" } ∅
        (.getVariation "hashed") := List.mem_singleton.mpr (by rfl)
  obtain ⟨_, excludes⟩ := random_group_excludes Sample.generous Sample.rivals member member' (by decide)
  refine ⟨member, member', served, ?_⟩
  intro state options query decided ruleType listed' byRule
  exact excludes { id := "user" } Sample.empty state ∅ options (.getVariation "hashed") query _
    decided .experiment ruleType listed listed' rfl byRule (.inl rfl)

end Engine
end FeatureFlags
