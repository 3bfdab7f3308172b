import FeatureFlags.Proofs.Decision.Layers
import FeatureFlags.Proofs.Decision.RolloutLooks
import FeatureFlags.Proofs.Engine.Perform

/-!
Users under another id. Overrides, the whitelist, profiles and bandits know users by their ids;
apart from them an id is hashed, unless there is a bucketing id, and it stands in notes. So where
nothing but the hash decides, every run of a decision is one for the user under another id as well.
-/

namespace FeatureFlags
namespace Context
variable {σ : Type}

/-- The same context, for a user under another id. -/
def renamed (context : Context σ) (id : String) : Context σ :=
  { context with user := { context.user with id } }

/-- A user with a bucketing id, whom no profile and no bandit can tell from others. -/
structure Pseudonymous (context : Context σ) : Prop where
  named : ∃ id, context.user.attributes[Attributes.bucketingId]? = some (.string id)
  noProfiles : context.profiles = none
  noBandit : context.bandit = none

/-- An experiment of which neither an override nor the whitelist names a variation for the user. -/
structure Unlisted (context : Context σ) (experiment : Experiment) : Prop where
  notOverridden : context.overrides.variationOf? experiment context.user.id = none
  notWhitelisted : experiment.whitelistedVariation? context.user.id = none

variable {context : Context σ} {flag : Flag} {start finish : Progress σ} {events : List Event}
  (pseudonymous : context.Pseudonymous) (id : String)

section Renamed
include pseudonymous

theorem Pseudonymous.renamed : (context.renamed id).Pseudonymous :=
  ⟨pseudonymous.named, pseudonymous.noProfiles, pseudonymous.noBandit⟩

theorem Pseudonymous.hashed_renamed (experiment : Experiment) :
    (context.renamed id).hashed experiment = context.hashed experiment := by
  obtain ⟨bucketingId, named⟩ := pseudonymous.named
  simp only [hashed, Context.renamed, User.bucketingId, named]

theorem Assigned.renamed {experiment : Experiment} {outcome : Outcome}
    (assigned : Assigned context experiment start outcome events finish) :
    Assigned (context.renamed id) experiment start outcome events finish := by
  cases assigned with
  | hash _ =>
      rw [← pseudonymous.hashed_renamed id]
      exact .hash (.inr pseudonymous.noBandit)
  | outsideShare _ provided _ | bandit _ provided _ =>
      rw [pseudonymous.noBandit] at provided
      cases provided

theorem Pseudonymous.storedVariation?_eq_none (experiment : Experiment) (progress : Progress σ) :
    context.storedVariation? experiment progress = none := by
  simp only [storedVariation?, profileAt, pseudonymous.noProfiles, Option.map_none,
    Option.bind_none]

theorem Pseudonymous.saves_eq_nil (progress : Progress σ) : context.saves progress = [] := by
  simp only [saves, pseudonymous.noProfiles]

theorem Staged.renamed {experiment : Experiment} {outcome : Outcome}
    (unlisted : context.Unlisted experiment) (unlisted' : (context.renamed id).Unlisted experiment)
    (staged : Staged context experiment start outcome events finish) :
    Staged (context.renamed id) experiment start outcome events finish := by
  have noProfiles := pseudonymous.noProfiles
  have lookups : context.lookups start = (context.renamed id).lookups start := by
    simp only [Context.lookups, Context.renamed, noProfiles]
  have opened : context.opened start = (context.renamed id).opened start := by
    simp only [Context.opened, Context.renamed, noProfiles]
  have unsettled (active : experiment.isActive = true) :
      Unsettled (context.renamed id) experiment start :=
    ⟨active, unlisted'.notOverridden, unlisted'.notWhitelisted,
      (pseudonymous.renamed id).storedVariation?_eq_none experiment start⟩
  cases staged with
  | inactive inactive => exact .inactive inactive
  | override _ named => cases named.symm.trans unlisted.notOverridden
  | whitelist _ _ named => cases named.symm.trans unlisted.notWhitelisted
  | sticky _ _ _ stored =>
      cases stored.symm.trans (pseudonymous.storedVariation?_eq_none experiment start)
  | outsideAudiences settled barred =>
      rw [lookups, opened]
      exact .outsideAudiences (unsettled settled.active) barred
  | @assigned outcome _ reached settled admitted assigned =>
      have recorded : context.recorded experiment outcome.variation? reached =
          (context.renamed id).recorded experiment outcome.variation? reached := by
        simp only [Context.recorded, Context.renamed, noProfiles]
      rw [lookups, recorded]
      rw [opened] at assigned
      exact .assigned (unsettled settled.active) admitted (assigned.renamed pseudonymous id)

theorem JudgesAt.renamed {rules : List Experiment} {i : Nat} {verdict : Verdict}
    (judged : context.JudgesAt flag rules i verdict) :
    (context.renamed id).JudgesAt flag rules i verdict := by
  obtain ⟨rule, here, judged⟩ := judged
  have hashed := pseudonymous.hashed_renamed id rule
  refine ⟨rule, here, ?_⟩
  cases judged with
  | forced forced => exact .forced forced
  | bucketed unforced meant bucketed => exact .bucketed unforced meant (by rw [hashed, bucketed])
  | passed unforced other => exact .passed unforced other
  | missed unforced meant closed => exact .missed unforced meant (by rw [hashed, closed])

/-- A rollout takes the same way for the user under another id. -/
theorem Pseudonymous.resolveRollout_renamed (flag : Flag) :
    ((context.renamed id).resolveRollout flag).value = (context.resolveRollout flag).value ∧
      ((context.renamed id).resolveRollout flag).events =
        (context.resolveRollout flag).events := by
  obtain ⟨path, walk, _, events⟩ := exists_walk context flag
  obtain ⟨path', walk', _, events'⟩ := exists_walk (context.renamed id) flag
  obtain ⟨rfl, value⟩ := walk'.unique (walk.congr rfl fun _ _ _ judged =>
    judged.renamed pseudonymous id)
  refine ⟨value, ?_⟩
  rw [events, events', events_lookAt_flatMap, events_lookAt_flatMap]
  simp only [pseudonymous.hashed_renamed id]
  rfl

theorem Pseudonymous.holdouts_renamed :
    (context.renamed id).holdoutServes? = context.holdoutServes? ∧
      (context.renamed id).holdoutEvents = context.holdoutEvents := by
  constructor <;> funext holdout
  · simp only [holdoutServes?, pseudonymous.hashed_renamed id]
    rfl
  · simp only [holdoutEvents, pseudonymous.hashed_renamed id]
    rfl

theorem OpenToRules.renamed (openToRules : OpenToRules context flag) :
    OpenToRules (context.renamed id) flag := by
  refine ⟨openToRules.notForced, ?_⟩
  rw [(pseudonymous.holdouts_renamed id).1]
  exact openToRules.notHeld

section Rules
variable (unlisted : ∀ experimentId ∈ flag.experimentIds, ∀ experiment,
    context.config.experimentsById[experimentId]? = some experiment →
      context.Unlisted experiment ∧ (context.renamed id).Unlisted experiment)
include unlisted

theorem PassedOver.renamed {ids : List String} (named : ids ⊆ flag.experimentIds)
    (passed : PassedOver context flag start ids events finish) :
    PassedOver (context.renamed id) flag start ids events finish := by
  induction passed with
  | nil => exact .nil
  | unknown unknown _ ih => exact .unknown unknown (ih (List.subset_of_cons_subset named))
  | undecided known notForced staged _ ih =>
      obtain ⟨here, here'⟩ := unlisted _ (named List.mem_cons_self) _ known
      exact .undecided known notForced (staged.renamed pseudonymous id here here')
        (ih (List.subset_of_cons_subset named))

/-- Whatever a flag decides, it decides in the same way for the user under another id. -/
theorem Layered.renamed {decided : FlagOutcome}
    (layered : Layered context flag start decided events finish) :
    Layered (context.renamed id) flag start decided events finish := by
  obtain ⟨serves, holdoutEvents⟩ := pseudonymous.holdouts_renamed id
  obtain ⟨value, rolloutEvents⟩ := pseudonymous.resolveRollout_renamed id flag
  cases layered with
  | forced forced => exact .forced forced
  | holdout notForced listed passed serves' =>
      rw [← holdoutEvents]
      exact .holdout notForced listed (by rwa [serves]) (by rwa [serves])
  | @experiment before after _ _ _ _ _ _ _ openToRules listed passed known decides =>
      have named : before ⊆ flag.experimentIds := by simp [listed]
      rw [← holdoutEvents]
      refine .experiment (openToRules.renamed pseudonymous id) listed
        (passed.renamed pseudonymous id unlisted named) known ?_
      cases decides with
      | forced forced => exact .forced forced
      | staged notForced staged final =>
          obtain ⟨here, here'⟩ := unlisted _ (by simp [listed]) _ known
          exact .staged notForced (staged.renamed pseudonymous id here here') final
  | rollout openToRules passed served =>
      rw [← holdoutEvents, ← rolloutEvents]
      exact .rollout (openToRules.renamed pseudonymous id)
        (passed.renamed pseudonymous id unlisted (List.Subset.refl _)) (value.trans served)
  | nothing openToRules passed unserved =>
      rw [← holdoutEvents, ← rolloutEvents]
      exact .nothing (openToRules.renamed pseudonymous id)
        (passed.renamed pseudonymous id unlisted (List.Subset.refl _)) (value.trans unserved)

end Rules

end Renamed

end Context
end FeatureFlags
