import FeatureFlags.Proofs.Decision.Rollouts
import FeatureFlags.Proofs.Padding

/-!
Forced decisions are scoped: they are looked up for a flag as a whole and for its rules, and nowhere
else. What a flag decides for a user with more of them is told from these lookups alone.
-/

namespace FeatureFlags

namespace Bandit.Service
variable {σ : Type}

/-- A service that does not look at forced decisions. -/
def IgnoresForced (service : Service σ) : Prop :=
  ∀ (config : Config) (user : User) (forced : Std.ExtTreeMap DecisionScope String)
    (ruleId : String) (options : DecideOptions) (state : σ),
    service.decide config { user with forced } ruleId options state =
      service.decide config user ruleId options state

theorem caching_ignoresForced (client : Client) (correlationId : Nat → String) :
    (caching client correlationId).IgnoresForced :=
  fun _ _ _ _ _ _ => rfl

end Bandit.Service

namespace Config

/-- Where decisions can be forced for a flag: on the flag itself and on each of its rules. -/
def scopesOf (config : Config) (flag : Flag) : List DecisionScope :=
  { flagKey := flag.key } ::
    (rulesOf config.experimentsById config.rolloutsById flag).map fun rule =>
      { flagKey := flag.key, ruleKey := some rule.key }

theorem flagKey_of_mem_scopesOf {config : Config} {flag : Flag} {scope : DecisionScope}
    (listed : scope ∈ config.scopesOf flag) : scope.flagKey = flag.key := by
  obtain rfl | onRule := List.mem_cons.mp listed
  · rfl
  · obtain ⟨rule, _, rfl⟩ := List.mem_map.mp onRule
    rfl

end Config

namespace User

theorem force_id (user : User) (scope : DecisionScope) (variationKey : String) :
    (user.force scope variationKey).id = user.id :=
  rfl

theorem forced?_force_of_ne (user : User) {scope other : DecisionScope}
    (different : scope ≠ other) (variationKey : String) :
    (user.force scope variationKey).forced? other = user.forced? other := by
  simp only [forced?, force]
  rw [Std.ExtTreeMap.getElem?_insert, if_neg (by simpa using different)]

theorem forced?_force_self (user : User) (scope : DecisionScope) (variationKey : String) :
    (user.force scope variationKey).forced? scope = some variationKey :=
  Std.ExtTreeMap.getElem?_insert_self

/-- Forcing a decision has no part in other scopes. -/
theorem forcedVariation_force_of_ne (user : User) (config : Config) {scope other : DecisionScope}
    (different : scope ≠ other) (variationKey : String) :
    (user.force scope variationKey).forcedVariation config other =
      user.forcedVariation config other := by
  simp only [forcedVariation, user.forced?_force_of_ne different]
  rfl

/-- The note on a forced decision for a variation that the flag cannot serve. -/
def invalidForcedNote (user : User) (scope : DecisionScope) : Reason :=
  let target := match scope.ruleKey with
    | some ruleKey => s!"flag ({scope.flagKey}), rule ({ruleKey})"
    | none => s!"flag ({scope.flagKey})"
  let place := s!"is mapped to {target} and user ({user.id}) in the forced decision map."
  { severity := .info, message := s!"Invalid variation {place}" }

/-- A decision that is forced where none was, with a variation that the flag cannot serve, leaves a
note and nothing else. -/
theorem forcedVariation_force_invalid {user : User} {config : Config} {scope : DecisionScope}
    {variationKey : String} (unforced : user.forced? scope = none)
    (unserved : config.flagVariationByKey? scope.flagKey variationKey = none)
    (other : DecisionScope) :
    Traced.NotesMore (· = user.invalidForcedNote scope) (user.forcedVariation config other)
      ((user.force scope variationKey).forcedVariation config other) := by
  by_cases same : scope = other
  · subst same
    simp only [forcedVariation, unforced, user.forced?_force_self, unserved]
    exact ⟨rfl, rfl, .add rfl .nil⟩
  · rw [user.forcedVariation_force_of_ne config same]
    exact .refl _

end User
namespace Context
variable {σ : Type} (context : Context σ) (forced : Std.ExtTreeMap DecisionScope String)

/-- The same context, for a user with other forced decisions. -/
def withForced : Context σ := { context with user := { context.user with forced } }

theorem assignByBandit_withForced {service : Bandit.Service σ} (heedless : service.IgnoresForced)
    (settings : BanditSettings) (experiment : Experiment) (bucketingId : String) :
    (context.withForced forced).assignByBandit service settings experiment bucketingId =
      context.assignByBandit service settings experiment bucketingId := by
  have consulted : Resolution.consult service context.config { context.user with forced }
      experiment.id context.options =
        Resolution.consult service context.config context.user experiment.id context.options := by
    funext progress
    simp only [Resolution.consult, heedless _ _ _ _ _ _]
  simp only [assignByBandit, withForced, consulted]

section Heedless
variable (heedless : ∀ service ∈ context.bandit, service.IgnoresForced)
include heedless

theorem assign_withForced (experiment : Experiment) :
    (context.withForced forced).assign experiment = context.assign experiment := by
  have sameBandit : (context.withForced forced).bandit = context.bandit := rfl
  simp only [assign, sameBandit]
  congr 1
  funext bucketingId
  split
  · rename_i settings service _ provided
    exact context.assignByBandit_withForced forced (heedless service provided) _ _ _
  · rfl
  · rfl

/-- Forced decisions have no part in what an experiment decides by itself. -/
theorem resolveExperiment_withForced (experiment : Experiment) :
    (context.withForced forced).resolveExperiment experiment =
      context.resolveExperiment experiment := by
  simp only [resolveExperiment, assignIfAdmitted, context.assign_withForced forced heedless]
  rfl

end Heedless

variable {context forced} {flag : Flag} {extra : Reason → Prop}

/-- Whatever is forced for a flag or a rule of it, more notes are all that comes of it. -/
def ForcesOnlyNotes (context : Context σ) (forced : Std.ExtTreeMap DecisionScope String)
    (flag : Flag) (extra : Reason → Prop) : Prop :=
  ∀ scope ∈ context.config.scopesOf flag,
    Traced.NotesMore extra (context.user.forcedVariation context.config scope)
      ({ context.user with forced }.forcedVariation context.config scope)

namespace ForcesOnlyNotes

theorem forcedByFlag (notes : context.ForcesOnlyNotes forced flag extra) :
    Traced.NotesMore extra (context.forcedByFlag flag)
      ((context.withForced forced).forcedByFlag flag) :=
  (notes _ List.mem_cons_self).bind fun _ => .refl _

theorem forcedByRule (notes : context.ForcesOnlyNotes forced flag extra) {rule : Experiment}
    (refers : rule ∈ Config.rulesOf context.config.experimentsById context.config.rolloutsById flag)
    (ruleType : RuleType) :
    Traced.NotesMore extra (context.forcedByRule flag ruleType rule)
      ((context.withForced forced).forcedByRule flag ruleType rule) :=
  (notes _ (List.mem_cons_of_mem _ (List.mem_map_of_mem refers))).bind fun _ => .refl _

theorem resolveRule (notes : context.ForcesOnlyNotes forced flag extra)
    (heedless : ∀ service ∈ context.bandit, service.IgnoresForced) {experimentId : String}
    (named : experimentId ∈ flag.experimentIds) :
    Resolution.NotesMore extra (context.resolveRule flag experimentId)
      ((context.withForced forced).resolveRule flag experimentId) := by
  have sameConfig : (context.withForced forced).config = context.config := rfl
  simp only [Context.resolveRule, context.resolveExperiment_withForced forced heedless, sameConfig]
  cases known : context.config.experimentsById[experimentId]? with
  | none => exact .refl _
  | some experiment =>
      have refers := List.mem_filterMap.mpr ⟨experimentId, named, known⟩
      refine (Resolution.NotesMore.lift (notes.forcedByRule (List.mem_append_left _ refers)
        .experiment)).bind fun decided => ?_
      exact .refl _

theorem examineRule (notes : context.ForcesOnlyNotes forced flag extra) {rule : Experiment}
    (refers : rule ∈ Config.rulesOf context.config.experimentsById context.config.rolloutsById flag)
    (name bucketingId : String) :
    Traced.NotesMore extra (context.examineRule flag rule name bucketingId)
      ((context.withForced forced).examineRule flag rule name bucketingId) := by
  refine (notes.forcedByRule refers .rollout).bind fun decided => ?_
  exact .refl _

theorem examineLastRule (notes : context.ForcesOnlyNotes forced flag extra) {rule : Experiment}
    (refers : rule ∈ Config.rulesOf context.config.experimentsById context.config.rolloutsById flag)
    (bucketingId : String) :
    Traced.NotesMore extra (context.examineLastRule flag rule bucketingId)
      ((context.withForced forced).examineLastRule flag rule bucketingId) :=
  (notes.examineRule refers _ _).bind fun _ => .refl _

theorem walkRules (notes : context.ForcesOnlyNotes forced flag extra) (bucketingId : String)
    (position : Nat) {rules : List Experiment}
    (refer : ∀ rule ∈ rules,
      rule ∈ Config.rulesOf context.config.experimentsById context.config.rolloutsById flag) :
    Traced.NotesMore extra (context.walkRules flag bucketingId position rules)
      ((context.withForced forced).walkRules flag bucketingId position rules) := by
  induction rules generalizing position with
  | nil => exact .refl _
  | cons rule rest ih =>
      have here := refer rule List.mem_cons_self
      have later := fun other member => refer other (List.mem_cons_of_mem _ member)
      cases rest with
      | nil => exact notes.examineLastRule here bucketingId
      | cons next rules =>
          refine (notes.examineRule here _ _).bind fun verdict => ?_
          cases verdict with
          | decided decided => exact .refl _
          | passed => exact ih (position + 1) later
          | missed =>
              refine (Traced.NotesMore.refl _).bind fun _ => ?_
              exact notes.examineLastRule (later _ (List.getLast_mem _)) bucketingId

theorem resolveRollout (notes : context.ForcesOnlyNotes forced flag extra) :
    Traced.NotesMore extra (context.resolveRollout flag)
      ((context.withForced forced).resolveRollout flag) := by
  have sameConfig : (context.withForced forced).config = context.config := rfl
  simp only [Context.resolveRollout, sameConfig]
  split
  · exact .refl _
  · refine (Traced.NotesMore.refl _).bind fun bucketingId => ?_
    exact notes.walkRules bucketingId 0 fun rule member => List.mem_append_right _ member

/-- What a flag decides for the user with other forced decisions differs in notes only. -/
theorem resolveFlag (notes : context.ForcesOnlyNotes forced flag extra)
    (heedless : ∀ service ∈ context.bandit, service.IgnoresForced) :
    Resolution.NotesMore extra (context.resolveFlag flag)
      ((context.withForced forced).resolveFlag flag) := by
  have holdouts : (context.withForced forced).resolveHoldouts flag =
    context.resolveHoldouts flag := rfl
  have experiments : Resolution.NotesMore extra (context.resolveExperiments flag)
      ((context.withForced forced).resolveExperiments flag) :=
    .firstSome fun id named => notes.resolveRule heedless named
  simp only [Context.resolveFlag, holdouts]
  refine (Resolution.NotesMore.orElse (.lift notes.forcedByFlag) (.orElse (.refl _)
    (.orElse experiments (.lift notes.resolveRollout)))).bind fun _ => ?_
  exact .refl _

end ForcesOnlyNotes
/-- Forcing a decision in a scope that is none of a flag's has no part in what it decides. -/
theorem resolveFlag_force_elsewhere (heedless : ∀ service ∈ context.bandit, service.IgnoresForced)
    {scope : DecisionScope} (elsewhere : ∀ other ∈ context.config.scopesOf flag, scope ≠ other)
    (variationKey : String) :
    (context.withForced (context.user.force scope variationKey).forced).resolveFlag flag =
      context.resolveFlag flag := by
  have notes : context.ForcesOnlyNotes (context.user.force scope variationKey).forced flag
      fun _ => False := by
    intro other listed
    have same := context.user.forcedVariation_force_of_ne context.config
      (elsewhere other listed) variationKey
    exact same ▸ .refl _
  exact (notes.resolveFlag heedless).eq_of_none fun _ => id

end Context
end FeatureFlags
