import FeatureFlags.Proofs.Decision.Explanations
import FeatureFlags.Proofs.Decision.Layers
import FeatureFlags.Proofs.Project.Config

/-!
Decisions are well formed. A variation of an experiment is one of its own, and the stage that a
decision names fits the kind of the rule that decided. Only forced decisions reach beyond their
rule, and they stay with the rules that the flag refers to.
-/

namespace FeatureFlags

/-- The kind of rule that decides in a stage. Any rule, or none, can be forced. -/
def Stage.ruleType? : Stage → Option RuleType
  | override | whitelist | sticky | experiment | bandit => some .experiment
  | rollout => some .rollout
  | holdout => some .holdout
  | forced => none

/-- A decision on an experiment names the stage it was made in; without a variation there is none,
unless a bandit has failed and says so. -/
structure VariationDecision.WellFormed (decision : VariationDecision) (experiment : Experiment) :
    Prop where
  failed : decision.outcome.isError = true →
    decision.outcome.variation? = none ∧ decision.outcome.stage? = some .bandit ∧
      ∃ reason ∈ decision.reasons, reason.severity = .error
  served : ∀ variation, decision.outcome.variation? = some variation →
    decision.outcome.isError = false ∧ decision.outcome.stage?.isSome ∧
      variation ∈ experiment.variations
  undecided : decision.outcome.variation? = none → decision.outcome.isError = false →
    decision.outcome.stage? = none
  correlated : decision.outcome.correlationId?.isSome → decision.outcome.stage? = some .bandit

/-- A decision on a flag fits the rule that made it, and a forced one the rules of the flag. -/
structure FlagOutcome.WellFormed (decided : FlagOutcome) (config : Config) (flag : Flag) :
    Prop where
  typed : (decided.rule.map (·.2)).isSome ↔ (decided.rule.map (·.1)).isSome
  staged : ∀ stage ruleType, decided.outcome.stage? = some stage →
    stage.ruleType? = some ruleType → decided.rule.map (·.1) = some ruleType
  own : ∀ variation, decided.outcome.variation? = some variation →
    decided.outcome.stage? ≠ some .forced →
      ∃ rule, decided.rule.map (·.2) = some rule ∧ variation ∈ rule.variations
  forced : ∀ variation, decided.outcome.variation? = some variation →
    decided.outcome.stage? = some .forced → config.CanServe flag variation

namespace Outcome
variable {ruleType : RuleType} {rule : Experiment}

/-- An outcome that a rule of some kind comes to by itself. -/
structure BelongsTo (outcome : Outcome) (ruleType : RuleType) (rule : Experiment) : Prop where
  staged : ∀ stage, outcome.stage? = some stage → stage.ruleType? = some ruleType
  own : ∀ variation, outcome.variation? = some variation → variation ∈ rule.variations

theorem undecided_belongsTo : undecided.BelongsTo ruleType rule :=
  ⟨nofun, nofun⟩

theorem served_belongsTo {variation : Variation} {source : Source}
    (staged : source.stage.ruleType? = some ruleType) (own : variation ∈ rule.variations) :
    (served variation source).BelongsTo ruleType rule := by
  constructor
  · rintro _ ⟨⟩
    exact staged
  · rintro _ ⟨⟩
    exact own

theorem failed_belongsTo {correlationId : Option String} :
    (failed correlationId).BelongsTo .experiment rule := by
  constructor
  · rintro _ ⟨⟩
    rfl
  · rintro _ ⟨⟩

theorem BelongsTo.wellFormed {outcome : Outcome} (belongs : outcome.BelongsTo ruleType rule)
    (config : Config) (flag : Flag) :
    FlagOutcome.WellFormed { rule := some (ruleType, rule), outcome } config flag where
  typed := Iff.rfl
  staged stage _ decidedIn kind := (belongs.staged stage decidedIn).symm.trans kind
  own variation given _ := ⟨rule, rfl, belongs.own variation given⟩
  forced _ _ forced := nomatch belongs.staged _ forced

theorem BelongsTo.wellFormed_variationDecision {outcome : Outcome}
    (belongs : outcome.BelongsTo .experiment rule) {reasons : List Reason}
    (explained : outcome.isError = true → ∃ reason ∈ reasons, reason.severity = .error) :
    VariationDecision.WellFormed { outcome, reasons } rule := by
  cases outcome with
  | undecided => exact ⟨nofun, nofun, fun _ _ => rfl, nofun⟩
  | failed _ => exact ⟨fun _ => ⟨rfl, rfl, explained rfl⟩, nofun, nofun, fun _ => rfl⟩
  | served variation source =>
      refine ⟨nofun, ?_, nofun, fun correlated => ?_⟩
      · rintro _ ⟨⟩
        exact ⟨rfl, rfl, belongs.own variation rfl⟩
      · cases source with
        | bandit _ => rfl
        | _ => cases correlated

end Outcome

namespace FlagOutcome

theorem wellFormed_of_forced {config : Config} {flag : Flag} {variation : Variation}
    (servable : config.CanServe flag variation) (rule : Option (RuleType × Experiment)) :
    WellFormed { rule, outcome := .served variation .forced } config flag where
  typed := by simp only [Option.isSome_map]
  staged := by rintro _ _ ⟨⟩ ⟨⟩
  own _ _ unforced := absurd rfl unforced
  forced := by
    rintro _ ⟨⟩ _
    exact servable

theorem wellFormed_undecided (config : Config) (flag : Flag) :
    WellFormed {} config flag where
  typed := Iff.rfl
  staged _ _ none := nomatch none
  own _ none := nomatch none
  forced _ none := nomatch none

end FlagOutcome

namespace Experiment

theorem mem_variations_of_variationById? {experiment : Experiment} {id : String}
    {variation : Variation} (found : experiment.variationById? id = some variation) :
    variation ∈ experiment.variations :=
  List.mem_of_find?_eq_some found

theorem belongsTo_outcomeOf (experiment : Experiment)
    (answer : Except Bandit.Failure Bandit.Choice) :
    (experiment.outcomeOf answer).BelongsTo .experiment experiment := by
  simp only [outcomeOf]
  split
  · exact Outcome.failed_belongsTo
  · split
    · exact Outcome.failed_belongsTo
    · rename_i found
      exact Outcome.served_belongsTo rfl (mem_variations_of_variationById? found)

end Experiment

namespace Context
variable {σ : Type} {context : Context σ} {experiment : Experiment} {flag : Flag}
  {start finish : Progress σ} {outcome : Outcome} {decided : FlagOutcome} {variation : Variation}
  {events : List Event}

theorem mem_variations_of_hashed
    (hashed : (context.hashed experiment).value = some variation) :
    variation ∈ experiment.variations :=
  Experiment.mem_variations_of_variationById?
    (Bucketing.variationById?_of_bucket _ _ _ _ hashed)

theorem Assigned.belongsTo (assigned : Assigned context experiment start outcome events finish) :
    outcome.BelongsTo .experiment experiment := by
  cases assigned with
  | hash =>
      cases hashed : (context.hashed experiment).value with
      | none => exact Outcome.undecided_belongsTo
      | some variation => exact Outcome.served_belongsTo rfl (mem_variations_of_hashed hashed)
  | outsideShare => exact Outcome.undecided_belongsTo
  | bandit => exact experiment.belongsTo_outcomeOf _

/-- Whatever stage of an experiment decides, it decides for a variation of that experiment. -/
theorem Staged.belongsTo (staged : Staged context experiment start outcome events finish) :
    outcome.BelongsTo .experiment experiment := by
  cases staged with
  | inactive | outsideAudiences => exact Outcome.undecided_belongsTo
  | override _ named =>
      obtain ⟨id, _, found⟩ := Option.bind_eq_some_iff.mp named
      exact Outcome.served_belongsTo rfl (Experiment.mem_variations_of_variationById? found)
  | whitelist _ _ named =>
      obtain ⟨key, _, found⟩ := Option.bind_eq_some_iff.mp named
      exact Outcome.served_belongsTo rfl (List.mem_of_find?_eq_some found)
  | sticky _ _ _ stored =>
      obtain ⟨profile, _, named⟩ := Option.bind_eq_some_iff.mp stored
      obtain ⟨id, _, found⟩ := Option.bind_eq_some_iff.mp named
      exact Outcome.served_belongsTo rfl (Experiment.mem_variations_of_variationById? found)
  | assigned _ _ assigned => exact assigned.belongsTo

/-- Whatever the user forces by its key, some rule of the flag can serve. -/
def OffersForced (context : Context σ) (flag : Flag) : Prop :=
  ∀ key variation, context.config.flagVariationByKey? flag.key key = some variation →
    context.config.CanServe flag variation

theorem OffersForced.forcedOnFlag (offers : OffersForced context flag)
    (forced : context.forcedOnFlag? flag = some variation) :
    context.config.CanServe flag variation := by
  obtain ⟨key, _, found⟩ := Option.bind_eq_some_iff.mp forced
  exact offers key variation found

theorem OffersForced.forcedOnRule (offers : OffersForced context flag) {rule : Experiment}
    (forced : context.forcedOnRule? flag rule = some variation) :
    context.config.CanServe flag variation := by
  obtain ⟨key, _, found⟩ := Option.bind_eq_some_iff.mp forced
  exact offers key variation found

/-- Whatever layer of a flag decides, the decision is well formed. -/
theorem Layered.wellFormed (layered : Layered context flag start decided events finish)
    (offers : OffersForced context flag) : decided.WellFormed context.config flag := by
  cases layered with
  | forced forced => exact FlagOutcome.wellFormed_of_forced (offers.forcedOnFlag forced) none
  | holdout _ _ _ serves =>
      simp only [holdoutServes?] at serves
      split at serves
      · exact (Outcome.served_belongsTo rfl (mem_variations_of_hashed serves)).wellFormed _ _
      · cases serves
  | experiment _ _ _ _ decides =>
      cases decides with
      | forced forced => exact FlagOutcome.wellFormed_of_forced (offers.forcedOnRule forced) _
      | staged _ staged _ => exact staged.belongsTo.wellFormed _ _
  | rollout _ _ served =>
      obtain ⟨rule, _, _, _, examined⟩ := examined_of_resolveRollout served
      obtain ⟨variation, source, rfl, ⟨rfl, own⟩ | ⟨rfl, forced⟩⟩ :=
        decided_of_examineRule examined
      · exact (Outcome.served_belongsTo rfl own).wellFormed _ _
      · exact FlagOutcome.wellFormed_of_forced (offers.forcedOnRule forced) _
  | nothing => exact FlagOutcome.wellFormed_undecided _ _

/-- What an experiment decides is well formed, whatever reasons are added to its own. -/
theorem wellFormed_resolveExperiment (context : Context σ) (experiment : Experiment)
    (start : Progress σ) (added : List Reason) :
    let resolved := context.resolveExperiment experiment start
    VariationDecision.WellFormed
      { outcome := resolved.value.1, reasons := resolved.reasons ++ added } experiment := by
  intro resolved
  obtain ⟨outcome, events, finish, staged⟩ := exists_staged context experiment start
  have reached : resolved.value.1 = outcome := congrArg Prod.fst staged.runs.1
  have belongs : resolved.value.1.BelongsTo .experiment experiment := reached ▸ staged.belongsTo
  refine belongs.wellFormed_variationDecision fun failed => ?_
  have errors := context.explains_resolveExperiment experiment start failed
  obtain ⟨reason, member, isError⟩ := List.any_eq_true.mp errors
  exact ⟨reason, List.mem_append_left _ member, of_decide_eq_true isError⟩

end Context
end FeatureFlags
