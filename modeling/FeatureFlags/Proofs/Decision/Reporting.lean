import FeatureFlags.Decision.FlagDecision
import FeatureFlags.Proofs.Decision.Explanations

/-!
Options about reporting: whether reasons and variables are reported, and whether flags that are not
enabled are listed. They have no part in what a flag decides, and whatever is reported without a
request is reported with one, too.
-/

namespace FeatureFlags

/-- Options about what the caller gets to see of a decision. -/
def DecideOption.isReporting : DecideOption → Bool
  | includeReasons | enabledFlagsOnly | excludeVariables => true
  | ignoreProfiles | ignoreBanditCache | resetBanditCache | invalidateUserBanditCache => false

/-- The same options, reporting aside. -/
def DecideOptions.AgreeButReporting (options options' : DecideOptions) : Prop :=
  ∀ o, o.isReporting = false → options.contains o = options'.contains o

theorem DecideOptions.agreeButReporting_union (options : DecideOptions)
    {added : List DecideOption} (reporting : ∀ o ∈ added, o.isReporting = true) :
    options.AgreeButReporting (options.union (ofList added)) := by
  intro o other
  have absent : added.contains o = false := by
    refine Bool.eq_false_iff.mpr fun found => ?_
    rw [reporting o (List.contains_iff_mem.mp found)] at other
    cases other
  rw [contains_union, contains_ofList, absent, Bool.or_false]

namespace Bandit.Service
variable {σ : Type}

/-- A service that does not look at options about reporting. -/
def IgnoresReporting (service : Service σ) : Prop :=
  ∀ (config : Config) (user : User) (ruleId : String) (options options' : DecideOptions),
    options.AgreeButReporting options' → ∀ state,
      service.decide config user ruleId options state =
        service.decide config user ruleId options' state

theorem caching_ignoresReporting (client : Client) (correlationId : Nat → String) :
    (caching client correlationId).IgnoresReporting := by
  intro config user ruleId options options' agree state
  simp only [caching, decideCached, prepareCache, agree .ignoreBanditCache rfl,
    agree .resetBanditCache rfl, agree .invalidateUserBanditCache rfl]

end Bandit.Service

namespace Context
variable {σ : Type} (context : Context σ) {options : DecideOptions}

theorem assignByBandit_withOptions {service : Bandit.Service σ}
    (heedless : service.IgnoresReporting) (agree : context.options.AgreeButReporting options)
    (settings : BanditSettings) (experiment : Experiment) (bucketingId : String) :
    { context with options }.assignByBandit service settings experiment bucketingId =
      context.assignByBandit service settings experiment bucketingId := by
  have consulted : Resolution.consult service context.config context.user experiment.id options =
      Resolution.consult service context.config context.user experiment.id context.options := by
    funext progress
    simp only [Resolution.consult, heedless _ _ _ _ _ agree]
  simp only [assignByBandit, consulted]

section Heedless
variable (heedless : ∀ service ∈ context.bandit, service.IgnoresReporting)
  (agree : context.options.AgreeButReporting options)
include heedless agree

theorem assign_withOptions (experiment : Experiment) :
    { context with options }.assign experiment = context.assign experiment := by
  simp only [assign]
  congr 1
  funext bucketingId
  split
  · rename_i settings service _ provided
    exact context.assignByBandit_withOptions (heedless service provided) agree _ _ _
  · rfl
  · rfl

theorem resolveExperiment_withOptions (experiment : Experiment) :
    { context with options }.resolveExperiment experiment =
      context.resolveExperiment experiment := by
  simp only [resolveExperiment, assignIfAdmitted, context.assign_withOptions heedless agree]
  rfl

theorem resolveRule_withOptions (flag : Flag) (experimentId : String) :
    { context with options }.resolveRule flag experimentId =
      context.resolveRule flag experimentId := by
  simp only [resolveRule, context.resolveExperiment_withOptions heedless agree]
  rfl

/-- What a flag decides, on whatever way, does not depend on options about reporting. -/
theorem resolveFlag_withOptions (flag : Flag) :
    { context with options }.resolveFlag flag = context.resolveFlag flag := by
  have rules : { context with options }.resolveRule flag = context.resolveRule flag :=
    funext (context.resolveRule_withOptions heedless agree flag)
  have rollout := context.resolveRollout_with context.bandit context.overrides context.profiles
    options flag
  simp only [resolveFlag, resolveExperiments, rules, rollout]
  rfl

end Heedless
end Context

namespace Flag

theorem hasErrors_keyedValues (variation : Option Variation) (declared : List FlagVariable) :
    Reason.hasErrors (keyedValues variation declared).reasons = false := by
  induction declared with
  | nil => rfl
  | cons first rest ih =>
      have here : Reason.hasErrors (first.value variation).reasons = false := by
        simp only [FlagVariable.value]
        split <;> rfl
      simp only [keyedValues, Traced.reasons_bind, Traced.reasons_pure, List.append_nil,
        Reason.hasErrors_append, here, ih, Bool.or_self]

/-- Values that do not fit their variables are no errors. -/
theorem hasErrors_variableValues (flag : Flag) (variation : Option Variation) :
    Reason.hasErrors (flag.variableValues variation).reasons = false := by
  have listed := hasErrors_keyedValues variation flag.declaredVariables
  simp only [variableValues]
  split
  · simp only [Traced.reasons_bind, Traced.info, Traced.reasons_note, Traced.reasons_pure,
      Reason.hasErrors_append, listed]
    rfl
  · simp only [Traced.reasons_bind, Traced.reasons_pure, List.append_nil, listed]

end Flag

namespace FlagDecision

variable (flag : Flag) (decided : FlagOutcome) (reasons : List Reason) (user : User)
  (config : Config) (options options' : DecideOptions)

theorem hasErrors_resolveVariables (outcome : Outcome) :
    Reason.hasErrors (resolveVariables flag outcome options).reasons = false := by
  simp only [resolveVariables]
  split
  · rfl
  · exact flag.hasErrors_variableValues _

/-- Without a request for reasons only errors are reported, and variables give none. -/
theorem reasons_ofOutcome (unasked : options.contains .includeReasons = false) :
    (ofOutcome flag decided reasons user config options).reasons = Reason.report false reasons := by
  have harmless := hasErrors_resolveVariables flag options decided.outcome
  simp only [ofOutcome, unasked, Reason.report_append, Reason.report_of_no_errors harmless,
    List.append_nil]

theorem sublist_reasons_ofOutcome :
    (Reason.report false reasons).Sublist
      (ofOutcome flag decided reasons user config options).reasons := by
  simp only [ofOutcome, Reason.report_append]
  exact (Reason.report_sublist _ reasons).trans (List.sublist_append_left _ _)

/-- A decision without the parts that options about reporting are about. -/
def bare (decision : FlagDecision) : FlagDecision :=
  { decision with variableValues := ∅, reasons := [] }

/-- One decision, reported with the first options and with the second ones. -/
structure AgreeButReported (decision decision' : FlagDecision)
    (options options' : DecideOptions) : Prop where
  bare_eq : decision.bare = decision'.bare
  /-- Reasons that are reported without a request are reported by any other call, too. -/
  reasons_sublist : options.contains .includeReasons = false →
    decision.reasons.Sublist decision'.reasons
  reasons_eq : options.contains .includeReasons = false →
    options'.contains .includeReasons = false → decision.reasons = decision'.reasons
  variableValues_eq :
    options.contains .excludeVariables = options'.contains .excludeVariables →
      decision.variableValues = decision'.variableValues

theorem agreeButReported_refl (decision : FlagDecision) :
    decision.AgreeButReported decision options options' where
  bare_eq := rfl
  reasons_sublist _ := .refl _
  reasons_eq _ _ := rfl
  variableValues_eq _ := rfl

theorem agreeButReported_ofOutcome :
    (ofOutcome flag decided reasons user config options).AgreeButReported
      (ofOutcome flag decided reasons user config options') options options' where
  bare_eq := rfl
  reasons_sublist unasked := by
    rw [reasons_ofOutcome flag decided reasons user config options unasked]
    exact sublist_reasons_ofOutcome flag decided reasons user config options'
  reasons_eq unasked unasked' := by
    rw [reasons_ofOutcome flag decided reasons user config options unasked,
      reasons_ofOutcome flag decided reasons user config options' unasked']
  variableValues_eq same := by simp only [ofOutcome, resolveVariables, same]

end FlagDecision
end FeatureFlags
