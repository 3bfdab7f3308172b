import FeatureFlags.Proofs.Decision.Assignments

/-!
Decisions without bandits. They are plain functions of the profile of the user, and nothing else
changes in the course of a call.
-/

namespace FeatureFlags
namespace Context
variable {σ : Type}

/-- What an experiment decides without a bandit. -/
def outcomeFor (context : Context σ) (experiment : Experiment) (profile : Option UserProfile) :
    Outcome :=
  if experiment.isActive then
    match context.overrides.variationOf? experiment context.user.id with
    | some variation => .served variation .override
    | none =>
      match experiment.whitelistedVariation? context.user.id with
      | some variation => .served variation .whitelist
      | none =>
        match profile.bind (·.variationOf? experiment) with
        | some variation => .served variation .sticky
        | none =>
          if experiment.admits context.config context.user.attributes then
            (context.hashed experiment).value.elim .undecided (.served · .experiment)
          else .undecided
  else .undecided

/-- What an experiment rule decides without a bandit. -/
def ruleOutcome (context : Context σ) (flag : Flag) (profile : Option UserProfile) (id : String) :
    Option FlagOutcome :=
  match context.config.experimentsById[id]? with
  | none => none
  | some experiment =>
    match context.forcedOnRule? flag experiment with
    | some variation =>
      some { rule := some (.experiment, experiment), outcome := .served variation .forced }
    | none =>
      let outcome := context.outcomeFor experiment profile
      if outcome.isFinal then some { rule := some (.experiment, experiment), outcome } else none

/-- What a flag decides without a bandit. -/
def flagOutcome (context : Context σ) (flag : Flag) (profile : Option UserProfile) :
    FlagOutcome :=
  match (context.forcedByFlag flag).value with
  | some decided => decided
  | none =>
    match (context.resolveHoldouts flag).value with
    | some decided => decided
    | none =>
      match flag.experimentIds.findSome? (context.ruleOutcome flag profile) with
      | some decided => decided
      | none => (context.resolveRollout flag).value.getD {}

/-- Whichever store a profile is from, it leads to the same decision. -/
theorem flagOutcome_withProfiles (context : Context σ) (profiles : Option ProfileStore)
    (flag : Flag) (profile : Option UserProfile) :
    { context with profiles }.flagOutcome flag profile = context.flagOutcome flag profile := by
  simp only [flagOutcome, resolveRollout_withProfiles]
  rfl

variable {context : Context σ} {start finish : Progress σ} {events : List Event}

theorem Staged.eq_outcomeFor {experiment : Experiment} {outcome : Outcome}
    (noBandit : context.bandit = none)
    (staged : Staged context experiment start outcome events finish) :
    outcome = context.outcomeFor experiment (context.profileAt start) := by
  cases staged with
  | inactive inactive => simp [outcomeFor, inactive]
  | override active named => simp [outcomeFor, active, named]
  | whitelist active notOverridden named => simp [outcomeFor, active, notOverridden, named]
  | sticky active notOverridden notWhitelisted stored =>
      simp only [storedVariation?] at stored
      simp [outcomeFor, active, notOverridden, notWhitelisted, stored]
  | outsideAudiences unsettled barred =>
      obtain ⟨active, notOverridden, notWhitelisted, notStored⟩ := unsettled
      simp only [storedVariation?] at notStored
      simp [outcomeFor, active, notOverridden, notWhitelisted, notStored, barred]
  | assigned unsettled admitted assigned =>
      obtain ⟨active, notOverridden, notWhitelisted, notStored⟩ := unsettled
      simp only [storedVariation?] at notStored
      cases assigned with
      | hash _ => simp [outcomeFor, active, notOverridden, notWhitelisted, notStored, admitted]
      | outsideShare _ provided _ | bandit _ provided _ =>
          rw [noBandit] at provided
          cases provided

theorem Staged.bandit_eq {experiment : Experiment} {outcome : Outcome}
    (noBandit : context.bandit = none)
    (staged : Staged context experiment start outcome events finish) :
    finish.bandit = start.bandit := by
  have recorded (variation : Option Variation) (reached : Progress σ) :
      (context.recorded experiment variation reached).bandit = reached.bandit := by
    simp only [Context.recorded]
    split <;> rfl
  cases staged with
  | inactive _ | override _ _ | whitelist _ _ _ => rfl
  | sticky _ _ _ _ | outsideAudiences _ _ => exact context.bandit_opened start
  | assigned _ _ assigned =>
      rw [recorded]
      cases assigned with
      | hash _ => exact context.bandit_opened start
      | outsideShare _ provided _ | bandit _ provided _ =>
          rw [noBandit] at provided
          cases provided

theorem PassedOver.ruleOutcome_eq_none {flag : Flag} {ids : List String}
    (noBandit : context.bandit = none)
    (passed : PassedOver context flag start ids events finish) :
    ∀ id ∈ ids, context.ruleOutcome flag (context.profileAt start) id = none := by
  induction passed with
  | nil => simp
  | unknown unknown _ ih =>
      refine List.forall_mem_cons.mpr ⟨?_, ih⟩
      simp [ruleOutcome, unknown]
  | undecided known notForced staged _ ih =>
      have undecided := staged.eq_outcomeFor noBandit
      rw [staged.reaches.profileAt_eq_of_none] at ih
      refine List.forall_mem_cons.mpr ⟨?_, ih⟩
      simp [ruleOutcome, known, notForced, ← undecided, Outcome.isFinal]

theorem PassedOver.bandit_eq {flag : Flag} {ids : List String} (noBandit : context.bandit = none)
    (passed : PassedOver context flag start ids events finish) : finish.bandit = start.bandit := by
  induction passed with
  | nil => rfl
  | unknown _ _ ih => exact ih
  | undecided _ _ staged _ ih => exact ih.trans (staged.bandit_eq noBandit)

theorem RuleDecides.ruleOutcome_eq {flag : Flag} {id : String} {experiment : Experiment}
    {outcome : Outcome} (noBandit : context.bandit = none)
    (known : context.config.experimentsById[id]? = some experiment)
    (decides : RuleDecides context flag experiment start outcome events finish) :
    context.ruleOutcome flag (context.profileAt start) id =
      some { rule := some (.experiment, experiment), outcome } := by
  cases decides with
  | forced forced => simp [ruleOutcome, known, forced]
  | staged notForced staged final =>
      have outcome_eq := staged.eq_outcomeFor noBandit
      simp [ruleOutcome, known, notForced, ← outcome_eq, isFinal_of_decides final]

theorem RuleDecides.bandit_eq {flag : Flag} {experiment : Experiment} {outcome : Outcome}
    (noBandit : context.bandit = none)
    (decides : RuleDecides context flag experiment start outcome events finish) :
    finish.bandit = start.bandit := by
  cases decides with
  | forced _ => rfl
  | staged _ staged _ => exact staged.bandit_eq noBandit

theorem OpenToRules.flagOutcome_eq {flag : Flag} (openToRules : OpenToRules context flag)
    (profile : Option UserProfile) :
    context.flagOutcome flag profile =
      ((flag.experimentIds.findSome? (context.ruleOutcome flag profile)).or
        (context.resolveRollout flag).value).getD {} := by
  have unforced := value_forcedByFlag context flag
  rw [openToRules.notForced, Option.map_none] at unforced
  simp only [flagOutcome, unforced, (resolveHoldouts_of_none openToRules.notHeld).1]
  cases flag.experimentIds.findSome? (context.ruleOutcome flag profile) <;> rfl

/-- Without a bandit the decision on a flag depends on nothing but the profile of the user. -/
theorem Layered.eq_flagOutcome {flag : Flag} {decided : FlagOutcome}
    (noBandit : context.bandit = none)
    (layered : Layered context flag start decided events finish) :
    decided = context.flagOutcome flag (context.profileAt start) := by
  cases layered with
  | forced forced => simp [flagOutcome, value_forcedByFlag, forced]
  | holdout notForced listed passed serves =>
      have held := (resolveHoldouts_of_some listed passed serves).1
      simp [flagOutcome, value_forcedByFlag, notForced, held]
  | experiment openToRules listed passed known decides =>
      have here := decides.ruleOutcome_eq noBandit known
      rw [passed.reaches.profileAt_eq_of_none] at here
      have earlier := List.findSome?_eq_none_iff.mpr (passed.ruleOutcome_eq_none noBandit)
      rw [openToRules.flagOutcome_eq, listed, List.findSome?_append, earlier,
        List.findSome?_cons, here]
      rfl
  | rollout openToRules passed served | nothing openToRules passed served =>
      have exhausted := List.findSome?_eq_none_iff.mpr (passed.ruleOutcome_eq_none noBandit)
      rw [openToRules.flagOutcome_eq, exhausted, served]
      rfl

theorem Layered.bandit_eq {flag : Flag} {decided : FlagOutcome} (noBandit : context.bandit = none)
    (layered : Layered context flag start decided events finish) :
    finish.bandit = start.bandit := by
  cases layered with
  | forced _ | holdout _ _ _ _ => rfl
  | experiment _ _ passed _ decides =>
      exact (decides.bandit_eq noBandit).trans (passed.bandit_eq noBandit)
  | rollout _ passed _ | nothing _ passed _ => exact passed.bandit_eq noBandit

end Context
end FeatureFlags
