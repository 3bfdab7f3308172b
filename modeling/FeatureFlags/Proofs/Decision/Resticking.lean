import FeatureFlags.Proofs.Decision.Unaided
import FeatureFlags.Proofs.Project.Config

/-!
What a remembered assignment changes about later decisions. Without bandits it only turns the
assignment of that experiment into a stored variation, the same one. Hence decisions serve the same
whichever of them were made before, and assignments can be added to a profile in any order.
-/

namespace FeatureFlags

theorem UserProfile.remember_comm (profile : UserProfile) {experimentId other : String}
    (id otherId : String) (different : experimentId ≠ other) :
    (profile.remember experimentId id).remember other otherId =
      (profile.remember other otherId).remember experimentId id := by
  have commuted : (profile.variations.insert experimentId id).insert other otherId =
      (profile.variations.insert other otherId).insert experimentId id := by
    apply Std.ExtTreeMap.ext_getElem?
    intro key
    simp only [Std.ExtTreeMap.getElem?_insert]
    by_cases first : experimentId = key
    · have second : other ≠ key := by rw [← first]; exact different.symm
      simp [first, second]
    · simp [first]
  simp only [remember, commuted]

/-- The outcome once the assigned variation is a stored one. -/
def Outcome.stuck : Outcome → Outcome
  | .served variation .experiment => .served variation .sticky
  | outcome => outcome

theorem Outcome.assigned?_stuck_of_none {outcome : Outcome} (unassigned : outcome.assigned? = none) :
    outcome.stuck.assigned? = none := by
  cases outcome with
  | undecided | failed _ => rfl
  | served variation source =>
      cases source with
      | experiment | bandit _ => cases unassigned
      | override | whitelist | sticky | rollout | holdout | forced => rfl

namespace FlagOutcome

/-- The decision once the variation of an experiment is a stored one. -/
def restuck (experimentId : String) (decided : FlagOutcome) : FlagOutcome :=
  match decided.experiment? with
  | some experiment =>
    if experiment.id = experimentId then { decided with outcome := decided.outcome.stuck }
    else decided
  | none => decided

theorem restuck_of_experiment?_eq_none (experimentId : String) {decided : FlagOutcome}
    (noExperiment : decided.experiment? = none) : decided.restuck experimentId = decided := by
  rw [restuck, noExperiment]

theorem restuck_of_rule (experimentId : String) (experiment : Experiment) (outcome : Outcome) :
    restuck experimentId { rule := some (.experiment, experiment), outcome } =
      { rule := some (.experiment, experiment)
        outcome := if experiment.id = experimentId then outcome.stuck else outcome } := by
  by_cases same : experiment.id = experimentId <;> simp [restuck, experiment?, same]

theorem assignment?_restuck (experimentId : String) (decided : FlagOutcome) :
    (decided.restuck experimentId).assignment? =
      decided.experiment?.bind fun experiment =>
        (if experiment.id = experimentId then decided.outcome.stuck else decided.outcome).assigned?.map
          (experiment, ·) := by
  cases byRule : decided.experiment? with
  | none => simp [restuck, byRule, assignment?]
  | some experiment =>
      have kept : { decided with outcome := decided.outcome.stuck }.experiment? =
          some experiment := byRule
      by_cases same : experiment.id = experimentId <;>
        simp [restuck, byRule, assignment?, same, kept]

/-- A decision by the hash is no longer an assignment once its variation is a stored one. -/
theorem assignment?_restuck_of_hashed (experimentId : String) {decided : FlagOutcome}
    (hashed : ∀ experiment variation, decided.assignment? = some (experiment, variation) →
      decided.outcome = .served variation .experiment) :
    (decided.restuck experimentId).assignment? =
      decided.assignment?.filter (·.1.id ≠ experimentId) := by
  rw [assignment?_restuck]
  cases byRule : decided.experiment? with
  | none => simp [assignment?, byRule]
  | some experiment =>
      cases gives : decided.outcome.assigned? with
      | none =>
          have unassigned := Outcome.assigned?_stuck_of_none gives
          by_cases own : experiment.id = experimentId <;>
            simp [assignment?, byRule, gives, own, unassigned]
      | some variation =>
          have outcome := hashed experiment variation (by simp [assignment?, byRule, gives])
          by_cases own : experiment.id = experimentId <;>
            simp [assignment?, byRule, outcome, own, Outcome.stuck, Outcome.assigned?,
              Option.filter_some]

/-- Decisions that serve the same, whatever stage they come from. -/
structure Alike (decided decided' : FlagOutcome) : Prop where
  rule : decided.rule = decided'.rule
  variation : decided.outcome.variation? = decided'.outcome.variation?
  isError : decided.outcome.isError = decided'.outcome.isError
  correlationId : decided.outcome.correlationId? = decided'.outcome.correlationId?

theorem Alike.refl (decided : FlagOutcome) : Alike decided decided := ⟨rfl, rfl, rfl, rfl⟩

theorem Alike.trans {first second third : FlagOutcome} (left : Alike first second)
    (right : Alike second third) : Alike first third :=
  ⟨left.rule.trans right.rule, left.variation.trans right.variation,
    left.isError.trans right.isError, left.correlationId.trans right.correlationId⟩

theorem alike_restuck (experimentId : String) (decided : FlagOutcome) :
    Alike (decided.restuck experimentId) decided := by
  have alike : Alike { decided with outcome := decided.outcome.stuck } decided := by
    obtain ⟨rule, outcome⟩ := decided
    cases outcome with
    | undecided | failed _ => exact .refl _
    | served variation source => cases source <;> exact ⟨rfl, rfl, rfl, rfl⟩
  simp only [restuck]
  split
  · split
    · exact alike
    · exact .refl decided
  · exact .refl decided

end FlagOutcome

namespace Context
variable {σ : Type} {context : Context σ}

/-- Without a bandit every assignment is one by the hash, behind all other stages. -/
theorem hashed_of_outcomeFor {experiment : Experiment} {profile : Option UserProfile}
    {variation : Variation}
    (assigned : (context.outcomeFor experiment profile).assigned? = some variation) :
    context.outcomeFor experiment profile = .served variation .experiment ∧
      experiment.isActive = true ∧
      context.overrides.variationOf? experiment context.user.id = none ∧
      experiment.whitelistedVariation? context.user.id = none ∧
      (context.hashed experiment).value = some variation := by
  simp only [outcomeFor] at assigned ⊢
  split at assigned
  case isFalse => cases assigned
  split at assigned
  · cases assigned
  · split at assigned
    · cases assigned
    · split at assigned
      · cases assigned
      · split at assigned
        case isFalse => cases assigned
        rename_i active _ notOverridden _ notWhitelisted _ _ admitted
        cases bucketed : (context.hashed experiment).value with
        | none => rw [bucketed] at assigned; cases assigned
        | some given =>
            rw [bucketed] at assigned
            cases assigned
            simp [active, notOverridden, notWhitelisted, admitted]

/-- A variation that the hash gives is found again once it is remembered. -/
theorem variationOf?_remember_of_hashed (profile : UserProfile) {experiment : Experiment}
    {variation : Variation} (bucketed : (context.hashed experiment).value = some variation) :
    (profile.remember experiment.id variation.id).variationOf? experiment = some variation := by
  rw [UserProfile.variationOf?, UserProfile.remember_variations_self]
  exact Bucketing.variationById?_of_bucket _ _ _ _ bucketed

theorem outcomeFor_remember_self {profile : UserProfile} {experiment : Experiment}
    {variation : Variation}
    (assigns : context.outcomeFor experiment (some profile) = .served variation .experiment) :
    context.outcomeFor experiment (some (profile.remember experiment.id variation.id)) =
      .served variation .sticky := by
  have assigned : (context.outcomeFor experiment (some profile)).assigned? = some variation := by
    rw [assigns, Outcome.assigned?]
  obtain ⟨_, active, notOverridden, notWhitelisted, bucketed⟩ := hashed_of_outcomeFor assigned
  simp [outcomeFor, active, notOverridden, notWhitelisted,
    variationOf?_remember_of_hashed profile bucketed]

theorem outcomeFor_remember_of_ne (context : Context σ) (profile : UserProfile)
    {experimentId : String} (id : String) {experiment : Experiment}
    (different : experimentId ≠ experiment.id) :
    context.outcomeFor experiment (some (profile.remember experimentId id)) =
      context.outcomeFor experiment (some profile) := by
  simp only [outcomeFor, Option.bind_some,
    UserProfile.variationOf?_remember_of_ne profile id different]

/-- A known experiment that assigns a variation to a user with this profile. -/
structure Assigns (context : Context σ) (profile : UserProfile) (experiment : Experiment)
    (variation : Variation) : Prop where
  known : context.config.experimentsById[experiment.id]? = some experiment
  outcome : context.outcomeFor experiment (some profile) = .served variation .experiment

section Remembered
variable {profile : UserProfile} {experiment : Experiment} {variation : Variation}

theorem Assigns.unique {other : Experiment} {given : Variation}
    (assigns : context.Assigns profile experiment variation)
    (assigns' : context.Assigns profile other given) (same : experiment.id = other.id) :
    experiment = other ∧ variation = given := by
  have known := assigns.known
  rw [same, assigns'.known] at known
  cases known
  have outcome := assigns.outcome
  rw [assigns'.outcome] at outcome
  cases outcome
  exact ⟨rfl, rfl⟩

theorem ruleOutcome_remember (indexed : context.config.WellIndexed)
    (assigns : context.Assigns profile experiment variation) (flag : Flag) (id : String) :
    context.ruleOutcome flag (some (profile.remember experiment.id variation.id)) id =
      (context.ruleOutcome flag (some profile) id).map (·.restuck experiment.id) := by
  cases found : context.config.experimentsById[id]? with
  | none => simp [ruleOutcome, found]
  | some rule =>
      have self := indexed.experimentsById_self found
      simp only [ruleOutcome, found]
      cases forced : context.forcedOnRule? flag rule with
      | some given => simp [FlagOutcome.restuck_of_rule, Outcome.stuck]
      | none =>
          -- Only the rule of the experiment itself sees a profile that differs.
          by_cases same : rule.id = experiment.id
          · rw [same, assigns.known] at self
            cases self
            simp [outcomeFor_remember_self assigns.outcome, assigns.outcome, Outcome.isFinal,
              FlagOutcome.restuck_of_rule, Outcome.stuck]
          · simp only [context.outcomeFor_remember_of_ne profile variation.id (Ne.symm same)]
            split <;> simp [FlagOutcome.restuck_of_rule, same]

/-- A flag is decided ahead of its experiment rules, by them, or behind them. -/
theorem flagOutcome_cases (context : Context σ) (flag : Flag) :
    (∃ ahead : FlagOutcome, ahead.experiment? = none ∧
      ∀ profile, context.flagOutcome flag profile = ahead) ∨
    (∃ behind : FlagOutcome, behind.experiment? = none ∧
      ∀ profile, context.flagOutcome flag profile =
        (flag.experimentIds.findSome? (context.ruleOutcome flag profile)).getD behind) := by
  simp only [flagOutcome]
  cases forced : (context.forcedByFlag flag).value with
  | some decided =>
      rw [value_forcedByFlag] at forced
      obtain ⟨given, _, rfl⟩ := Option.map_eq_some_iff.mp forced
      exact .inl ⟨_, rfl, fun _ => rfl⟩
  | none =>
      cases held : (context.resolveHoldouts flag).value with
      | some decided =>
          rw [resolveHoldouts, Traced.value_firstSome] at held
          obtain ⟨holdout, _, serves⟩ := List.exists_of_findSome?_eq_some held
          simp only [Traced.value_bind, Traced.value_pure] at serves
          obtain ⟨given, _, rfl⟩ := Option.map_eq_some_iff.mp serves
          exact .inl ⟨_, rfl, fun _ => rfl⟩
      | none =>
          refine .inr ⟨(context.resolveRollout flag).value.getD {}, ?_, fun profile => ?_⟩
          · cases served : (context.resolveRollout flag).value with
            | none => rfl
            | some decided => exact experiment?_of_resolveRollout served
          · cases flag.experimentIds.findSome? (context.ruleOutcome flag profile) <;> rfl

/-- A remembered assignment turns its own experiment into a stored decision, wherever that
experiment decides, and changes nothing else. -/
theorem flagOutcome_remember (indexed : context.config.WellIndexed)
    (assigns : context.Assigns profile experiment variation) (flag : Flag) :
    context.flagOutcome flag (some (profile.remember experiment.id variation.id)) =
      (context.flagOutcome flag (some profile)).restuck experiment.id := by
  rcases context.flagOutcome_cases flag with ⟨ahead, noExperiment, decides⟩ |
    ⟨behind, noExperiment, decides⟩
  · rw [decides, decides, FlagOutcome.restuck_of_experiment?_eq_none _ noExperiment]
  · have rules : context.ruleOutcome flag
        (some (profile.remember experiment.id variation.id)) =
        Option.map (·.restuck experiment.id) ∘ context.ruleOutcome flag (some profile) :=
      funext (ruleOutcome_remember indexed assigns flag)
    rw [decides, decides, rules, ← List.map_findSome?]
    cases flag.experimentIds.findSome? (context.ruleOutcome flag (some profile)) with
    | none => exact (FlagOutcome.restuck_of_experiment?_eq_none _ noExperiment).symm
    | some decided => rfl

theorem assigns_of_ruleOutcome (indexed : context.config.WellIndexed) {flag : Flag} {id : String}
    {decided : FlagOutcome} (rule : context.ruleOutcome flag (some profile) id = some decided)
    (assigned : decided.assignment? = some (experiment, variation)) :
    context.Assigns profile experiment variation ∧
      decided.outcome = .served variation .experiment := by
  simp only [ruleOutcome] at rule
  split at rule
  · cases rule
  · rename_i found
    split at rule
    · cases rule
      cases assigned
    · split at rule
      case isFalse => cases rule
      cases rule
      obtain ⟨given, gives, same⟩ := Option.map_eq_some_iff.mp assigned
      cases same
      have outcome := (hashed_of_outcomeFor gives).1
      exact ⟨⟨indexed.experimentsById_self found, outcome⟩, outcome⟩

/-- An assignment by a flag is one by a known experiment. -/
theorem assigns_of_flagOutcome (indexed : context.config.WellIndexed) {flag : Flag}
    (assigned : (context.flagOutcome flag (some profile)).assignment? =
      some (experiment, variation)) :
    context.Assigns profile experiment variation ∧
      (context.flagOutcome flag (some profile)).outcome = .served variation .experiment := by
  rcases context.flagOutcome_cases flag with ⟨ahead, noExperiment, decides⟩ |
    ⟨behind, noExperiment, decides⟩
  · rw [decides, FlagOutcome.assignment?_of_experiment?_eq_none noExperiment] at assigned
    cases assigned
  · rw [decides] at assigned ⊢
    cases search : flag.experimentIds.findSome? (context.ruleOutcome flag (some profile)) with
    | none =>
        rw [search, Option.getD_none,
          FlagOutcome.assignment?_of_experiment?_eq_none noExperiment] at assigned
        cases assigned
    | some decided =>
        obtain ⟨id, _, rule⟩ := List.exists_of_findSome?_eq_some search
        rw [search, Option.getD_some] at assigned
        exact assigns_of_ruleOutcome indexed rule assigned

/-- What a flag assigns is no longer assigned once the experiment has a stored variation. -/
theorem assignment?_remember (indexed : context.config.WellIndexed)
    (assigns : context.Assigns profile experiment variation) (flag : Flag) :
    (context.flagOutcome flag (some (profile.remember experiment.id variation.id))).assignment? =
      (context.flagOutcome flag (some profile)).assignment?.filter (·.1.id ≠ experiment.id) := by
  rw [flagOutcome_remember indexed assigns]
  exact FlagOutcome.assignment?_restuck_of_hashed _
    fun _ _ assigned => (assigns_of_flagOutcome indexed assigned).2

/-- Decisions after an assignment serve what they served before it. -/
theorem alike_flagOutcome_assign (indexed : context.config.WellIndexed) (flag earlier : Flag)
    (profile : UserProfile) :
    (context.flagOutcome flag
      (some (profile.assign (context.flagOutcome earlier (some profile)).assignment?))).Alike
        (context.flagOutcome flag (some profile)) := by
  cases assigned : (context.flagOutcome earlier (some profile)).assignment? with
  | none => exact .refl _
  | some assignment =>
      rw [UserProfile.assign, flagOutcome_remember indexed (assigns_of_flagOutcome indexed assigned).1]
      exact FlagOutcome.alike_restuck _ _

end Remembered

end Context
end FeatureFlags
