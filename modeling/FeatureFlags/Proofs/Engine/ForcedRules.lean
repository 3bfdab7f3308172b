import FeatureFlags.Proofs.Engine.WellFormed
import FeatureFlags.Proofs.Project.FlagVariations

/-!
Decisions that the user forces for a rule. The rule is one of the flag, and the variation is looked
up among those of all its rules: what is served may belong to a rule that was tried before, which
has hidden the own variation of the rule.
-/

namespace FeatureFlags

theorem Outcome.served_of_forced {outcome : Outcome} (forced : outcome.stage? = some .forced) :
    ∃ variation, outcome = .served variation .forced := by
  cases outcome with
  | undecided => cases forced
  | failed _ => cases forced
  | served variation source =>
      cases source with
      | forced => exact ⟨variation, rfl⟩
      | _ => cases forced

namespace Context
variable {σ : Type} {context : Context σ} {flag : Flag} {ruleType : RuleType} {rule : Experiment}
  {variation : Variation} {start finish : Progress σ} {decided : FlagOutcome} {events : List Event}

/-- A decision that is forced with a rule is forced for that rule, and the flag refers to it. -/
theorem Layered.forced_of_rule (layered : Layered context flag start decided events finish)
    (forced : decided.outcome = .served variation .forced)
    (ofRule : decided.rule = some (ruleType, rule)) :
    context.config.RefersTo flag rule ∧
      context.forcedOnRule? flag rule = some variation := by
  cases layered with
  | forced | nothing => cases ofRule
  | holdout => cases forced
  | experiment _ listed _ known decides =>
      cases ofRule
      have member : _ ∈ flag.experimentIds :=
        listed ▸ List.mem_append_right _ List.mem_cons_self
      have refers : context.config.RefersTo flag _ := .inl ⟨_, member, known⟩
      cases decides with
      | forced byUser =>
          cases forced
          exact ⟨refers, byUser⟩
      | staged _ staged _ =>
          -- An experiment by itself never comes to a forced decision.
          have kind := staged.belongsTo.staged .forced (congrArg Outcome.stage? forced)
          cases kind
  | rollout _ _ served =>
      obtain ⟨_, listed, _, _, examined⟩ := examined_of_resolveRollout served
      obtain ⟨_, _, rfl, ⟨rfl, -⟩ | ⟨rfl, byUser⟩⟩ := decided_of_examineRule examined
      · cases forced
      · cases forced
        cases ofRule
        exact ⟨Config.mem_rulesOf_iff.mp (List.mem_append_right _ listed), byUser⟩

/-- What the user forces for a rule is found by its key among the variations of the flag. -/
theorem found_of_forcedOnRule (forced : context.forcedOnRule? flag rule = some variation) :
    ∃ key, context.user.forced? { flagKey := flag.key, ruleKey := some rule.key } = some key ∧
      context.config.flagVariationByKey? flag.key key = some variation :=
  Option.bind_eq_some_iff.mp forced

end Context

namespace Engine
open Context
variable {σ : Type}

/-- A decision on a flag that the user forces for one of its rules serves the variation that leads
the forced key among those of all rules of the flag. An own variation of the rule with that key is
served if none of the rules of the flag lists its key or its id before. -/
theorem forced_rule_serves_leading_variation (engine : Engine σ) (state : EngineState σ)
    (datafile : Datafile) (user : User) (options : DecideOptions) (flagKey ruleKey : String) :
    let config := Config.ofDatafile datafile
    let decision := (engine.decide state config user options flagKey).value
    decision.stage = some .forced → decision.ruleKey = some ruleKey →
      ∃ flag ruleType rule variation,
        let decided : FlagOutcome :=
          { rule := some (ruleType, rule), outcome := .served variation .forced }
        config.flagsByKey[flagKey]? = some flag ∧
        config.RefersTo flag rule ∧ rule.key = ruleKey ∧
        user.forced? { flagKey, ruleKey := some ruleKey } = some variation.key ∧
        (∃ reasons, (engine.getVariationForFeature state config user options flagKey).value =
          .ok { decided, reasons }) ∧
        decision.Shows decided ∧
        ((engine.effectiveOptions options).contains .excludeVariables = false →
          decision.variableValues = (flag.variableValues (some variation)).value) ∧
        variation.LeadsKey (config.listedVariations flag) ∧
        ∀ own ∈ rule.variations, own.key = variation.key →
          own.Unshadowed (config.listedVariations flag) → variation = own := by
  intro config decision forced ofRule
  cases known : config.flagsByKey[flagKey]? with
  | none =>
      simp only [decision, Engine.decide, known] at forced
      cases forced
  | some flag =>
      obtain ⟨decided, events, finish, layered, reasons, call⟩ :=
        engine.decide_layered state config user options known
      obtain ⟨decided', _, _, layered', reasons', feature⟩ :=
        engine.getVariationForFeature_layered state config user options known
      obtain ⟨rfl, -, -⟩ := layered'.runs.unique layered.runs
      have shown : decision = .ofOutcome flag decided' reasons user config
          (engine.effectiveOptions options) := congrArg Performed.value call
      rw [shown] at forced ofRule ⊢
      obtain ⟨variation, served⟩ := Outcome.served_of_forced forced
      obtain ⟨⟨ruleType, rule⟩, byRule, rfl⟩ := Option.map_eq_some_iff.mp ofRule
      obtain ⟨refers, byUser⟩ := layered.forced_of_rule served byRule
      obtain ⟨key, named, found⟩ := found_of_forcedOnRule byUser
      obtain ⟨leads, rfl⟩ := (Config.flagVariationByKey?_iff known).mp found
      have own : flag.key = flagKey := (Config.wellIndexed_ofDatafile datafile).flag_key known
      cases decided' with
      | mk decidedRule outcome =>
          cases byRule
          cases served
          refine ⟨flag, ruleType, rule, variation, rfl, refers, rfl, own ▸ named,
            ⟨reasons', congrArg Performed.value feature⟩, ⟨rfl, rfl, rfl, rfl, rfl, rfl⟩, ?_,
            leads, ?_⟩
          · intro included
            simp only [FlagDecision.ofOutcome, FlagDecision.resolveVariables, included,
              Outcome.isError, Outcome.variation?, Bool.or_false, Bool.false_eq_true, if_false]
          · intro other _ same unshadowed
            exact leads.unique unshadowed.leadsKey same.symm

namespace Sample

/-- It has the key of what everyone gets, and does not enable the flag. -/
def dimmed : Variation := { id := "2", key := "on" }

def paused : Experiment :=
  { id := "60", key := "paused", status := .paused, variations := [dimmed]
    trafficAllocation := [] }

def ruled (experimentIds : List String) : Flag :=
  { id := "30", key := "banner", rolloutId := "", experimentIds }

/-- A flag with two rules, each of which has a variation of the same key. -/
def twofold (experimentIds : List String) : Datafile :=
  { experiments := [paused, everyone], flags := [ruled experimentIds] }

def insistent : User :=
  ({ id := "user" } : User).force { flagKey := "banner", ruleKey := some "everyone" } "on"

end Sample

/-- The rule that comes first serves its own variation, although the other one has its key. -/
theorem forced_rule_serves_own_variation :
    let config := Config.ofDatafile (Sample.twofold ["20", "60"])
    let call := Sample.first.decide Sample.empty config Sample.insistent ∅ "banner"
    let feature :=
      Sample.first.getVariationForFeature Sample.empty config Sample.insistent ∅ "banner"
    call.value.stage = some .forced ∧ call.value.ruleKey = some "everyone" ∧
      call.value.enabled = true ∧ ∃ ruleType reasons, feature.value = .ok
        { decided := { rule := some (ruleType, Sample.everyone)
                       outcome := .served Sample.on .forced }
          reasons } := by
  intro config call feature
  have forced : call.value.stage = some .forced := by rfl
  have ofRule : call.value.ruleKey = some "everyone" := by rfl
  obtain ⟨flag, ruleType, rule, variation, known, refers, named, byUser, ⟨reasons, answered⟩,
      shown, _, _, own⟩ :=
    forced_rule_serves_leading_variation Sample.first Sample.empty (Sample.twofold ["20", "60"])
      Sample.insistent ∅ "banner" "everyone" forced ofRule
  cases known
  have listed : config.listedVariations (Sample.ruled ["20", "60"]) =
      [Sample.on, Sample.dimmed] := by rfl
  have everyone : rule = Sample.everyone := by
    rcases List.mem_cons.mp (Config.mem_rulesOf_iff.mpr refers) with same | later
    · exact same
    · cases List.mem_singleton.mp later
      exact absurd named (by decide)
  subst everyone
  have onKey : "on" = variation.key := Option.some.inj byUser
  have served : variation = Sample.on :=
    own Sample.on List.mem_cons_self onKey ⟨[], [Sample.dimmed], listed, nofun⟩
  subst served
  exact ⟨forced, ofRule, shown.enabled, ruleType, reasons, answered⟩

/-- Behind the other one the same rule serves a variation that is not its own. -/
theorem forced_rule_serves_hidden_variation :
    let config := Config.ofDatafile (Sample.twofold ["60", "20"])
    let call := Sample.first.decide Sample.empty config Sample.insistent ∅ "banner"
    let feature :=
      Sample.first.getVariationForFeature Sample.empty config Sample.insistent ∅ "banner"
    call.value.stage = some .forced ∧ call.value.ruleKey = some "everyone" ∧
      call.value.variationKey = some "on" ∧ call.value.enabled = false ∧
      (∃ reasons, feature.value = .ok
        { decided := { rule := some (.experiment, Sample.everyone)
                       outcome := .served Sample.dimmed .forced }
          reasons }) ∧
      Sample.on ∈ Sample.everyone.variations ∧ Sample.on.key = "on" ∧
      Sample.on ≠ Sample.dimmed :=
  ⟨by rfl, by rfl, by rfl, by rfl, ⟨_, by rfl⟩, List.mem_singleton.mpr rfl, rfl, by decide⟩

end Engine
end FeatureFlags
