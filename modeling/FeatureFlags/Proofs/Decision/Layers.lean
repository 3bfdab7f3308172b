import FeatureFlags.Proofs.Decision.Holdouts

/-!
The layers of a flag: the decision forced for the whole flag, holdouts, experiment rules, and the
rollout. `Layered` tells what the first layer that decides comes to. Its events are those of the
holdouts and rules that were looked at, so that nothing behind a decision has any. The resolution
of a flag runs exactly like that.
-/

namespace FeatureFlags
namespace Context
variable {σ : Type}

/-- Experiment rules that are tried without a decision. -/
inductive PassedOver (context : Context σ) (flag : Flag) :
    Progress σ → List String → List Event → Progress σ → Prop
  | nil {start : Progress σ} : PassedOver context flag start [] [] start
  | unknown {start finish : Progress σ} {id : String} {ids : List String} {events : List Event}
      (unknown : context.config.experimentsById[id]? = none)
      (rest : PassedOver context flag start ids events finish) :
      PassedOver context flag start (id :: ids) events finish
  | undecided {start middle finish : Progress σ} {id : String} {ids : List String}
      {experiment : Experiment} {events events' : List Event}
      (known : context.config.experimentsById[id]? = some experiment)
      (notForced : context.forcedOnRule? flag experiment = none)
      (staged : Staged context experiment start .undecided events middle)
      (rest : PassedOver context flag middle ids events' finish) :
      PassedOver context flag start (id :: ids) (events ++ events') finish

/-- An experiment rule that decides: by force, or because the experiment gives a variation or an
error. -/
inductive RuleDecides (context : Context σ) (flag : Flag) (experiment : Experiment)
    (start : Progress σ) : Outcome → List Event → Progress σ → Prop
  | forced {variation : Variation}
      (forced : context.forcedOnRule? flag experiment = some variation) :
      RuleDecides context flag experiment start (.served variation .forced) [] start
  | staged {outcome : Outcome} {events : List Event} {finish : Progress σ}
      (notForced : context.forcedOnRule? flag experiment = none)
      (staged : Staged context experiment start outcome events finish)
      (final : outcome.variation?.isSome ∨ outcome.isError = true) :
      RuleDecides context flag experiment start outcome events finish

/-- A flag that is not forced as a whole, and of which no holdout serves the user. -/
structure OpenToRules (context : Context σ) (flag : Flag) : Prop where
  notForced : context.forcedOnFlag? flag = none
  notHeld : ∀ holdout ∈ context.config.holdoutsForFlag flag.id,
    context.holdoutServes? holdout = none

/-- What a flag decides, by the first layer that decides. -/
inductive Layered (context : Context σ) (flag : Flag) (start : Progress σ) :
    FlagOutcome → List Event → Progress σ → Prop
  | forced {variation : Variation} (forced : context.forcedOnFlag? flag = some variation) :
      Layered context flag start { outcome := .served variation .forced } [] start
  | holdout {before after : List Holdout} {holdout : Holdout} {variation : Variation}
      (notForced : context.forcedOnFlag? flag = none)
      (listed : context.config.holdoutsForFlag flag.id = before ++ holdout :: after)
      (passed : ∀ earlier ∈ before, context.holdoutServes? earlier = none)
      (serves : context.holdoutServes? holdout = some variation) :
      Layered context flag start
        { rule := some (.holdout, holdout.experiment), outcome := .served variation .holdout }
        ((before ++ [holdout]).flatMap context.holdoutEvents) start
  | experiment {before after : List String} {id : String} {experiment : Experiment}
      {outcome : Outcome} {events events' : List Event} {middle finish : Progress σ}
      (openToRules : OpenToRules context flag)
      (listed : flag.experimentIds = before ++ id :: after)
      (passed : PassedOver context flag start before events middle)
      (known : context.config.experimentsById[id]? = some experiment)
      (decides : RuleDecides context flag experiment middle outcome events' finish) :
      Layered context flag start { rule := some (.experiment, experiment), outcome }
        ((context.config.holdoutsForFlag flag.id).flatMap context.holdoutEvents ++
          (events ++ events')) finish
  | rollout {decided : FlagOutcome} {events : List Event} {finish : Progress σ}
      (openToRules : OpenToRules context flag)
      (passed : PassedOver context flag start flag.experimentIds events finish)
      (served : (context.resolveRollout flag).value = some decided) :
      Layered context flag start decided
        ((context.config.holdoutsForFlag flag.id).flatMap context.holdoutEvents ++
          (events ++ (context.resolveRollout flag).events)) finish
  | nothing {events : List Event} {finish : Progress σ}
      (openToRules : OpenToRules context flag)
      (passed : PassedOver context flag start flag.experimentIds events finish)
      (unserved : (context.resolveRollout flag).value = none) :
      Layered context flag start {}
        ((context.config.holdoutsForFlag flag.id).flatMap context.holdoutEvents ++
          (events ++ (context.resolveRollout flag).events)) finish

variable {context : Context σ} {flag : Flag} {id : String} {experiment : Experiment}
  {start middle finish : Progress σ} {outcome : Outcome} {decided : FlagOutcome}
  {events events' : List Event}

theorem resolveRule_runs_of_unknown
    (unknown : context.config.experimentsById[id]? = none) (flag : Flag) (start : Progress σ) :
    (context.resolveRule flag id).Runs start none [] start := by
  simp [Resolution.Runs, resolveRule, unknown, Resolution.map_apply, Resolution.lift_apply]

theorem resolveRule_runs_of_undecided
    (known : context.config.experimentsById[id]? = some experiment)
    (notForced : context.forcedOnRule? flag experiment = none)
    (staged : Staged context experiment start .undecided events finish) :
    (context.resolveRule flag id).Runs start none events finish := by
  obtain ⟨value, emitted⟩ := staged.runs
  simp [Resolution.Runs, resolveRule, known, value_forcedByRule, events_forcedByRule, notForced,
    Resolution.bind_apply, Resolution.lift_apply, Resolution.map_apply, value, emitted,
    Outcome.isFinal]

theorem isFinal_of_decides
    (decides : outcome.variation?.isSome ∨ outcome.isError = true) : outcome.isFinal = true := by
  cases outcome with
  | undecided => rcases decides with given | failed <;> contradiction
  | served _ _ | failed _ => rfl

theorem RuleDecides.runs (known : context.config.experimentsById[id]? = some experiment)
    (decides : RuleDecides context flag experiment start outcome events finish) :
    (context.resolveRule flag id).Runs start
      (some { rule := some (.experiment, experiment), outcome }) events finish := by
  cases decides with
  | forced forced =>
      simp [Resolution.Runs, resolveRule, known, value_forcedByRule, events_forcedByRule, forced,
        Resolution.bind_apply, Resolution.lift_apply, Resolution.pure_apply]
  | staged notForced staged final =>
      obtain ⟨value, emitted⟩ := staged.runs
      simp [Resolution.Runs, resolveRule, known, value_forcedByRule, events_forcedByRule,
        notForced, Resolution.bind_apply, Resolution.lift_apply, Resolution.map_apply, value,
        emitted, isFinal_of_decides final]

/-- A rule that is not passed over decides. -/
theorem exists_ruleDecides_or_undecided (context : Context σ) (flag : Flag)
    (experiment : Experiment) (start : Progress σ) :
    (∃ outcome events finish, RuleDecides context flag experiment start outcome events finish) ∨
      context.forcedOnRule? flag experiment = none ∧
        ∃ events finish, Staged context experiment start .undecided events finish := by
  cases forced : context.forcedOnRule? flag experiment with
  | some variation => exact .inl ⟨_, _, _, .forced forced⟩
  | none =>
      obtain ⟨outcome, events, finish, staged⟩ := exists_staged context experiment start
      cases outcome with
      | undecided => exact .inr ⟨rfl, _, _, staged⟩
      | served _ _ => exact .inl ⟨_, _, _, .staged forced staged (.inl rfl)⟩
      | failed _ => exact .inl ⟨_, _, _, .staged forced staged (.inr rfl)⟩

/-- Rules that are passed over lead to what the rest decides. -/
theorem PassedOver.runs {before after : List String} {result : Option FlagOutcome}
    (passed : PassedOver context flag start before events middle)
    (rest : (Resolution.firstSome (context.resolveRule flag) after).Runs middle result events'
      finish) :
    (Resolution.firstSome (context.resolveRule flag) (before ++ after)).Runs start result
      (events ++ events') finish := by
  -- Each rule that is passed over gives nothing and hands its progress to the next one.
  induction passed with
  | nil => exact rest
  | @unknown start _ id ids events unknown _ ih =>
      rw [List.cons_append, Resolution.firstSome_cons]
      have here := resolveRule_runs_of_unknown unknown flag start
      simpa only [List.nil_append] using Resolution.orElse_runs_second here (ih rest)
  | undecided known notForced staged _ ih =>
      rw [List.cons_append, Resolution.firstSome_cons, List.append_assoc]
      exact Resolution.orElse_runs_second
        (resolveRule_runs_of_undecided known notForced staged) (ih rest)

theorem PassedOver.resolveExperiments_runs
    (passed : PassedOver context flag start flag.experimentIds events finish) :
    (context.resolveExperiments flag).Runs start none events finish := by
  have exhausted : (Resolution.firstSome (context.resolveRule flag) []).Runs finish none [] finish :=
    Resolution.runs_pure none finish
  simpa only [List.append_nil, resolveExperiments] using passed.runs exhausted

theorem resolveExperiments_runs_of_decides {before after : List String}
    (listed : flag.experimentIds = before ++ id :: after)
    (passed : PassedOver context flag start before events middle)
    (known : context.config.experimentsById[id]? = some experiment)
    (decides : RuleDecides context flag experiment middle outcome events' finish) :
    (context.resolveExperiments flag).Runs start
      (some { rule := some (.experiment, experiment), outcome }) (events ++ events') finish := by
  rw [resolveExperiments, listed]
  exact passed.runs (Resolution.orElse_runs_first (decides.runs known))

theorem OpenToRules.holdouts_runs (openToRules : OpenToRules context flag) (start : Progress σ) :
    (liftM (context.resolveHoldouts flag) : Resolution σ (Option FlagOutcome)).Runs start none
      ((context.config.holdoutsForFlag flag.id).flatMap context.holdoutEvents) start := by
  obtain ⟨value, events⟩ := resolveHoldouts_of_none openToRules.notHeld
  simpa only [value, events] using
    Resolution.runs_lift (context.resolveHoldouts flag) start

theorem forcedByFlag_runs (context : Context σ) (flag : Flag) (start : Progress σ) :
    (liftM (context.forcedByFlag flag) : Resolution σ (Option FlagOutcome)).Runs start
      ((context.forcedOnFlag? flag).map fun variation => { outcome := .served variation .forced })
      [] start := by
  simpa only [value_forcedByFlag, events_forcedByFlag] using
    Resolution.runs_lift (context.forcedByFlag flag) start

/-- The result of the layers, or nothing, is what the flag decides. -/
theorem resolveFlag_runs_of_layers {result : Option FlagOutcome}
    (run : (Resolution.orElse (liftM (context.forcedByFlag flag))
      (Resolution.orElse (liftM (context.resolveHoldouts flag))
        (Resolution.orElse (context.resolveExperiments flag)
          (liftM (context.resolveRollout flag))))).Runs start result events finish) :
    (context.resolveFlag flag).Runs start (result.getD {}) events finish := by
  obtain ⟨value, emitted⟩ := run
  simp [Resolution.Runs, resolveFlag, Resolution.map_apply, value, emitted]

theorem OpenToRules.resolveFlag_runs (openToRules : OpenToRules context flag)
    {result : Option FlagOutcome}
    (run : (Resolution.orElse (context.resolveExperiments flag)
      (liftM (context.resolveRollout flag))).Runs start result events finish) :
    (context.resolveFlag flag).Runs start (result.getD {})
      ((context.config.holdoutsForFlag flag.id).flatMap context.holdoutEvents ++ events)
      finish := by
  have unforced := forcedByFlag_runs context flag start
  rw [openToRules.notForced] at unforced
  have layers := Resolution.orElse_runs_second unforced
    (Resolution.orElse_runs_second (openToRules.holdouts_runs start) run)
  exact resolveFlag_runs_of_layers layers

/-- The resolution of a flag follows the first layer that decides. -/
theorem Layered.runs (layered : Layered context flag start decided events finish) :
    (context.resolveFlag flag).Runs start decided events finish := by
  cases layered with
  | forced forced =>
      have run := forcedByFlag_runs context flag start
      rw [forced] at run
      exact resolveFlag_runs_of_layers (Resolution.orElse_runs_first run)
  | holdout notForced listed passed serves =>
      have unforced := forcedByFlag_runs context flag start
      rw [notForced] at unforced
      obtain ⟨value, emitted⟩ := resolveHoldouts_of_some listed passed serves
      have held : (liftM (context.resolveHoldouts flag) : Resolution σ (Option FlagOutcome)).Runs
          start _ _ start := Resolution.runs_lift (context.resolveHoldouts flag) start
      rw [value, emitted] at held
      exact resolveFlag_runs_of_layers
        (Resolution.orElse_runs_second unforced (Resolution.orElse_runs_first held))
  | experiment openToRules listed passed known decides =>
      exact openToRules.resolveFlag_runs (Resolution.orElse_runs_first
        (resolveExperiments_runs_of_decides listed passed known decides))
  | rollout openToRules passed served | nothing openToRules passed served =>
      have run : (liftM (context.resolveRollout flag) : Resolution σ (Option FlagOutcome)).Runs
          finish _ _ finish := Resolution.runs_lift (context.resolveRollout flag) finish
      rw [served] at run
      exact openToRules.resolveFlag_runs
        (Resolution.orElse_runs_second passed.resolveExperiments_runs run)

/-- Rules are passed over to the last, or up to one that decides. -/
theorem exists_passedOver (context : Context σ) (flag : Flag) (ids : List String)
    (start : Progress σ) :
    (∃ events finish, PassedOver context flag start ids events finish) ∨
      ∃ before id after experiment events middle, ids = before ++ id :: after ∧
        PassedOver context flag start before events middle ∧
        context.config.experimentsById[id]? = some experiment ∧
        ∃ outcome events' finish,
          RuleDecides context flag experiment middle outcome events' finish := by
  induction ids generalizing start with
  | nil => exact .inl ⟨_, _, .nil⟩
  | cons first rest ih =>
      cases known : context.config.experimentsById[first]? with
      | none =>
          rcases ih start with ⟨events, finish, passed⟩ |
            ⟨before, id, after, experiment, events, middle, rfl, passed, found⟩
          · exact .inl ⟨_, _, .unknown known passed⟩
          · exact .inr ⟨first :: before, id, after, experiment, events, middle, rfl,
              .unknown known passed, found⟩
      | some candidate =>
          rcases exists_ruleDecides_or_undecided context flag candidate start with
            decides | ⟨notForced, events, middle, staged⟩
          · exact .inr ⟨[], first, rest, candidate, [], start, rfl, .nil, known, decides⟩
          · rcases ih middle with ⟨events', finish, passed⟩ |
              ⟨before, id, after, experiment, events', reached, rfl, passed, found⟩
            · exact .inl ⟨_, _, .undecided known notForced staged passed⟩
            · exact .inr ⟨first :: before, id, after, experiment, _, reached, rfl,
                .undecided known notForced staged passed, found⟩

/-- Some layer decides, or the last one leaves the flag undecided. -/
theorem exists_layered (context : Context σ) (flag : Flag) (start : Progress σ) :
    ∃ decided events finish, Layered context flag start decided events finish := by
  cases forced : context.forcedOnFlag? flag with
  | some variation => exact ⟨_, _, _, .forced forced⟩
  | none =>
      cases held : (context.config.holdoutsForFlag flag.id).findSome? context.holdoutServes? with
      | some variation =>
          obtain ⟨before, holdout, after, listed, serves, passed⟩ :=
            List.findSome?_eq_some_iff.mp held
          exact ⟨_, _, _, .holdout forced listed passed serves⟩
      | none =>
          have openToRules : OpenToRules context flag :=
            ⟨forced, List.findSome?_eq_none_iff.mp held⟩
          rcases exists_passedOver context flag flag.experimentIds start with
            ⟨events, finish, passed⟩ |
            ⟨before, id, after, experiment, events, middle, listed, passed, known,
              outcome, events', finish, decides⟩
          · cases served : (context.resolveRollout flag).value with
            | some decided => exact ⟨_, _, _, .rollout openToRules passed served⟩
            | none => exact ⟨_, _, _, .nothing openToRules passed served⟩
          · exact ⟨_, _, _, .experiment openToRules listed passed known decides⟩

theorem layered_iff_runs :
    Layered context flag start decided events finish ↔
      (context.resolveFlag flag).Runs start decided events finish := by
  constructor
  · exact Layered.runs
  · intro run
    obtain ⟨_, _, _, layered⟩ := exists_layered context flag start
    obtain ⟨rfl, rfl, rfl⟩ := layered.runs.unique run
    exact layered

end Context
end FeatureFlags
