import FeatureFlags.Proofs.Decision.Variables
import FeatureFlags.Proofs.Engine.WellFormed

/-!
The variables of flag decisions, however many flags are decided by a call. They have the values that
the flag has for the variation that is served, and nothing of a variation shows that does not enable
the flag or that sets variables which the flag does not declare.
-/

namespace FeatureFlags

namespace Outcome

/-- A variation that does not enable the flag shows as little as none. -/
theorem shownUsages_of_not_enabled {outcome : Outcome} (disabled : outcome.isEnabled = false)
    (flag : Flag) : flag.shownUsages outcome.variation? = flag.shownUsages none := by
  rw [isEnabled] at disabled
  cases served : outcome.variation? with
  | none => rfl
  | some variation =>
      rw [served, Option.any_some] at disabled
      simp [Flag.shownUsages, FlagVariable.countedUsages, disabled]

end Outcome

namespace FlagDecision

theorem variableValues_ofOutcome (flag : Flag) {decided : FlagOutcome} {options : DecideOptions}
    (unfailed : decided.outcome.isError = false)
    (included : options.contains .excludeVariables = false) (reasons : List Reason) (user : User)
    (config : Config) :
    (ofOutcome flag decided reasons user config options).variableValues =
      (flag.variableValues decided.outcome.variation?).value := by
  simp [ofOutcome, resolveVariables, unfailed, included]

end FlagDecision

namespace Context
variable {σ : Type} {context : Context σ}

theorem Answered.known_of_mem {keys : List String} {answers : List Answer} {events : List Event}
    {start finish : Progress σ} (answered : Answered context start keys answers events finish)
    {key : String} {flag : Flag} {decided : FlagOutcome} {reasons : List Reason}
    (member : (key, some (flag, decided, reasons)) ∈ answers) :
    context.config.flagsByKey[key]? = some flag := by
  induction answered with
  | nil => cases member
  | unknown _ _ ih =>
      rcases List.mem_cons.mp member with here | later
      · cases here
      · exact ih later
  | known known _ _ ih =>
      rcases List.mem_cons.mp member with here | later
      · cases here
        exact known
      · exact ih later

end Context

namespace Engine
open Context
variable {σ : Type} {engine : Engine σ} {state : EngineState σ} {user : User}
  {options : DecideOptions}

theorem known_of_mem_answers {config : Config} {keys : List String} {key : String} {flag : Flag}
    {decided : FlagOutcome} {reasons : List Reason}
    (member : (key, some (flag, decided, reasons)) ∈
      engine.answers state config user options keys) :
    config.flagsByKey[key]? = some flag := by
  let context := engine.context state config user (engine.effectiveOptions options)
  obtain ⟨answers, _, _, run, answered⟩ :=
    exists_answered context keys { bandit := state.bandit }
  rw [Engine.answers, run.1] at member
  exact answered.known_of_mem member

/-- A decision that has not failed comes with the values of the variables that its flag declares, if
they are not left out. If the flag is not enabled the values are those that it has without any
variation, and usages of variables that it does not declare never matter. -/
theorem variables_resolve {datafile : Datafile} {query : Query} {answers : List Answer}
    {decision : FlagDecision}
    (gives : Gives engine state (.ofDatafile datafile) user options query answers decision)
    (unfailed : decision.error = false)
    (included : (engine.effectiveOptions options).contains .excludeVariables = false) :
    ∃ flag decided reasons,
      (Config.ofDatafile datafile).flagsByKey[decision.flagKey]? = some flag ∧
        (decision.flagKey, some (flag, decided, reasons)) ∈ answers ∧ decision.Shows decided ∧
        flag.Resolves decided.outcome.variation? decision.variableValues ∧
        (decision.enabled = false →
          decision.variableValues = (flag.variableValues none).value) ∧
        ∀ variation, flag.shownUsages variation = flag.shownUsages decided.outcome.variation? →
          decision.variableValues = (flag.variableValues variation).value := by
  obtain ⟨⟨keys, rfl⟩, saveReasons, ⟨key, found⟩, member, rfl⟩ := mem_answers_of_gives gives
  cases found with
  | none => cases unfailed
  | some found =>
      obtain ⟨flag, decided, reasons⟩ := found
      have known := known_of_mem_answers member
      have own : flag.key = key := (Config.wellIndexed_ofDatafile datafile).flag_key known
      have values := FlagDecision.variableValues_ofOutcome flag unfailed included
        (reasons ++ saveReasons) user (.ofDatafile datafile)
      have resolves := flag.resolves_variableValues decided.outcome.variation?
      rw [← values] at resolves
      refine ⟨flag, decided, reasons, own ▸ known, own ▸ member, ⟨rfl, rfl, rfl, rfl, rfl, rfl⟩,
        resolves, fun disabled => ?_, fun variation same => ?_⟩
      · exact values.trans
          (Flag.variableValues_congr (Outcome.shownUsages_of_not_enabled disabled flag))
      · exact values.trans (Flag.variableValues_congr same.symm)

namespace Sample

/-- The size is set twice, and something that no flag declares as well. -/
def sized : Variation :=
  { id := "1", key := "sized", featureEnabled := true
    usages := [{ id := "9", value := "hidden" }, { id := "3", value := "+7" },
      { id := "3", value := "9" }] }

def large : FlagVariable := { id := "3", key := "size", type := "integer", defaultValue := "large" }

/-- A share that is written with an exponent. -/
def share : FlagVariable :=
  { id := "4", key := "share", type := "double", defaultValue := "2.5e-1" }

/-- Two variables share a key, and the default of the second one is no number. -/
def fitted : Flag :=
  { id := "30", key := "banner", experimentIds := ["20"]
    declaredVariables :=
      [{ id := "1", key := "size", type := "string", defaultValue := "small" },
        { id := "2", key := "colour", type := "paint", defaultValue := "red" }, share, large] }

def fitting : Datafile :=
  { experiments := [{ everyone with variations := [sized] }], flags := [fitted] }

end Sample

theorem variables_resolve_of_shared_key :
    let decision := (Sample.first.decide Sample.empty (.ofDatafile Sample.fitting)
      { id := "user" } ∅ "banner").value
    decision.error = false ∧
      (Sample.first.effectiveOptions ∅).contains .excludeVariables = false ∧
      (∃ raw value, decision.variableValues["size"]? = some value ∧
        Sample.large.RawText (some Sample.sized) raw ∧ Sample.large.ValueOf raw value) ∧
      decision.variableValues["share"]? = some (.number (.real 0.25)) ∧
      decision.variableValues = (Sample.fitted.variableValues
        (some { Sample.sized with usages := Sample.sized.usages.drop 1 })).value := by
  intro decision
  have gives := @Gives.decide Unit Sample.first Sample.empty (.ofDatafile Sample.fitting)
    { id := "user" } ∅ "banner"
  obtain ⟨flag, decided, reasons, known, answered, _, resolves, _, shown⟩ :=
    variables_resolve gives rfl rfl
  cases (show some Sample.fitted = some flag from known)
  obtain ⟨rule, others, only⟩ : ∃ rule others, Sample.first.answers Sample.empty
      (.ofDatafile Sample.fitting) { id := "user" } ∅ ["banner"] = [("banner", some
        (Sample.fitted, { rule, outcome := .served Sample.sized .experiment }, others))] :=
    ⟨_, _, rfl⟩
  rw [only] at answered
  cases List.mem_singleton.mp answered
  obtain ⟨raw, value, found, text, valueOf, _⟩ :=
    resolves.value (Sample.fitted.declaredVariables.take 3) Sample.large [] rfl nofun
  obtain ⟨raw', value', found', text', valueOf', _⟩ :=
    resolves.value (Sample.fitted.declaredVariables.take 2) Sample.share [Sample.large] rfl
      (by decide)
  have written : WritesDouble "2.5e-1" 0.25 :=
    readFloat_eq_some_iff.mp ⟨by decide +kernel, by decide⟩
  have unset : ∀ usage ∈ Sample.sized.usages, usage.id ≠ Sample.share.id := by decide
  have quarter : value' = .number (.real 0.25) := by
    cases text' with
    | @used _ _ _ usage _ split _ own =>
        exact absurd own (unset usage (by rw [split]; simp))
    | default _ => exact valueOf'.eq_of_denotes (.double rfl written)
  exact ⟨rfl, rfl, ⟨raw, value, found, text, valueOf⟩, quarter ▸ found', shown _ rfl⟩

end Engine
end FeatureFlags
