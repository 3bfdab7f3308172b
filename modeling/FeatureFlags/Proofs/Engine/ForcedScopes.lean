import FeatureFlags.Proofs.Decision.ForcedScopes
import FeatureFlags.Proofs.Engine.Congruence
import FeatureFlags.Proofs.Engine.Overrides
import FeatureFlags.Proofs.Engine.Reporting

/-!
What forcing one more decision does to a call. It only counts for its flag or its rule, and if the
flag cannot serve the variation, nothing comes of it but notes.
-/

namespace FeatureFlags

namespace Reason
variable {note : Reason} {reasons reasons' : List Reason}

theorem report_padded (padded : Padded (· = note) reasons reasons') (includeInfos : Bool) :
    Padded (· = note.message) (report includeInfos reasons) (report includeInfos reasons') :=
  (padded.filter _).map message fun _ extra => congrArg message extra.1

/-- Notes that are no errors are only reported on request. -/
theorem report_padded_of_info (padded : Padded (· = note) reasons reasons')
    (harmless : note.severity = .info) : report false reasons' = report false reasons := by
  refine congrArg (List.map message) ((padded.filter _).eq_of_none ?_)
  rintro _ ⟨rfl, reported⟩
  simp [isError, harmless] at reported

end Reason

namespace FlagDecision

/-- The second decision is the first one, perhaps with more notes of one kind, which are only
reported on request. -/
structure NotedAs (decision decision' : FlagDecision) (note : Reason) (options : DecideOptions) :
    Prop where
  same : { decision' with reasons := decision.reasons } = decision
  reasons : Padded (· = note.message) decision.reasons decision'.reasons
  unasked : options.contains .includeReasons = false → decision' = decision

theorem notedAs_refl (decision : FlagDecision) (note : Reason) (options : DecideOptions) :
    decision.NotedAs decision note options where
  same := rfl
  reasons := .refl _
  unasked _ := rfl

theorem notedAs_ofOutcome (flag : Flag) (decided : FlagOutcome) (user : User) (config : Config)
    (options : DecideOptions) {note : Reason} {reasons reasons' : List Reason}
    (padded : Padded (· = note) reasons reasons') (harmless : note.severity = .info) :
    (ofOutcome flag decided reasons user config options).NotedAs
      (ofOutcome flag decided reasons' user config options) note options where
  same := rfl
  reasons := Reason.report_padded (padded.append (.refl _)) _
  unasked unasked := by
    have reported := Reason.report_padded_of_info
      (padded.append (.refl (resolveVariables flag decided.outcome options).reasons)) harmless
    simp only [ofOutcome, unasked, reported]

end FlagDecision

namespace Engine
variable {σ α : Type} {engine : Engine σ} {state : EngineState σ} {config : Config} {user : User}
  {options : DecideOptions} {scope : DecisionScope} {variationKey : String}

theorem perform_force_notesMore (state : EngineState σ) {extra : Reason → Prop}
    {resolution resolution' : Resolution σ α}
    (more : Resolution.NotesMore extra resolution resolution') :
    let call := perform state (engine.context state config user options) resolution
    let call' := perform state
      (engine.context state config (user.force scope variationKey) options) resolution'
    call'.events = call.events ∧ call'.state = call.state ∧
      call'.value.value = call.value.value ∧
      Padded extra call.value.allReasons call'.value.allReasons := by
  obtain ⟨value, events, reasons⟩ := more { bandit := state.bandit }
  have saved (tracker : Tracker) :
      saveProfile (engine.context state config (user.force scope variationKey) options) tracker
        state.profiles =
      saveProfile (engine.context state config user options) tracker state.profiles := rfl
  simp only [perform, value, events, saved, Resolved.allReasons, true_and]
  exact reasons.append (.refl _)

section Heedless
variable (heedless : ∀ service ∈ engine.bandit, service.IgnoresForced)
include heedless

/-- A decision that is forced for a flag has no part in asking for an experiment. -/
theorem getVariation_force (experimentKey : String) :
    engine.getVariation state config (user.force scope variationKey) options experimentKey =
      engine.getVariation state config user options experimentKey := by
  let context := engine.context state config user (engine.effectiveOptions options)
  calc
    _ = (engine.getVariation state config user options experimentKey).withOverrides
          state.overrides :=
      getVariation_congr state.overrides (user.force_id _ _) fun experiment _ =>
        context.resolveExperiment_withForced (user.force scope variationKey).forced heedless
          experiment
    _ = _ := Performed.withOverrides_of_eq (getVariation_overrides experimentKey)

section Elsewhere
variable {flagKey : String} (elsewhere : ∀ flag, config.flagsByKey[flagKey]? = some flag →
  ∀ other ∈ config.scopesOf flag, scope ≠ other)
include elsewhere

theorem sameFlag_force :
    engine.SameFlag state state.overrides config user (user.force scope variationKey) options
      flagKey := by
  let context := engine.context state config user (engine.effectiveOptions options)
  intro flag known
  exact context.resolveFlag_force_elsewhere heedless (elsewhere flag known) variationKey

theorem getVariationForFeature_force :
    engine.getVariationForFeature state config (user.force scope variationKey) options flagKey =
      engine.getVariationForFeature state config user options flagKey := calc
  _ = (engine.getVariationForFeature state config user options flagKey).withOverrides
        state.overrides :=
    getVariationForFeature_congr state.overrides (user.force_id _ _)
      (sameFlag_force heedless elsewhere)
  _ = _ := Performed.withOverrides_of_eq (getVariationForFeature_overrides flagKey)

theorem decide_force :
    engine.decide state config (user.force scope variationKey) options flagKey =
      engine.decide state config user options flagKey := calc
  _ = (engine.decide state config user options flagKey).withOverrides state.overrides :=
    decide_congr state.overrides (user.force_id _ _) (sameFlag_force heedless elsewhere)
  _ = _ := Performed.withOverrides_of_eq (decide_overrides flagKey)

end Elsewhere

theorem decideForKeys_force
    (elsewhere : ∀ (flagKey : String) (flag : Flag), config.flagsByKey[flagKey]? = some flag →
      ∀ other ∈ config.scopesOf flag, scope ≠ other) (flagKeys : List String) :
    engine.decideForKeys state config (user.force scope variationKey) options flagKeys =
      engine.decideForKeys state config user options flagKeys := calc
  _ = (engine.decideForKeys state config user options flagKeys).withOverrides state.overrides :=
    decideForKeys_congr state.overrides (user.force_id _ _)
      (fun flagKey => sameFlag_force heedless (elsewhere flagKey)) flagKeys
  _ = _ := Performed.withOverrides_of_eq (decideForKeys_overrides flagKeys)

/-- Where nothing was forced, a variation that the flag cannot serve adds nothing but notes. -/
theorem decide_force_invalid (unforced : user.forced? scope = none)
    (unserved : config.flagVariationByKey? scope.flagKey variationKey = none) (flagKey : String) :
    let call := engine.decide state config user options flagKey
    let call' := engine.decide state config (user.force scope variationKey) options flagKey
    call'.events = call.events ∧ call'.state = call.state ∧
      call.value.NotedAs call'.value (user.invalidForcedNote scope)
        (engine.effectiveOptions options) := by
  cases known : config.flagsByKey[flagKey]? with
  | none =>
      simp only [decide, known, true_and]
      exact FlagDecision.notedAs_refl _ _ _
  | some flag =>
      let context := engine.context state config user (engine.effectiveOptions options)
      let context' := engine.context state config (user.force scope variationKey)
        (engine.effectiveOptions options)
      have notes : context.ForcesOnlyNotes (user.force scope variationKey).forced flag
          (· = user.invalidForcedNote scope) :=
        fun other _ => User.forcedVariation_force_invalid unforced unserved other
      have more : Resolution.NotesMore _ (context.resolveFlag flag) (context'.resolveFlag flag) :=
        notes.resolveFlag heedless
      obtain ⟨events, left, value, reasons⟩ := perform_force_notesMore state more
      simp only [decide, known, Performed.map]
      refine ⟨events, left, ?_⟩
      rw [value]
      exact FlagDecision.notedAs_ofOutcome flag _ user config _ reasons rfl

end Heedless

/-- Forcing one more decision has no part in flags with other keys, and none in asking for an
experiment. Where none was forced before, a variation that the flag cannot serve leaves notes that
are no errors and nothing else. If the flag has no such rule, nothing comes of it at all. Services
must not look at forced decisions, and the caching one does not. -/
theorem forced_decisions_are_scoped :
    (∀ client correlationId,
      (Bandit.Service.caching client correlationId).IgnoresForced) ∧
    ∀ {σ : Type} (engine : Engine σ),
      (∀ service ∈ engine.bandit, service.IgnoresForced) →
      ∀ (state : EngineState σ) (datafile : Datafile) (user : User) (options : DecideOptions)
        (scope : DecisionScope) (variationKey : String),
        let config := Config.ofDatafile datafile
        let forcing := user.force scope variationKey
        (∀ flagKey, flagKey ≠ scope.flagKey →
          engine.decide state config forcing options flagKey =
            engine.decide state config user options flagKey) ∧
        (∀ experimentKey,
          engine.getVariation state config forcing options experimentKey =
            engine.getVariation state config user options experimentKey) ∧
        (user.forced? scope = none →
          config.flagVariationByKey? scope.flagKey variationKey = none →
          let call := engine.decide state config user options scope.flagKey
          let call' := engine.decide state config forcing options scope.flagKey
          call'.events = call.events ∧ call'.state = call.state ∧
            call.value.NotedAs call'.value (user.invalidForcedNote scope)
              (engine.effectiveOptions options)) ∧
        ∀ ruleKey, scope.ruleKey = some ruleKey →
          (∀ flag, config.flagsByKey[scope.flagKey]? = some flag →
            ∀ rule, config.RefersTo flag rule → rule.key ≠ ruleKey) →
          engine.getVariation state config forcing options =
              engine.getVariation state config user options ∧
            engine.getVariationForFeature state config forcing options =
              engine.getVariationForFeature state config user options ∧
            engine.decide state config forcing options =
              engine.decide state config user options ∧
            engine.decideForKeys state config forcing options =
              engine.decideForKeys state config user options ∧
            engine.decideAll state config forcing options =
              engine.decideAll state config user options := by
  refine ⟨Bandit.Service.caching_ignoresForced, ?_⟩
  intro σ engine heedless state datafile user options scope variationKey config forcing
  have indexed : config.WellIndexed := Config.wellIndexed_ofDatafile datafile
  refine ⟨?_, getVariation_force heedless, fun unforced unserved =>
    decide_force_invalid heedless unforced unserved scope.flagKey, ?_⟩
  · intro flagKey different
    refine decide_force heedless fun flag known other listed same => different ?_
    rw [same, Config.flagKey_of_mem_scopesOf listed, indexed.flag_key known]
  · intro ruleKey onRule noRule
    have elsewhere : ∀ (flagKey : String) (flag : Flag), config.flagsByKey[flagKey]? = some flag →
        ∀ other ∈ config.scopesOf flag, scope ≠ other := by
      rintro flagKey flag known other listed rfl
      have own : scope.flagKey = flagKey :=
        (Config.flagKey_of_mem_scopesOf listed).trans (indexed.flag_key known)
      obtain rfl | onOther := List.mem_cons.mp listed
      · cases onRule
      · obtain ⟨rule, refers, rfl⟩ := List.mem_map.mp onOther
        exact noRule flag (own ▸ known) rule (Config.mem_rulesOf_iff.mp refers)
          (Option.some.inj onRule)
    exact ⟨funext (getVariation_force heedless),
      funext fun flagKey => getVariationForFeature_force heedless (elsewhere flagKey),
      funext fun flagKey => decide_force heedless (elsewhere flagKey),
      funext (decideForKeys_force heedless elsewhere),
      decideForKeys_force heedless elsewhere _⟩

theorem forced_decisions_are_scoped_of_rollout_rule :
    let config := Config.ofDatafile Sample.splitDatafile
    let user : User := { id := "user" }
    let scope : DecisionScope := { flagKey := "banner", ruleKey := some "everyone" }
    let options := DecideOptions.ofList [.includeReasons]
    let call := Sample.steady.decide Sample.untouched config user options "banner"
    let call' :=
      Sample.steady.decide Sample.untouched config (user.force scope "gone") options "banner"
    (call.value.variationKey = some "on" ∧ call'.value.reasons ≠ call.value.reasons) ∧
      call'.events = call.events ∧ call'.state = call.state ∧
      call.value.NotedAs call'.value (user.invalidForcedNote scope)
        (Sample.steady.effectiveOptions options) ∧
      Sample.steady.decideAll Sample.untouched config
          (user.force { flagKey := "banner", ruleKey := some "split" } "on") options =
        Sample.steady.decideAll Sample.untouched config user options := by
  intro config user scope options call call'
  have ⟨caching, law⟩ := forced_decisions_are_scoped
  have law := law Sample.steady (by rintro _ ⟨⟩; exact caching _ _) Sample.untouched
    Sample.splitDatafile user options
  obtain ⟨_, _, invalid, _⟩ := law scope "gone"
  have unserved : config.flagVariationByKey? "banner" "gone" = none := by rfl
  obtain ⟨events, state, noted⟩ := invalid rfl unserved
  obtain ⟨_, _, _, noRule⟩ := law { flagKey := "banner", ruleKey := some "split" } "on"
  have unchanged := noRule "split" rfl (by
    rintro flag known
    cases known.symm.trans (show _ = some Sample.banner from rfl)
    simp only [← Config.mem_rulesOf_iff]
    decide)
  refine ⟨⟨rfl, ?_⟩, events, state, noted, unchanged.2.2.2.2⟩
  simp only [call, call']
  decide +kernel

end Engine
end FeatureFlags
