import FeatureFlags.Proofs.Decision.LayerPrecedence
import FeatureFlags.Proofs.Decision.Overrides
import FeatureFlags.Proofs.Engine.Calls
import FeatureFlags.Proofs.Engine.Congruence
import FeatureFlags.Proofs.Project.Config

/-!
What setting an override does to later calls. It only counts for its user, and for them only in
calls that come to an experiment with its id. There it decides, whatever else is stored or
configured.
-/

namespace FeatureFlags

namespace EngineState
variable {σ : Type} (state : EngineState σ) {config : Config} {experimentKey : String}
  {experiment : Experiment}

theorem setForcedVariation_of_known
    (known : config.experimentsByKey[experimentKey]? = some experiment) (userId : String)
    (variationKey : Option String) :
    let set := state.overrides.set experiment userId variationKey
    state.setForcedVariation config experimentKey userId variationKey =
      (set.1, { state with overrides := set.2 }) := by
  simp only [setForcedVariation, known]

/-- An override that is refused leaves everything as it is. -/
theorem setForcedVariation_of_refused {userId : String} {variationKey : Option String}
    (refused : (state.setForcedVariation config experimentKey userId variationKey).1 = false) :
    (state.setForcedVariation config experimentKey userId variationKey).2 = state := by
  cases known : config.experimentsByKey[experimentKey]? with
  | none => simp only [setForcedVariation, known]
  | some experiment =>
      rw [setForcedVariation_of_known state known] at refused ⊢
      simp only [OverrideTable.set_of_refused _ refused]

end EngineState

namespace Engine
variable {σ : Type} {engine : Engine σ} {state : EngineState σ} {config : Config} {user : User}
  {options : DecideOptions} {overrides : OverrideTable}

theorem getVariation_withOverrides {experimentKey : String}
    (same : ∀ experiment, config.experimentsByKey[experimentKey]? = some experiment →
      overrides.variationId? experiment user.id = state.overrides.variationId? experiment user.id) :
    engine.getVariation { state with overrides } config user options experimentKey =
      (engine.getVariation state config user options experimentKey).withOverrides overrides :=
  let context := engine.context state config user (engine.effectiveOptions options)
  getVariation_congr _ rfl fun experiment known =>
    context.resolveExperiment_withOverrides overrides (same experiment known)

/-- The user has the same overrides by two tables, in all experiments that a flag comes to. -/
def SameOverrides (config : Config) (overrides overrides' : OverrideTable) (userId : String)
    (flag : Flag) : Prop :=
  ∀ id ∈ flag.experimentIds, ∀ experiment, config.experimentsById[id]? = some experiment →
    overrides'.variationId? experiment userId = overrides.variationId? experiment userId

theorem sameFlag_withOverrides {flagKey : String}
    (same : ∀ flag, config.flagsByKey[flagKey]? = some flag →
      SameOverrides config state.overrides overrides user.id flag) :
    engine.SameFlag state overrides config user user options flagKey :=
  let context := engine.context state config user (engine.effectiveOptions options)
  fun flag known => context.resolveFlag_withOverrides overrides (same flag known)

/-- All calls for a user do the same on two states, but for the overrides that are left. -/
structure SameCalls (engine : Engine σ) (state state' : EngineState σ) (config : Config)
    (user : User) (options : DecideOptions) : Prop where
  getVariation : ∀ experimentKey,
    engine.getVariation state' config user options experimentKey =
      (engine.getVariation state config user options experimentKey).withOverrides state'.overrides
  getVariationForFeature : ∀ flagKey,
    engine.getVariationForFeature state' config user options flagKey =
      (engine.getVariationForFeature state config user options flagKey).withOverrides
        state'.overrides
  decide : ∀ flagKey,
    engine.decide state' config user options flagKey =
      (engine.decide state config user options flagKey).withOverrides state'.overrides
  decideForKeys : ∀ flagKeys,
    engine.decideForKeys state' config user options flagKeys =
      (engine.decideForKeys state config user options flagKeys).withOverrides state'.overrides
  decideAll :
    engine.decideAll state' config user options =
      (engine.decideAll state config user options).withOverrides state'.overrides

theorem sameCalls_withOverrides
    (same : ∀ experiment,
      overrides.variationId? experiment user.id = state.overrides.variationId? experiment user.id) :
    SameCalls engine state { state with overrides } config user options := by
  have sameFlag (flagKey : String) :
      engine.SameFlag state overrides config user user options flagKey :=
    sameFlag_withOverrides fun _ _ _ _ experiment _ => same experiment
  exact {
    getVariation _ := getVariation_withOverrides fun experiment _ => same experiment
    getVariationForFeature flagKey := getVariationForFeature_congr _ rfl (sameFlag flagKey)
    decide flagKey := decide_congr _ rfl (sameFlag flagKey)
    decideForKeys := decideForKeys_congr _ rfl sameFlag
    decideAll := decideForKeys_congr _ rfl sameFlag _ }

/-- An override that the experiment still knows decides, whatever else is stored or configured. -/
theorem getVariation_of_override {experimentKey : String} {experiment : Experiment}
    {variation : Variation} (known : config.experimentsByKey[experimentKey]? = some experiment)
    (active : experiment.isActive = true)
    (named : state.overrides.variationOf? experiment user.id = some variation) :
    ∃ reasons, (engine.getVariation state config user options experimentKey).value =
      .ok { outcome := .served variation .override, reasons } := by
  let context := engine.context state config user (engine.effectiveOptions options)
  have staged : Context.Staged context experiment { bandit := state.bandit } _ _ _ :=
    .override active named
  simp only [getVariation, known]
  rw [perform_of_runs staged.runs]
  exact ⟨_, rfl⟩

/-- An override only changes calls for its user: those that ask for an experiment with its id, and
those for a flag that names this id among its experiments. One that is refused changes nothing, and
one that is accepted decides, as long as the experiment is active and still has the variation,
whatever else is stored or configured. -/
theorem overrides_are_local {σ : Type} (engine : Engine σ) (state : EngineState σ)
    (config : Config) (experimentKey userId : String) (variationKey : Option String) :
    let set := state.setForcedVariation config experimentKey userId variationKey
    (set.1 = false → set.2 = state) ∧
      ∀ experiment, config.experimentsByKey[experimentKey]? = some experiment →
        (∀ (later : Config) (user : User) (options : DecideOptions), user.id ≠ userId →
          engine.SameCalls state set.2 later user options) ∧
        (∀ (later : Config) (user : User) (options : DecideOptions) (key : String),
          (∀ other, later.experimentsByKey[key]? = some other → other.id ≠ experiment.id) →
          engine.getVariation set.2 later user options key =
            (engine.getVariation state later user options key).withOverrides set.2.overrides) ∧
        (∀ (datafile : Datafile) (user : User) (options : DecideOptions) (flagKey : String),
          let later := Config.ofDatafile datafile
          (∀ flag, later.flagsByKey[flagKey]? = some flag →
            experiment.id ∉ flag.experimentIds) →
          engine.decide set.2 later user options flagKey =
              (engine.decide state later user options flagKey).withOverrides set.2.overrides ∧
            engine.getVariationForFeature set.2 later user options flagKey =
              (engine.getVariationForFeature state later user options flagKey).withOverrides
                set.2.overrides) ∧
        ∀ name, variationKey = some name → set.1 = true →
          ∃ variation, experiment.variationByKey? name = some variation ∧
            ∀ (profiles : Option ProfileStore) (bandit : σ) (later : Config) (user : User)
              (options : DecideOptions) (key : String) (kept : Experiment),
              user.id = userId → later.experimentsByKey[key]? = some kept →
              kept.id = experiment.id → kept.variations = experiment.variations →
              kept.isActive = true → (kept.variations.map (·.id)).Nodup →
              ∃ reasons,
                (engine.getVariation { set.2 with profiles, bandit } later user options key).value =
                  .ok { outcome := .served variation .override, reasons } := by
  intro set
  refine ⟨state.setForcedVariation_of_refused, ?_⟩
  intro experiment known
  rw [show set = _ from state.setForcedVariation_of_known known userId variationKey]
  refine ⟨?_, ?_, ?_, ?_⟩
  · intro later user options different
    exact sameCalls_withOverrides fun other =>
      state.overrides.variationId?_set_of_ne variationKey (.inl different)
  · intro later user options key apart
    exact getVariation_withOverrides fun other found =>
      state.overrides.variationId?_set_of_ne variationKey (.inr (apart other found))
  · intro datafile user options flagKey later unnamed
    have same : engine.SameFlag state (state.overrides.set experiment userId variationKey).2 later
        user user options flagKey := by
      refine sameFlag_withOverrides fun flag found id named other indexed => ?_
      have id_eq := (Config.wellIndexed_ofDatafile datafile).experiment_id indexed
      refine state.overrides.variationId?_set_of_ne variationKey (.inr fun sameId => ?_)
      exact unnamed flag found (sameId ▸ id_eq.symm ▸ named)
    exact ⟨decide_congr _ rfl same, getVariationForFeature_congr _ rfl same⟩
  · rintro name rfl accepted
    obtain ⟨variation, named, found⟩ := state.overrides.variationId?_set_self accepted
    refine ⟨variation, named, ?_⟩
    rintro profiles bandit later user options key kept rfl foundLater sameId sameVariations active
      distinct
    refine getVariation_of_override foundLater active ?_
    have member : variation ∈ kept.variations :=
      sameVariations ▸ List.mem_of_find?_eq_some named
    rw [OverrideTable.variationOf?, OverrideTable.variationId?_congr _ sameId, found]
    exact Experiment.variationById?_of_mem distinct member

namespace Sample

def off : Variation := { id := "2", key := "off" }

/-- Everyone is in the first of two variations, but for overrides. -/
def split : Experiment := { everyone with key := "split", variations := [on, off] }

def banner : Flag := { id := "30", key := "banner", rolloutId := "40" }

/-- The rollout of the flag has a rule with the id of the experiment. -/
def splitDatafile : Datafile :=
  { experiments := [split], rollouts := [{ id := "40", rules := [everyone] }], flags := [banner] }

end Sample

theorem overrides_are_local_of_shared_id :
    let config := Config.ofDatafile Sample.splitDatafile
    let user : User := { id := "user" }
    let set := Sample.empty.setForcedVariation config "split" "user" (some "off")
    set.1 = true ∧
      (Sample.first.getVariation Sample.empty config user ∅ "split").value.map (·.outcome) =
        .ok (.served Sample.on .experiment) ∧
      (∃ reasons, (Sample.first.getVariation set.2 config user ∅ "split").value =
        .ok { outcome := .served Sample.off .override, reasons }) ∧
      Sample.first.SameCalls Sample.empty set.2 config { id := "guest" } ∅ ∧
      (Sample.first.decide Sample.empty config user ∅ "banner").value.variationKey = some "on" ∧
      Sample.first.decide set.2 config user ∅ "banner" =
        (Sample.first.decide Sample.empty config user ∅ "banner").withOverrides
          set.2.overrides := by
  intro config user set
  have known : config.experimentsByKey["split"]? = some Sample.split := rfl
  have accepted : set.1 = true := rfl
  obtain ⟨_, locality⟩ :=
    overrides_are_local Sample.first Sample.empty config "split" "user" (some "off")
  obtain ⟨others, _, flags, own⟩ := locality Sample.split known
  obtain ⟨variation, named, decides⟩ := own "off" rfl accepted
  cases named.symm.trans (show Sample.split.variationByKey? "off" = some Sample.off from rfl)
  have active : Sample.split.isActive = true := Experiment.isActive_iff.mpr (.inl rfl)
  have served := decides (some {}) () config user ∅ "split" Sample.split rfl known rfl rfl active
    (by decide)
  have apart := flags Sample.splitDatafile user ∅ "banner" (by
    rintro flag found
    cases found.symm.trans (show _ = some Sample.banner from rfl)
    decide)
  exact ⟨accepted, rfl, served, others config { id := "guest" } ∅ (by decide), rfl, apart.1⟩

end Engine
end FeatureFlags
