import FeatureFlags.Engine

/-!
Overrides and forced decisions have no part in a call but through what it resolves. If that is the
same with others, so is the whole call, but for the overrides that it leaves.
-/

namespace FeatureFlags

/-- The same call, on a state with other overrides. -/
def Performed.withOverrides {σ α : Type} (performed : Performed σ α) (overrides : OverrideTable) :
    Performed σ α :=
  { performed with state := { performed.state with overrides } }

theorem Performed.withOverrides_of_eq {σ α : Type} {performed : Performed σ α}
    {overrides : OverrideTable} (kept : performed.state.overrides = overrides) :
    performed.withOverrides overrides = performed := by
  subst kept
  rfl

namespace FlagDecision
variable {user user' : User} (sameId : user'.id = user.id)
include sameId

/-- A decision names its user by id and tells nothing else of them. -/
theorem ofOutcome_congr (flag : Flag) (decided : FlagOutcome) (reasons : List Reason)
    (config : Config) (options : DecideOptions) :
    ofOutcome flag decided reasons user' config options =
      ofOutcome flag decided reasons user config options := by
  simp only [ofOutcome, sameId]

theorem unknownFlag_congr (flagKey : String) :
    unknownFlag flagKey user' = unknownFlag flagKey user := by
  simp only [unknownFlag, sameId]

end FlagDecision

namespace Context
variable {σ : Type} {context context' : Context σ}

/-- Contexts that agree on the flags of a configuration agree on any keys. -/
theorem resolveKeys_congr (config : context'.config = context.config)
    (same : ∀ (key : String) (flag : Flag), context.config.flagsByKey[key]? = some flag →
      context'.resolveFlag flag = context.resolveFlag flag) (keys : List String) :
    context'.resolveKeys keys = context.resolveKeys keys := by
  have each (key : String) : context'.resolveKey key = context.resolveKey key := by
    simp only [resolveKey, config]
    cases known : context.config.flagsByKey[key]? with
    | none => rfl
    | some flag => simp only [same key flag known]
  induction keys with
  | nil => rfl
  | cons key rest ih => simp only [resolveKeys, each, ih]

end Context

namespace Engine
variable {σ α : Type} {engine : Engine σ} {state : EngineState σ} {config : Config}
  {user user' : User} {options : DecideOptions}

/-! No call changes an override. -/

theorem getVariation_overrides (experimentKey : String) :
    (engine.getVariation state config user options experimentKey).state.overrides =
      state.overrides := by
  simp only [getVariation]
  cases config.experimentsByKey[experimentKey]? <;> rfl

theorem getVariationForFeature_overrides (flagKey : String) :
    (engine.getVariationForFeature state config user options flagKey).state.overrides =
      state.overrides := by
  simp only [getVariationForFeature]
  cases config.flagsByKey[flagKey]? <;> rfl

theorem decide_overrides (flagKey : String) :
    (engine.decide state config user options flagKey).state.overrides = state.overrides := by
  simp only [decide]
  cases config.flagsByKey[flagKey]? <;> rfl

theorem decideForKeys_overrides (flagKeys : List String) :
    (engine.decideForKeys state config user options flagKeys).state.overrides =
      state.overrides :=
  rfl

section Congruence
variable (overrides : OverrideTable) (sameId : user'.id = user.id)
include sameId

theorem keyedDecision_congr :
    keyedDecision config user' options = keyedDecision config user options := by
  funext saveReasons answer
  obtain ⟨flagKey, _ | ⟨flag, decided, reasons⟩⟩ := answer
  · exact FlagDecision.unknownFlag_congr sameId flagKey
  · exact FlagDecision.ofOutcome_congr sameId flag decided _ config options

/-- Profiles are saved under the id of the user, whatever is forced for them. -/
theorem perform_congr {resolution resolution' : Resolution σ α}
    (same : resolution' = resolution) :
    perform { state with overrides }
        (engine.context { state with overrides } config user' options) resolution' =
      (perform state (engine.context state config user options) resolution).withOverrides
        overrides := by
  have saved (tracker : Tracker) :
      saveProfile (engine.context { state with overrides } config user' options) tracker =
        saveProfile (engine.context state config user options) tracker := by
    funext store
    simp only [saveProfile, context, sameId]
  simp only [perform, same, saved]
  rfl

theorem getVariation_congr {experimentKey : String}
    (same : ∀ experiment, config.experimentsByKey[experimentKey]? = some experiment →
      (engine.context { state with overrides } config user'
        (engine.effectiveOptions options)).resolveExperiment experiment =
      (engine.context state config user
        (engine.effectiveOptions options)).resolveExperiment experiment) :
    engine.getVariation { state with overrides } config user' options experimentKey =
      (engine.getVariation state config user options experimentKey).withOverrides overrides := by
  simp only [getVariation]
  cases known : config.experimentsByKey[experimentKey]? with
  | none => rfl
  | some experiment =>
      simp only [perform_congr overrides sameId (same experiment known)]
      rfl

/-- The flag with a key, if there is one, comes to the same with other overrides, and for a user
for whom other decisions are forced. -/
def SameFlag (engine : Engine σ) (state : EngineState σ) (overrides : OverrideTable)
    (config : Config) (user user' : User) (options : DecideOptions) (flagKey : String) : Prop :=
  ∀ flag, config.flagsByKey[flagKey]? = some flag →
    (engine.context { state with overrides } config user'
      (engine.effectiveOptions options)).resolveFlag flag =
    (engine.context state config user (engine.effectiveOptions options)).resolveFlag flag

theorem getVariationForFeature_congr {flagKey : String}
    (same : engine.SameFlag state overrides config user user' options flagKey) :
    engine.getVariationForFeature { state with overrides } config user' options flagKey =
      (engine.getVariationForFeature state config user options flagKey).withOverrides
        overrides := by
  simp only [getVariationForFeature]
  cases known : config.flagsByKey[flagKey]? with
  | none => rfl
  | some flag =>
      simp only [perform_congr overrides sameId (same flag known)]
      rfl

theorem decide_congr {flagKey : String}
    (same : engine.SameFlag state overrides config user user' options flagKey) :
    engine.decide { state with overrides } config user' options flagKey =
      (engine.decide state config user options flagKey).withOverrides overrides := by
  simp only [decide, FlagDecision.ofOutcome_congr sameId, FlagDecision.unknownFlag_congr sameId]
  cases known : config.flagsByKey[flagKey]? with
  | none => rfl
  | some flag =>
      simp only [perform_congr overrides sameId (same flag known)]
      rfl

theorem decideForKeys_congr
    (same : ∀ flagKey, engine.SameFlag state overrides config user user' options flagKey)
    (flagKeys : List String) :
    engine.decideForKeys { state with overrides } config user' options flagKeys =
      (engine.decideForKeys state config user options flagKeys).withOverrides overrides := by
  have resolved : (engine.context { state with overrides } config user'
        (engine.effectiveOptions options)).resolveKeys flagKeys =
      (engine.context state config user
        (engine.effectiveOptions options)).resolveKeys flagKeys := by
    refine Context.resolveKeys_congr ?_ ?_ flagKeys
    · rfl
    · exact same
  simp only [decideForKeys, perform_congr overrides sameId resolved, keyedDecision_congr sameId]
  rfl

end Congruence

end Engine
end FeatureFlags
