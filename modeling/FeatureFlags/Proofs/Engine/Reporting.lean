import FeatureFlags.Proofs.Decision.LayerPrecedence
import FeatureFlags.Proofs.Decision.Reporting

/-!
What is reported about a decision has no influence on it: calls that differ in nothing but options
about reporting do the same, leave the same behind, and answer with the same decision.
-/

namespace FeatureFlags
namespace Engine
variable {σ : Type} {engine : Engine σ} {options options' : DecideOptions}

theorem context_withOptions (agree : options.AgreeButReporting options') (state : EngineState σ)
    (config : Config) (user : User) :
    engine.context state config user options' =
      { engine.context state config user options with options := options' } := by
  simp only [context, agree .ignoreProfiles rfl]

theorem perform_resolveFlag (heedless : ∀ service ∈ engine.bandit, service.IgnoresReporting)
    (agree : options.AgreeButReporting options') (state : EngineState σ) (config : Config)
    (user : User) (flag : Flag) :
    let context := engine.context state config user options
    let context' := engine.context state config user options'
    perform state context' (context'.resolveFlag flag) =
      perform state context (context.resolveFlag flag) := by
  intro context context'
  have resolved : context'.resolveFlag flag = context.resolveFlag flag := by
    simp only [context', context_withOptions agree]
    exact context.resolveFlag_withOptions heedless agree flag
  -- The save at the end depends on the user and the profiles only.
  have saved (tracker : Tracker) :
      saveProfile context' tracker state.profiles = saveProfile context tracker state.profiles := by
    simp only [context', context_withOptions agree]
    rfl
  simp only [perform, resolved, saved]

/-- Two calls whose options differ in reporting only hash the same keys, call the same services and
leave the same state, and their decisions are reports of one decision. Services must not look at
such options, and the caching one does not. -/
theorem decide_whatever_is_reported :
    (∀ client correlationId,
      (Bandit.Service.caching client correlationId).IgnoresReporting) ∧
    ∀ {σ : Type} (engine : Engine σ),
      (∀ service ∈ engine.bandit, service.IgnoresReporting) →
      ∀ (state : EngineState σ) (config : Config) (user : User) (options options' : DecideOptions)
        (flagKey : String),
        (engine.effectiveOptions options).AgreeButReporting (engine.effectiveOptions options') →
        let call := engine.decide state config user options flagKey
        let call' := engine.decide state config user options' flagKey
        call.events = call'.events ∧ call.state = call'.state ∧
          call.value.AgreeButReported call'.value (engine.effectiveOptions options)
            (engine.effectiveOptions options') := by
  refine ⟨Bandit.Service.caching_ignoresReporting, ?_⟩
  intro σ engine heedless state config user options options' flagKey agree call call'
  cases known : config.flagsByKey[flagKey]? with
  | none =>
      simp only [call, call', decide, known, true_and]
      exact FlagDecision.agreeButReported_refl _ _ _
  | some flag =>
      have performed := perform_resolveFlag heedless agree state config user flag
      simp only [call, call', decide, known, Performed.map, performed, true_and]
      exact FlagDecision.agreeButReported_ofOutcome _ _ _ _ _ _ _

namespace Sample

/-- A flag that is left to a bandit, with a variable whose value does not fit its type. -/
def ticker : Flag :=
  { id := "30", key := "ticker", experimentIds := ["20"]
    declaredVariables :=
      [{ id := "40", key := "limit", type := "integer", defaultValue := "many" }] }

def tickerProject : Config :=
  .ofDatafile
    { experiments := [{ everyone with bandit := some { trafficAllocation := 10000 } }]
      flags := [ticker] }

/-- An engine whose remote service chooses the same variation for everyone. -/
def steady : Engine Bandit.CachingState :=
  { sharder := fun _ => 0, bandit := some (.caching (fun _ => .ok "1") Nat.repr) }

def untouched : EngineState Bandit.CachingState :=
  { profiles := some {}, bandit := { cache := .standard } }

end Sample

theorem decide_whatever_is_reported_of_bandit :
    let call :=
      Sample.steady.decide Sample.untouched Sample.tickerProject { id := "user" } ∅ "ticker"
    let reporting :=
      (∅ : DecideOptions).union (.ofList [.includeReasons, .enabledFlagsOnly, .excludeVariables])
    let call' :=
      Sample.steady.decide Sample.untouched Sample.tickerProject { id := "user" } reporting "ticker"
    (call.value.variationKey = some "on" ∧ call.value.reasons = [] ∧ call'.value.reasons ≠ [] ∧
      call.value.variableValues["limit"]? = some .null ∧ call'.value.variableValues = ∅) ∧
      call.events = call'.events ∧ call.state = call'.state ∧
      call.value.bare = call'.value.bare := by
  intro call reporting call'
  have agree : (Sample.steady.effectiveOptions ∅).AgreeButReporting
      (Sample.steady.effectiveOptions reporting) :=
    DecideOptions.agreeButReporting_union _ (by decide)
  have ⟨caching, same⟩ := decide_whatever_is_reported
  obtain ⟨events, state, reported⟩ := same Sample.steady (by rintro _ ⟨⟩; exact caching _ _)
    Sample.untouched Sample.tickerProject { id := "user" } ∅ reporting "ticker" agree
  refine ⟨⟨rfl, rfl, ?_, rfl, rfl⟩, events, state, reported.bare_eq⟩
  simp only [call', reporting]
  decide +kernel

end Engine
end FeatureFlags
