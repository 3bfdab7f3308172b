import FeatureFlags.Proofs.Engine.Calls

/-!
The precedence of the stages, as a caller sees it: a call for one experiment does what the first
stage that decides does. Overrides and the whitelist decide without any effect, and a stored decision
with a single lookup.
-/

namespace FeatureFlags
namespace Context
variable {σ : Type} {context : Context σ} {experiment : Experiment} {start finish : Progress σ}
  {outcome : Outcome} {events : List Event}

theorem Assigned.stage_eq {stage : Stage}
    (assigned : Assigned context experiment start outcome events finish)
    (decided : outcome.stage? = some stage) : stage = .experiment ∨ stage = .bandit := by
  cases assigned with
  | hash noBandit =>
      cases bucketed : (context.hashed experiment).value with
      | none => rw [bucketed] at decided; cases decided
      | some variation => rw [bucketed] at decided; cases decided; exact .inl rfl
  | outsideShare _ _ _ => cases decided
  | bandit _ _ _ =>
      simp only [Experiment.outcomeOf] at decided
      split at decided
      · cases decided
        exact .inr rfl
      · split at decided <;> cases decided <;> exact .inr rfl

theorem Staged.silent_of_inactive (staged : Staged context experiment start outcome events finish)
    (inactive : experiment.isActive = false) :
    outcome = .undecided ∧ events = [] ∧ finish = start := by
  cases staged with
  | inactive _ => exact ⟨rfl, rfl, rfl⟩
  | override active _ | whitelist active _ _ | sticky active _ _ _ =>
      rw [inactive] at active
      cases active
  | outsideAudiences unsettled _ | assigned unsettled _ _ =>
      have active := unsettled.active
      rw [inactive] at active
      cases active

theorem Staged.silent_of_preset (staged : Staged context experiment start outcome events finish)
    (preset : outcome.stage? = some .override ∨ outcome.stage? = some .whitelist) :
    events = [] ∧ finish = start := by
  cases staged with
  | inactive _ | override _ _ | whitelist _ _ _ => exact ⟨rfl, rfl⟩
  | sticky _ _ _ _ | outsideAudiences _ _ =>
      rcases preset with decided | decided <;> cases decided
  | assigned _ _ assigned =>
      rcases preset with decided | decided <;>
        rcases assigned.stage_eq decided with different | different <;> cases different

theorem Staged.lookup_of_sticky (staged : Staged context experiment start outcome events finish)
    (sticky : outcome.stage? = some .sticky) :
    events = context.lookups start ∧ finish = context.opened start ∧ context.profiles.isSome := by
  cases staged with
  | inactive _ | override _ _ | whitelist _ _ _ | outsideAudiences _ _ => cases sticky
  | sticky _ _ _ stored =>
      refine ⟨rfl, rfl, ?_⟩
      cases profiles : context.profiles with
      | none => simp [storedVariation?, profileAt, profiles] at stored
      | some store => rfl
  | assigned _ _ assigned =>
      rcases assigned.stage_eq sticky with different | different <;> cases different

end Context

namespace Engine
open Context
variable {σ : Type}

/-- A call that a stored variation decides makes one lookup and nothing else. -/
theorem silent_of_sticky (engine : Engine σ) (state : EngineState σ) (config : Config)
    (user : User) (options : DecideOptions) {experiment : Experiment} {outcome : Outcome}
    {events : List Event} {finish : Progress σ}
    (staged : Staged (engine.context state config user options) experiment
      { bandit := state.bandit } outcome events finish)
    (sticky : outcome.stage? = some .sticky) :
    let context := engine.context state config user options
    events ++ context.saves finish = [.lookedUp user.id] ∧ leave context state finish = state := by
  intro context
  obtain ⟨rfl, rfl, provided⟩ := staged.lookup_of_sticky sticky
  obtain ⟨store, profiles⟩ := Option.isSome_iff_exists.mp provided
  obtain ⟨unsaved, left⟩ := silent_of_unchanged engine state config user options
    (isChanged_opened context { bandit := state.bandit })
    (bandit_opened context { bandit := state.bandit })
  refine ⟨?_, left⟩
  rw [unsaved, List.append_nil, lookups, profiles]
  rfl

/-- A call for an experiment follows the first stage that decides. -/
theorem getVariation_follows_first_stage (engine : Engine σ) (state : EngineState σ)
    (config : Config) (user : User) (options : DecideOptions) {experimentKey : String}
    {experiment : Experiment}
    (known : config.experimentsByKey[experimentKey]? = some experiment) :
    let context := engine.context state config user (engine.effectiveOptions options)
    let call := engine.getVariation state config user options experimentKey
    ∃ outcome reasons events finish,
      Staged context experiment { bandit := state.bandit } outcome events finish ∧
      call.value = .ok { outcome, reasons } ∧
      call.events = events ++ context.saves finish ∧
      call.state = leave context state finish ∧
      (experiment.isActive = false →
        outcome = .undecided ∧ call.events = [] ∧ call.state = state) ∧
      (outcome.stage? = some .override ∨ outcome.stage? = some .whitelist →
        call.events = [] ∧ call.state = state) ∧
      (outcome.stage? = some .sticky →
        call.events = [.lookedUp user.id] ∧ call.state = state) := by
  intro context call
  obtain ⟨outcome, events, finish, staged, reasons, performed⟩ :=
    getVariation_staged engine state config user options known
  have quiet (unchanged : finish.tracker.isChanged = false)
      (sameBandit : finish.bandit = state.bandit) :
      call.events = events ∧ call.state = state := by
    obtain ⟨unsaved, left⟩ := silent_of_unchanged engine state config user
      (engine.effectiveOptions options) unchanged sameBandit
    simp only [call, performed, unsaved, left, List.append_nil, and_self]
  refine ⟨outcome, reasons, events, finish, staged, ?_, ?_, ?_, ?_, ?_, ?_⟩
  · simp only [call, performed]
  · simp only [call, performed, context]
  · simp only [call, performed, context]
  · intro inactive
    obtain ⟨undecided, rfl, rfl⟩ := staged.silent_of_inactive inactive
    exact ⟨undecided, quiet rfl rfl⟩
  · intro preset
    obtain ⟨rfl, rfl⟩ := staged.silent_of_preset preset
    exact quiet rfl rfl
  · intro sticky
    obtain ⟨looked, left⟩ := silent_of_sticky engine state config user
      (engine.effectiveOptions options) staged sticky
    simp only [call, performed, looked, left, and_self]

namespace Sample

def on : Variation := { id := "1", key := "on", featureEnabled := true }

/-- An experiment that has lost its audience and its traffic. Its whitelist names no variation. -/
def closed : Experiment :=
  { id := "10", key := "checkout", status := .running, audienceIds := ["gone"]
    variations := [on], trafficAllocation := []
    forcedVariations := Dict.ofPairs [("user", "gone")] }

def closedProject : Config := .ofDatafile { experiments := [closed] }

/-- The user has an override that names no variation, and was given one before. -/
def visited : EngineState Unit :=
  { overrides := { entries := (∅ : Std.ExtTreeMap OverrideKey String).insert ⟨"user", "10"⟩ "gone" }
    profiles := some (ProfileStore.put {} { userId := "user", variations := .ofPairs [("10", "1")] })
    bandit := () }

end Sample

theorem getVariation_sticks_to_closed_experiment :
    Sample.closedProject.experimentsByKey["checkout"]? = some Sample.closed ∧
      let call := getVariation {} Sample.visited Sample.closedProject { id := "user" } ∅ "checkout"
      ∃ reasons, call.value = .ok { outcome := .served Sample.on .sticky, reasons } ∧
        call.events = [.lookedUp "user"] ∧ call.state = Sample.visited := by
  have known : Sample.closedProject.experimentsByKey["checkout"]? = some Sample.closed := rfl
  refine ⟨known, ?_⟩
  obtain ⟨outcome, reasons, _, _, _, value, _, _, _, _, sticky⟩ :=
    getVariation_follows_first_stage {} Sample.visited Sample.closedProject { id := "user" } ∅ known
  have served : (getVariation {} Sample.visited Sample.closedProject { id := "user" } ∅
      "checkout").value.map (·.outcome) = .ok (.served Sample.on .sticky) := rfl
  rw [value] at served
  cases served
  exact ⟨reasons, value, sticky rfl⟩

end Engine
end FeatureFlags
