import FeatureFlags.Engine
import FeatureFlags.Proofs.Profile.Tracker
import FeatureFlags.Proofs.Resolution

/-!
What a call adds to the resolution that it carries out. At the end the profile is saved if a
variation was added to it; otherwise the stored profiles stay as they are.
-/

namespace FeatureFlags

namespace Context
variable {σ : Type}

/-- The save that a call ends with. -/
def saves (context : Context σ) (finish : Progress σ) : List Event :=
  match context.profiles, finish.tracker with
  | some _, .changed profile => [.saved profile.toStored]
  | _, _ => []

theorem saves_of_unchanged (context : Context σ) {finish : Progress σ}
    (unchanged : finish.tracker.isChanged = false) : context.saves finish = [] := by
  simp only [saves]
  cases context.profiles with
  | none => rfl
  | some store =>
      cases reached : finish.tracker with
      | idle | loaded _ => rfl
      | changed _ => rw [reached] at unchanged; cases unchanged

end Context

namespace Engine
variable {σ α : Type}

theorem events_saveProfile (context : Context σ) (finish : Progress σ)
    (profiles : Option ProfileStore) :
    (saveProfile context finish.tracker profiles).events = context.saves finish := by
  simp only [saveProfile, Context.saves]
  cases context.profiles with
  | none => rfl
  | some store =>
      cases finish.tracker with
      | idle | loaded _ => rfl
      | changed profile => cases saving : store.save profile <;> simp [Tracker.finish, saving]

/-- The state that a call leaves when its resolution ends with some progress. -/
def leave (context : Context σ) (state : EngineState σ) (finish : Progress σ) : EngineState σ :=
  { state with
    profiles := (saveProfile context finish.tracker state.profiles).value
    bandit := finish.bandit }

theorem profiles_context (engine : Engine σ) (state : EngineState σ) (config : Config)
    (user : User) (options : DecideOptions) :
    (engine.context state config user options).profiles =
      if options.contains .ignoreProfiles then none else state.profiles := rfl

theorem profiles_of_heeded (engine : Engine σ) (state : EngineState σ) (config : Config)
    (user : User) {options : DecideOptions} (heeded : options.contains .ignoreProfiles = false) :
    (engine.context state config user options).profiles = state.profiles := by
  rw [profiles_context, heeded, if_neg Bool.false_ne_true]

theorem profiles_of_context {engine : Engine σ} {state : EngineState σ} {config : Config}
    {user : User} {options : DecideOptions} {store : ProfileStore}
    (profiles : (engine.context state config user options).profiles = some store) :
    state.profiles = some store ∧ options.contains .ignoreProfiles = false := by
  rw [profiles_context] at profiles
  split at profiles
  · cases profiles
  · rename_i heeded
    exact ⟨profiles, Bool.eq_false_iff.mpr heeded⟩

theorem leave_of_ignored {context : Context σ} (ignored : context.profiles = none)
    (state : EngineState σ) (finish : Progress σ) :
    leave context state finish = { state with bandit := finish.bandit } := by
  simp only [leave, saveProfile, ignored, Traced.value_pure]

theorem leave_of_store {context : Context σ} {store : ProfileStore}
    (profiles : context.profiles = some store) (inMemory : store.InMemory)
    (state : EngineState σ) (finish : Progress σ) :
    leave context state finish =
      { state with
        profiles := some (finish.tracker.saved store)
        bandit := finish.bandit } := by
  simp only [leave, saveProfile, profiles, Traced.value_map, Tracker.value_finish _ inMemory]

/-- A call that adds no variation leaves the stored profiles alone. -/
theorem leave_of_unchanged (engine : Engine σ) (state : EngineState σ) (config : Config)
    (user : User) (options : DecideOptions) {finish : Progress σ}
    (unchanged : finish.tracker.isChanged = false) :
    leave (engine.context state config user options) state finish =
      { state with bandit := finish.bandit } := by
  have kept : (saveProfile (engine.context state config user options) finish.tracker
      state.profiles).value = state.profiles := by
    simp only [saveProfile, profiles_context]
    split
    · rfl
    · rename_i store provided
      rw [Tracker.finish_of_unchanged store _ unchanged]
      split at provided
      · cases provided
      · exact provided.symm
  rw [leave, kept]

/-- A call that adds no variation and leaves the bandits alone saves nothing and changes nothing. -/
theorem silent_of_unchanged (engine : Engine σ) (state : EngineState σ) (config : Config)
    (user : User) (options : DecideOptions) {finish : Progress σ}
    (unchanged : finish.tracker.isChanged = false) (sameBandit : finish.bandit = state.bandit) :
    let context := engine.context state config user options
    context.saves finish = [] ∧ leave context state finish = state := by
  intro context
  refine ⟨context.saves_of_unchanged unchanged, ?_⟩
  rw [leave_of_unchanged engine state config user options unchanged, sameBandit]

/-- A call does what its resolution does, and then saves. -/
theorem perform_of_runs {state : EngineState σ} {context : Context σ}
    {resolution : Resolution σ α} {a : α} {events : List Event} {finish : Progress σ}
    (run : resolution.Runs { bandit := state.bandit } a events finish) :
    perform state context resolution =
      { value :=
          { value := a
            reasons := (resolution { bandit := state.bandit }).reasons
            saveReasons := (saveProfile context finish.tracker state.profiles).reasons }
        events := events ++ context.saves finish
        state := leave context state finish } := by
  obtain ⟨value, emitted⟩ := run
  simp only [perform, value, emitted, events_saveProfile]
  rfl

end Engine
end FeatureFlags
