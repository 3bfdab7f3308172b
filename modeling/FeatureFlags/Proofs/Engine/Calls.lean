import FeatureFlags.Proofs.Decision.Layers
import FeatureFlags.Proofs.Engine.Perform

/-!
What calls come to. A call for one experiment follows its stages, a call for one flag its layers, and
a call for several flags decides them one after another, each from the progress that the one before
it has left. Behind that the profile is saved.
-/

namespace FeatureFlags

namespace Context
variable {σ : Type} {context : Context σ} {start middle finish : Progress σ}
  {events events' : List Event}

/-- The answer to a flag key: the flag with what it decides and why, if it is known. -/
abbrev Answer := String × Option (Flag × FlagOutcome × List Reason)

/-- The answers to keys in order. -/
inductive Answered (context : Context σ) :
    Progress σ → List String → List Answer → List Event → Progress σ → Prop
  | nil {start : Progress σ} : Answered context start [] [] [] start
  | unknown {start finish : Progress σ} {key : String} {keys : List String}
      {answers : List Answer} {events : List Event}
      (unknown : context.config.flagsByKey[key]? = none)
      (rest : Answered context start keys answers events finish) :
      Answered context start (key :: keys) ((key, none) :: answers) events finish
  | known {start middle finish : Progress σ} {key : String} {keys : List String} {flag : Flag}
      {decided : FlagOutcome} {reasons : List Reason} {answers : List Answer}
      {events events' : List Event}
      (known : context.config.flagsByKey[key]? = some flag)
      (layered : Layered context flag start decided events middle)
      (rest : Answered context middle keys answers events' finish) :
      Answered context start (key :: keys) ((key, some (flag, decided, reasons)) :: answers)
        (events ++ events') finish

theorem resolveKey_runs_of_unknown {key : String}
    (unknown : context.config.flagsByKey[key]? = none) (start : Progress σ) :
    (context.resolveKey key).Runs start (key, none) [] start := by
  rw [resolveKey, unknown]
  exact Resolution.runs_pure _ start

theorem resolveKey_runs_of_layered {key : String} {flag : Flag} {decided : FlagOutcome}
    (known : context.config.flagsByKey[key]? = some flag)
    (layered : Layered context flag start decided events finish) :
    (context.resolveKey key).Runs start
      (key, some (flag, decided, (context.resolveFlag flag start).reasons)) events finish := by
  obtain ⟨value, emitted⟩ := layered.runs.explained
  simp [Resolution.Runs, resolveKey, known, Resolution.map_apply, value, emitted]

theorem resolveKeys_runs_cons {key : String} {keys : List String} {answer : Answer}
    {answers : List Answer} (first : (context.resolveKey key).Runs start answer events middle)
    (rest : (context.resolveKeys keys).Runs middle answers events' finish) :
    (context.resolveKeys (key :: keys)).Runs start (answer :: answers) (events ++ events')
      finish := by
  obtain ⟨value, emitted⟩ := first
  obtain ⟨value', emitted'⟩ := rest
  simp [Resolution.Runs, resolveKeys, Resolution.bind_apply, Resolution.map_apply, value, emitted,
    value', emitted']

/-- Every list of keys is answered. -/
theorem exists_answered (context : Context σ) (keys : List String) (start : Progress σ) :
    ∃ answers events finish, (context.resolveKeys keys).Runs start answers events finish ∧
      Answered context start keys answers events finish := by
  induction keys generalizing start with
  | nil => exact ⟨_, _, _, Resolution.runs_pure [] start, .nil⟩
  | cons key keys ih =>
      cases known : context.config.flagsByKey[key]? with
      | none =>
          obtain ⟨answers, events, finish, run, answered⟩ := ih start
          have first := resolveKey_runs_of_unknown known start
          exact ⟨_, _, _, resolveKeys_runs_cons first run, .unknown known answered⟩
      | some flag =>
          obtain ⟨decided, events, middle, layered⟩ := exists_layered context flag start
          obtain ⟨answers, events', finish, run, answered⟩ := ih middle
          have first := resolveKey_runs_of_layered known layered
          exact ⟨_, _, _, resolveKeys_runs_cons first run, .known known layered answered⟩

theorem Answered.map_fst {keys : List String} {answers : List Answer}
    (answered : Answered context start keys answers events finish) :
    answers.map Prod.fst = keys := by
  induction answered with
  | nil => rfl
  | unknown _ _ ih | known _ _ _ ih => rw [List.map_cons, ih]

end Context

namespace Engine
open Context
variable {σ : Type} (engine : Engine σ) (state : EngineState σ) (config : Config) (user : User)
  (options : DecideOptions)

theorem getVariation_staged {experimentKey : String} {experiment : Experiment}
    (known : config.experimentsByKey[experimentKey]? = some experiment) :
    let context := engine.context state config user (engine.effectiveOptions options)
    ∃ outcome events finish,
      Staged context experiment { bandit := state.bandit } outcome events finish ∧
      ∃ reasons, engine.getVariation state config user options experimentKey =
        { value := .ok { outcome, reasons }
          events := events ++ context.saves finish
          state := leave context state finish } := by
  intro context
  obtain ⟨outcome, events, finish, staged⟩ :=
    exists_staged context experiment { bandit := state.bandit }
  refine ⟨outcome, events, finish, staged, ?_⟩
  simp only [getVariation, known]
  rw [perform_of_runs staged.runs]
  exact ⟨_, rfl⟩

theorem getVariationForFeature_layered {flagKey : String} {flag : Flag}
    (known : config.flagsByKey[flagKey]? = some flag) :
    let context := engine.context state config user (engine.effectiveOptions options)
    ∃ decided events finish,
      Layered context flag { bandit := state.bandit } decided events finish ∧
      ∃ reasons, engine.getVariationForFeature state config user options flagKey =
        { value := .ok { decided, reasons }
          events := events ++ context.saves finish
          state := leave context state finish } := by
  intro context
  obtain ⟨decided, events, finish, layered⟩ :=
    exists_layered context flag { bandit := state.bandit }
  refine ⟨decided, events, finish, layered, ?_⟩
  simp only [getVariationForFeature, known]
  rw [perform_of_runs layered.runs]
  exact ⟨_, rfl⟩

theorem decide_layered {flagKey : String} {flag : Flag}
    (known : config.flagsByKey[flagKey]? = some flag) :
    let context := engine.context state config user (engine.effectiveOptions options)
    ∃ decided events finish,
      Layered context flag { bandit := state.bandit } decided events finish ∧
      ∃ reasons, engine.decide state config user options flagKey =
        { value := .ofOutcome flag decided reasons user config (engine.effectiveOptions options)
          events := events ++ context.saves finish
          state := leave context state finish } := by
  intro context
  obtain ⟨decided, events, finish, layered⟩ :=
    exists_layered context flag { bandit := state.bandit }
  refine ⟨decided, events, finish, layered, ?_⟩
  simp only [decide, known]
  rw [perform_of_runs layered.runs]
  exact ⟨_, rfl⟩

theorem decideForKeys_answered (flagKeys : List String) :
    let effective := engine.effectiveOptions options
    let context := engine.context state config user effective
    ∃ answers events finish,
      Answered context { bandit := state.bandit } flagKeys answers events finish ∧
      ∃ saveReasons, engine.decideForKeys state config user options flagKeys =
        { value := Dict.index (·.flagKey)
            ((answers.map (keyedDecision config user effective saveReasons)).filter fun decision =>
              !effective.contains .enabledFlagsOnly || decision.enabled)
          events := events ++ context.saves finish
          state := leave context state finish } := by
  intro effective context
  obtain ⟨answers, events, finish, run, answered⟩ :=
    exists_answered context flagKeys { bandit := state.bandit }
  refine ⟨answers, events, finish, answered, ?_⟩
  simp only [decideForKeys]
  rw [perform_of_runs run]
  exact ⟨_, rfl⟩

end Engine
end FeatureFlags
