import FeatureFlags.Engine

/-!
Sessions: an engine at work. The configuration may be replaced at any time, and calls come in any
order, for any users and with any options.
-/

namespace FeatureFlags

/-- What a session is asked to do. -/
inductive Call where
  | replaceConfig (config : Config)
  | setForcedVariation (experimentKey userId : String) (variationKey : Option String)
  | getVariation (user : User) (options : DecideOptions) (experimentKey : String)
  | getVariationForFeature (user : User) (options : DecideOptions) (flagKey : String)
  | decide (user : User) (options : DecideOptions) (flagKey : String)
  | decideForKeys (user : User) (options : DecideOptions) (flagKeys : List String)
  | decideAll (user : User) (options : DecideOptions)

/-- The configuration that a call brings in. -/
def Call.config? : Call → Option Config
  | replaceConfig config => some config
  | _ => none

structure Session (σ : Type) where
  config : Config
  state : EngineState σ

namespace Session
variable {σ : Type}

def step (engine : Engine σ) (session : Session σ) : Call → Session σ
  | .replaceConfig config => { session with config }
  | .setForcedVariation experimentKey userId variationKey =>
    { session with
      state :=
        (session.state.setForcedVariation session.config experimentKey userId variationKey).2 }
  | .getVariation user options experimentKey =>
    { session with
      state := (engine.getVariation session.state session.config user options experimentKey).state }
  | .getVariationForFeature user options flagKey =>
    { session with
      state :=
        (engine.getVariationForFeature session.state session.config user options flagKey).state }
  | .decide user options flagKey =>
    { session with
      state := (engine.decide session.state session.config user options flagKey).state }
  | .decideForKeys user options flagKeys =>
    { session with
      state := (engine.decideForKeys session.state session.config user options flagKeys).state }
  | .decideAll user options =>
    { session with state := (engine.decideAll session.state session.config user options).state }

def run (engine : Engine σ) (session : Session σ) (calls : List Call) : Session σ :=
  calls.foldl (step engine) session

/-- The configurations that are in force in the course of some calls. -/
def configs (session : Session σ) (calls : List Call) : List Config :=
  session.config :: calls.filterMap (·.config?)

theorem step_config (engine : Engine σ) (session : Session σ) (call : Call) :
    (session.step engine call).config = call.config?.getD session.config := by
  cases call <;> rfl

theorem configs_cons (engine : Engine σ) (session : Session σ) (call : Call)
    (calls : List Call) {config : Config} (inForce : config ∈ (session.step engine call).configs calls) :
    config ∈ session.configs (call :: calls) := by
  simp only [configs, step_config, List.filterMap_cons, List.mem_cons] at inForce ⊢
  cases brought : call.config? <;> simp_all

end Session
end FeatureFlags
