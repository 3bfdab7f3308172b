import FeatureFlags.Decision.Flag
import FeatureFlags.Decision.FlagDecision

/-!
The decision engine. A call works on a configuration, a user and options, and on the state of the
engine: overrides, stored profiles, and bandits. It gives a value, and the state it leaves behind
together with the events on the way. The profile of the user is saved once, at the end of a call.
-/

namespace FeatureFlags

structure Engine (σ : Type) where
  sharder : Sharder := Sharder.murmur3
  bandit : Option (Bandit.Service σ) := none
  /-- Options that every call has on top of its own. -/
  defaults : DecideOptions := ∅

structure EngineState (σ : Type) where
  overrides : OverrideTable := {}
  profiles : Option ProfileStore := none
  bandit : σ

structure Performed (σ α : Type) where
  value : α
  events : List Event := []
  state : EngineState σ

inductive LookupError where
  | unknownExperiment (key : String)
  | unknownFlag (key : String)
  deriving DecidableEq, Repr

def LookupError.message : LookupError → String
  | unknownExperiment key => s!"experiment not found: {key}"
  | unknownFlag key => s!"flag not found: {key}"

namespace Performed
variable {σ α β : Type}

def map (f : α → β) (performed : Performed σ α) : Performed σ β :=
  { performed with value := f performed.value }

end Performed

/-- A resolved value, the reasons for it, and those that saving the profile gave. -/
structure Resolved (α : Type) where
  value : α
  reasons : List Reason
  saveReasons : List Reason

def Resolved.allReasons {α : Type} (resolved : Resolved α) : List Reason :=
  resolved.reasons ++ resolved.saveReasons

namespace Context
variable {σ : Type}

/-- Decide a flag by its key. Its reasons are kept with the outcome. -/
def resolveKey (context : Context σ) (flagKey : String) :
    Resolution σ (String × Option (Flag × FlagOutcome × List Reason)) := do
  match context.config.flagsByKey[flagKey]? with
  | none => return (flagKey, none)
  | some flag =>
    let (decided, reasons) ← Resolution.explained (context.resolveFlag flag)
    return (flagKey, some (flag, decided, reasons))

def resolveKeys (context : Context σ) :
    List String → Resolution σ (List (String × Option (Flag × FlagOutcome × List Reason)))
  | [] => return []
  | flagKey :: flagKeys => do
    let first ← context.resolveKey flagKey
    return first :: (← resolveKeys context flagKeys)

end Context

namespace Engine
variable {σ α : Type}

def effectiveOptions (engine : Engine σ) (options : DecideOptions) : DecideOptions :=
  engine.defaults.union options

def context (engine : Engine σ) (state : EngineState σ) (config : Config) (user : User)
    (options : DecideOptions) : Context σ :=
  { sharder := engine.sharder
    bandit := engine.bandit
    overrides := state.overrides
    profiles := if options.contains .ignoreProfiles then none else state.profiles
    config
    user
    options }

def saveProfile (context : Context σ) (tracker : Tracker) (profiles : Option ProfileStore) :
    Traced (Option ProfileStore) :=
  match context.profiles with
  | none => return profiles
  | some store => some <$> tracker.finish store context.user.id

/-- Carry out a resolution, and save the profile of the user. -/
def perform (state : EngineState σ) (context : Context σ) (resolution : Resolution σ α) :
    Performed σ (Resolved α) :=
  let resolved := resolution { bandit := state.bandit }
  let (value, progress) := resolved.value
  let saved := saveProfile context progress.tracker state.profiles
  { value := { value, reasons := resolved.reasons, saveReasons := saved.reasons }
    events := resolved.events ++ saved.events
    state := { state with profiles := saved.value, bandit := progress.bandit } }

def getVariation (engine : Engine σ) (state : EngineState σ) (config : Config) (user : User)
    (options : DecideOptions) (experimentKey : String) :
    Performed σ (Except LookupError VariationDecision) :=
  match config.experimentsByKey[experimentKey]? with
  | none => { value := .error (.unknownExperiment experimentKey), state }
  | some experiment =>
    let context := engine.context state config user (engine.effectiveOptions options)
    (perform state context (context.resolveExperiment experiment)).map fun resolved =>
      .ok { outcome := resolved.value, reasons := resolved.allReasons }

def getVariationForFeature (engine : Engine σ) (state : EngineState σ) (config : Config)
    (user : User) (options : DecideOptions) (flagKey : String) :
    Performed σ (Except LookupError FeatureDecision) :=
  match config.flagsByKey[flagKey]? with
  | none => { value := .error (.unknownFlag flagKey), state }
  | some flag =>
    let context := engine.context state config user (engine.effectiveOptions options)
    (perform state context (context.resolveFlag flag)).map fun resolved =>
      .ok { decided := resolved.value, reasons := resolved.allReasons }

/-- Decide a flag. An unknown flag gives a decision with an error. -/
def decide (engine : Engine σ) (state : EngineState σ) (config : Config) (user : User)
    (options : DecideOptions) (flagKey : String) : Performed σ FlagDecision :=
  match config.flagsByKey[flagKey]? with
  | none => { value := .unknownFlag flagKey user, state }
  | some flag =>
    let options := engine.effectiveOptions options
    let context := engine.context state config user options
    (perform state context (context.resolveFlag flag)).map fun resolved =>
      .ofOutcome flag resolved.value resolved.allReasons user config options

/-- The decision on one of several flags. The reasons from saving the profile count for each. -/
def keyedDecision (config : Config) (user : User) (options : DecideOptions)
    (saveReasons : List Reason) :
    String × Option (Flag × FlagOutcome × List Reason) → FlagDecision
  | (flagKey, none) => .unknownFlag flagKey user
  | (_, some (flag, decided, reasons)) =>
    .ofOutcome flag decided (reasons ++ saveReasons) user config options

/-- Decide several flags with one lookup and at most one save of the profile. The decisions are
listed by flag key. -/
def decideForKeys (engine : Engine σ) (state : EngineState σ) (config : Config) (user : User)
    (options : DecideOptions) (flagKeys : List String) : Performed σ (Dict FlagDecision) :=
  let options := engine.effectiveOptions options
  let context := engine.context state config user options
  (perform state context (context.resolveKeys flagKeys)).map fun resolved =>
    let decisions := resolved.value.map (keyedDecision config user options resolved.saveReasons)
    let listed := decisions.filter fun decision =>
      !options.contains .enabledFlagsOnly || decision.enabled
    Dict.index (·.flagKey) listed

def decideAll (engine : Engine σ) (state : EngineState σ) (config : Config) (user : User)
    (options : DecideOptions) : Performed σ (Dict FlagDecision) :=
  engine.decideForKeys state config user options (config.flags.map (·.key))

end Engine

namespace EngineState
variable {σ : Type}

/-- Override the variation of a user in an experiment, or drop the override. Refused for an unknown
experiment. -/
def setForcedVariation (state : EngineState σ) (config : Config) (experimentKey userId : String)
    (variationKey : Option String) : Bool × EngineState σ :=
  match config.experimentsByKey[experimentKey]? with
  | none => (false, state)
  | some experiment =>
    let (accepted, overrides) := state.overrides.set experiment userId variationKey
    (accepted, { state with overrides })

def getForcedVariation (state : EngineState σ) (config : Config) (experimentKey userId : String) :
    Option Variation := do
  let experiment ← config.experimentsByKey[experimentKey]?
  (state.overrides.get experiment userId).value

end EngineState
end FeatureFlags
