import FeatureFlags.Condition.AttributeTest

/-!
The entities of a project: experiments and their variations, groups, flags, rollouts, holdouts,
audiences and attributes, as a datafile lists them.
-/

namespace FeatureFlags

/-- An entry of an ordered allocation of traffic. It covers the bucket values below `endOfRange`
that no earlier entry covers; an empty entity id leaves them unallocated. -/
structure TrafficAllocation where
  entityId : String
  endOfRange : Nat
  deriving DecidableEq, Repr

inductive ExperimentStatus where
  | running
  | launched
  | paused
  | notStarted
  | archived
  | draft
  | concluded
  deriving DecidableEq, Repr

namespace ExperimentStatus

def name : ExperimentStatus → String
  | running => "Running"
  | launched => "Launched"
  | paused => "Paused"
  | notStarted => "NotStarted"
  | archived => "Archived"
  | draft => "Draft"
  | concluded => "Concluded"

/-- A status that is not known counts as not started. -/
def ofName : String → ExperimentStatus
  | "Running" => running
  | "Launched" => launched
  | "Paused" => paused
  | "Archived" => archived
  | "Draft" => draft
  | "Concluded" => concluded
  | _ => notStarted

end ExperimentStatus

structure VariableUsage where
  id : String
  value : String
  deriving DecidableEq, Repr

structure Variation where
  id : String
  key : String
  featureEnabled : Bool := false
  usages : List VariableUsage := []
  deriving DecidableEq, Repr

/-- The value of a variable: the first usage with its id. -/
def Variation.variableValue? (variation : Variation) (variableId : String) : Option String :=
  (variation.usages.find? (·.id = variableId)).map (·.value)

structure BanditSettings where
  /-- Ids of the attributes that the bandit receives. -/
  attributeIds : List String := []
  /-- The share of traffic, out of 10000, that the bandit decides. -/
  trafficAllocation : Nat
  deriving DecidableEq, Repr

/-- An experiment, a rule of a rollout, or the experiment of a holdout. -/
structure Experiment where
  id : String
  key : String
  status : ExperimentStatus
  layerId : String := ""
  /-- Set for members of a group. -/
  groupId : Option String := none
  audienceIds : List String := []
  audienceConditions : Option (Condition AudienceRef) := none
  variations : List Variation
  trafficAllocation : List TrafficAllocation
  /-- User ids with the key of the variation they always get. -/
  forcedVariations : Dict String := ∅
  bandit : Option BanditSettings := none

namespace Experiment

/-- Only running and launched experiments are served. -/
def isActive (experiment : Experiment) : Bool :=
  experiment.status = .running || experiment.status = .launched

theorem isActive_iff {experiment : Experiment} :
    experiment.isActive = true ↔ experiment.status = .running ∨ experiment.status = .launched := by
  simp only [isActive, Bool.or_eq_true, decide_eq_true_eq]

def isRunning (experiment : Experiment) : Bool := experiment.status = .running

theorem isRunning_iff {experiment : Experiment} :
    experiment.isRunning = true ↔ experiment.status = .running :=
  decide_eq_true_iff

/-- The first variation with this id. -/
def variationById? (experiment : Experiment) (id : String) : Option Variation :=
  experiment.variations.find? (·.id = id)

/-- The first variation with this key. -/
def variationByKey? (experiment : Experiment) (key : String) : Option Variation :=
  experiment.variations.find? (·.key = key)

end Experiment

/-- An experiment that comes before all other rules of the flags it applies to. -/
structure Holdout where
  experiment : Experiment
  includedFlags : List String := []
  excludedFlags : List String := []

/-- A holdout that includes no flag by name applies to all flags it does not exclude. -/
def Holdout.isGlobal (holdout : Holdout) : Bool := holdout.includedFlags.isEmpty

inductive GroupPolicy where
  /-- A user is in at most one experiment of the group. -/
  | random
  | overlapping
  deriving DecidableEq, Repr

namespace GroupPolicy

def name : GroupPolicy → String
  | random => "Random"
  | overlapping => "Overlapping"

def ofName? : String → Option GroupPolicy
  | "random" => some random
  | "overlapping" => some overlapping
  | _ => none

end GroupPolicy

structure Group where
  id : String
  policy : GroupPolicy
  trafficAllocation : List TrafficAllocation
  experiments : List Experiment := []

structure FlagVariable where
  id : String
  key : String
  type : String
  /-- `json` for JSON variables that are declared as strings. -/
  subType : Option String := none
  defaultValue : String
  deriving DecidableEq, Repr

structure Flag where
  id : String
  key : String
  rolloutId : String := ""
  experimentIds : List String := []
  declaredVariables : List FlagVariable := []
  deriving DecidableEq, Repr

/-- The delivery rules of a flag. The last one is for everyone else. -/
structure Rollout where
  id : String
  rules : List Experiment := []

structure Audience where
  id : String
  name : String := ""
  conditions : Condition AttributeTest

structure Attribute where
  id : String
  key : String
  deriving DecidableEq, Repr

structure Datafile where
  version : Option String := none
  revision : Option String := none
  projectId : Option String := none
  experiments : List Experiment := []
  groups : List Group := []
  flags : List Flag := []
  rollouts : List Rollout := []
  holdouts : List Holdout := []
  audiences : List Audience := []
  /-- They take precedence over plain audiences with the same id. -/
  typedAudiences : List Audience := []
  attributes : List Attribute := []
  sendFlagDecisions : Bool := false

end FeatureFlags
