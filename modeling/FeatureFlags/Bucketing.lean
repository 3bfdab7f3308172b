import FeatureFlags.Hash.Murmur3
import FeatureFlags.Project.Config
import FeatureFlags.Traced

/-!
Hash partitioning. A sharder maps keys to bucket values below 10000, and an ordered allocation maps
bucket values to entities. Members of a random group are subject to one more hash, which lets at
most one of them through.
-/

namespace FeatureFlags

abbrev Sharder := String → Nat

def maxTraffic : Nat := 10000

namespace Sharder

def scale (hash : UInt32) : Nat := maxTraffic * hash.toNat / UInt32.size

def murmur3 : Sharder := fun key => scale (Murmur3.hash 1 key)

/-- Fixed bucket values for some keys, and perhaps one for all others. -/
def fixed (values : Dict Nat) (default : Option Nat) : Sharder := fun key =>
  (values[key]? <|> default).getD (murmur3 key)

end Sharder

namespace TrafficAllocation

/-- The first entry whose range ends above the bucket value. -/
def deciding? (bucketValue : Nat) (allocations : List TrafficAllocation) :
    Option TrafficAllocation :=
  allocations.find? (bucketValue < ·.endOfRange)

/-- The entity that a bucket value is allocated to, unless it is left out on purpose. -/
def allocate (bucketValue : Nat) (allocations : List TrafficAllocation) : Option String :=
  match deciding? bucketValue allocations with
  | some entry => if entry.entityId.isEmpty then none else some entry.entityId
  | none => none

end TrafficAllocation

namespace Bucketing

def bucketValue (sharder : Sharder) (bucketingId entityId : String) : Traced Nat := do
  let key := bucketingId ++ entityId
  Traced.emit (.hashed key)
  return sharder key

def subject (bucketingId : String) : String := s!"User with bucketingId \"{bucketingId}\""

/-- Whether a user of a random group falls on the experiment itself. -/
def admittedByRandomGroup (sharder : Sharder) (config : Config) (experiment : Experiment)
    (groupId : String) (group : Group) (bucketingId : String) : Traced Bool := do
  let value ← bucketValue sharder bucketingId group.id
  let chosen := (TrafficAllocation.allocate value group.trafficAllocation).bind
    (config.experimentsById[·]?)
  match chosen with
  | none =>
    Traced.info s!"{subject bucketingId} is not in any experiment of group {groupId}."
    return false
  | some chosen =>
    let place := s!"experiment \"{experiment.key}\" of group {groupId}."
    if chosen.id = experiment.id then
      Traced.info s!"{subject bucketingId} is in {place}"
      return true
    else
      Traced.info s!"{subject bucketingId} is not in {place}"
      return false

/-- Whether the group of an experiment lets the user through. An experiment without a group, or in
an overlapping one, is open to everyone. -/
def admittedByGroup (sharder : Sharder) (config : Config) (experiment : Experiment)
    (bucketingId : String) : Traced Bool :=
  match experiment.groupId.filter (!·.isEmpty) with
  | none => return true
  | some groupId =>
    match config.groupsById[groupId]? with
    | none => do
      Traced.error
        s!"Group \"{groupId}\" of experiment \"{experiment.key}\" is not in the datafile."
      return false
    | some group =>
      match group.policy with
      | .overlapping => return true
      | .random => admittedByRandomGroup sharder config experiment groupId group bucketingId

def allocatedVariation (experiment : Experiment) (value : Nat) : Traced (Option Variation) :=
  match TrafficAllocation.allocate value experiment.trafficAllocation with
  | none => return none
  | some id =>
    match experiment.variationById? id with
    | some variation => return some variation
    | none => do
      Traced.error
        s!"Variation \"{id}\" allocated in experiment \"{experiment.key}\" is not in the datafile."
      return none

/-- Hash a user into a variation of an experiment, whatever its group. -/
def bucketIntoVariation (sharder : Sharder) (experiment : Experiment) (bucketingId : String) :
    Traced (Option Variation) := do
  let value ← bucketValue sharder bucketingId experiment.id
  let variation ← allocatedVariation experiment value
  match variation with
  | some variation =>
    let place := s!"variation \"{variation.key}\" of experiment \"{experiment.key}\"."
    Traced.info s!"{subject bucketingId} is in {place}"
  | none =>
    let place := s!"any variation of experiment \"{experiment.key}\"."
    Traced.info s!"{subject bucketingId} is not in {place}"
  return variation

def bucket (sharder : Sharder) (config : Config) (experiment : Experiment)
    (bucketingId : String) : Traced (Option Variation) := do
  if ← admittedByGroup sharder config experiment bucketingId then
    bucketIntoVariation sharder experiment bucketingId
  else return none

def banditEntity : String := "$"

/-- Whether a user is in the share of traffic that a bandit decides: the entity of that share, or
nothing. -/
def bucketForBandit (sharder : Sharder) (config : Config) (experiment : Experiment) (share : Nat)
    (bucketingId : String) : Traced (Option String) := do
  if ← admittedByGroup sharder config experiment bucketingId then
    let value ← bucketValue sharder bucketingId experiment.id
    return TrafficAllocation.allocate value [{ entityId := banditEntity, endOfRange := share }]
  else return none

end Bucketing
end FeatureFlags
