import FeatureFlags.Json.Decoder
import FeatureFlags.Project.Model

/-!
Reading a datafile. Every entity is a record; fields with a default may be left out, and any
condition tree that cannot be read spoils the whole datafile.
-/

namespace FeatureFlags

open Json

def Condition.decoder {α : Type} (leaf : Json → Except ConditionError α) :
    Decoder (Condition α) := fun room document => do
  (Condition.ofJson leaf (← Decoder.json room document)).toOption

def TrafficAllocation.decoder : Decoder TrafficAllocation :=
  .record ["entityId", "endOfRange"] fun record => do
    return {
      entityId := ← record.field "entityId" .text
      endOfRange := ← record.field "endOfRange" .word }

def VariableUsage.decoder : Decoder VariableUsage :=
  .record ["id", "value"] fun record => do
    return { id := ← record.field "id" .text, value := ← record.field "value" .text }

def Variation.decoder : Decoder Variation :=
  .record ["id", "key", "featureEnabled", "variables"] fun record => do
    return {
      id := ← record.field "id" .text
      key := ← record.field "key" .text
      featureEnabled := ← record.fieldOr "featureEnabled" .bool false
      usages := ← record.fieldOr "variables" (.list VariableUsage.decoder) [] }

def BanditSettings.decoder : Decoder BanditSettings :=
  .record ["attributeIds", "trafficAllocation"] fun record => do
    return {
      attributeIds := ← record.fieldOr "attributeIds" (.list .text) []
      trafficAllocation := ← record.field "trafficAllocation" .word }

namespace Experiment

def fieldNames : List String :=
  ["id", "key", "status", "layerId", "groupId", "audienceIds", "audienceConditions", "variations",
    "trafficAllocation", "forcedVariations", "cmab"]

def ofRecord (record : Record) : Option Experiment := do
  return {
    id := ← record.field "id" .text
    key := ← record.field "key" .text
    status := .ofName (← record.field "status" .text)
    layerId := ← record.fieldOr "layerId" .text ""
    groupId := ← record.fieldOr "groupId" (.optional .text) none
    audienceIds := ← record.fieldOr "audienceIds" (.list .text) []
    audienceConditions := ←
      record.fieldOr "audienceConditions" (.optional (Condition.decoder AudienceRef.ofJson)) none
    variations := ← record.field "variations" (.list Variation.decoder)
    trafficAllocation := ← record.field "trafficAllocation" (.list TrafficAllocation.decoder)
    forcedVariations := ← record.fieldOr "forcedVariations" (.dict .text) ∅
    bandit := ← record.fieldOr "cmab" (.optional BanditSettings.decoder) none }

def decoder : Decoder Experiment := .record fieldNames ofRecord

end Experiment

/-- A holdout is an object that holds the fields of its experiment next to its own. All of them,
known or not, have to be readable. -/
def Holdout.decoder : Decoder Holdout
  | room + 1, .object members => do
    let own := ["includedFlags", "excludedFlags"]
    let record ← Record.ofMembers (own ++ Experiment.fieldNames) room members
    guard (members.all fun (key, value) =>
      key.any own.contains || (value.toJson? room).isSome)
    return {
      experiment := ← Experiment.ofRecord record
      includedFlags := ← record.fieldOr "includedFlags" (.list .text) []
      excludedFlags := ← record.fieldOr "excludedFlags" (.list .text) [] }
  | _, _ => none

def Group.decoder : Decoder Group :=
  .record ["id", "policy", "trafficAllocation", "experiments"] fun record => do
    return {
      id := ← record.field "id" .text
      policy := ← record.field "policy" (.name GroupPolicy.ofName?)
      trafficAllocation := ← record.field "trafficAllocation" (.list TrafficAllocation.decoder)
      experiments := ← record.fieldOr "experiments" (.list Experiment.decoder) [] }

def FlagVariable.decoder : Decoder FlagVariable :=
  .record ["id", "key", "type", "subType", "defaultValue"] fun record => do
    return {
      id := ← record.field "id" .text
      key := ← record.field "key" .text
      type := ← record.field "type" .text
      subType := ← record.fieldOr "subType" (.optional .text) none
      defaultValue := ← record.field "defaultValue" .text }

def Flag.decoder : Decoder Flag :=
  .record ["id", "key", "rolloutId", "experimentIds", "variables"] fun record => do
    return {
      id := ← record.field "id" .text
      key := ← record.field "key" .text
      rolloutId := ← record.fieldOr "rolloutId" .text ""
      experimentIds := ← record.fieldOr "experimentIds" (.list .text) []
      declaredVariables := ← record.fieldOr "variables" (.list FlagVariable.decoder) [] }

def Rollout.decoder : Decoder Rollout :=
  .record ["id", "experiments"] fun record => do
    return {
      id := ← record.field "id" .text
      rules := ← record.fieldOr "experiments" (.list Experiment.decoder) [] }

/-- The conditions of an audience: a tree, or a string that holds the text of one and may be nested
as deep as a text of its own. -/
def Audience.conditionsDecoder : Decoder (Condition AttributeTest) := fun room document => do
  let value ← match ← Decoder.json room document with
    | .string encoded => Json.read encoded
    | value => some value
  (Condition.ofJson AttributeTest.ofJson value).toOption

def Audience.decoder : Decoder Audience :=
  .record ["id", "name", "conditions"] fun record => do
    return {
      id := ← record.field "id" .text
      name := ← record.fieldOr "name" .text ""
      conditions := ← record.field "conditions" Audience.conditionsDecoder }

def Attribute.decoder : Decoder Attribute :=
  .record ["id", "key"] fun record => do
    return { id := ← record.field "id" .text, key := ← record.field "key" .text }

namespace Datafile

def decoder : Decoder Datafile :=
  .record ["version", "revision", "projectId", "experiments", "groups", "featureFlags", "rollouts",
      "holdouts", "audiences", "typedAudiences", "attributes", "sendFlagDecisions"]
    fun record => do
      return {
        version := ← record.fieldOr "version" (.optional .text) none
        revision := ← record.fieldOr "revision" (.optional .text) none
        projectId := ← record.fieldOr "projectId" (.optional .text) none
        experiments := ← record.fieldOr "experiments" (.list Experiment.decoder) []
        groups := ← record.fieldOr "groups" (.list Group.decoder) []
        flags := ← record.fieldOr "featureFlags" (.list Flag.decoder) []
        rollouts := ← record.fieldOr "rollouts" (.list Rollout.decoder) []
        holdouts := ← record.fieldOr "holdouts" (.list Holdout.decoder) []
        audiences := ← record.fieldOr "audiences" (.list Audience.decoder) []
        typedAudiences := ← record.fieldOr "typedAudiences" (.list Audience.decoder) []
        attributes := ← record.fieldOr "attributes" (.list Attribute.decoder) []
        sendFlagDecisions := ← record.fieldOr "sendFlagDecisions" .bool false }

def parse (text : String) : Option Datafile :=
  (Document.read text).bind (decoder maxDepth)

end Datafile
end FeatureFlags
