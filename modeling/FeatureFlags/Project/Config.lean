import FeatureFlags.Project.Model

/-!
The indexes that decisions are resolved against. References are not checked here: a flag may name
experiments, and an experiment audiences, that do not exist. Where a datafile repeats an id or key,
the last entity wins, except that a rollout rule never displaces another experiment.
-/

namespace FeatureFlags

structure Config where
  revision : Option String := none
  sendFlagDecisions : Bool := false
  /-- Experiments, group members and rollout rules. -/
  experimentsById : Dict Experiment := ∅
  /-- Experiments and group members. -/
  experimentsByKey : Dict Experiment := ∅
  groupsById : Dict Group := ∅
  /-- In the order of the datafile. -/
  flags : List Flag := []
  flagsByKey : Dict Flag := ∅
  rolloutsById : Dict Rollout := ∅
  audiencesById : Dict Audience := ∅
  attributesById : Dict Attribute := ∅
  attributesByKey : Dict Attribute := ∅
  /-- The variations that the rules of a flag can serve, by the key of the flag. -/
  flagVariations : Dict (List Variation) := ∅
  globalHoldouts : List Holdout := []
  /-- The other holdouts, by the ids of the flags they include. -/
  includedHoldouts : Dict (List Holdout) := ∅

/-- An experiment as a member of a group. An experiment that names a group keeps it. -/
def Group.adopt (group : Group) (experiment : Experiment) : Experiment :=
  { experiment with groupId := some (experiment.groupId.getD group.id) }

def Group.withMembers (group : Group) : Group :=
  { group with experiments := group.experiments.map group.adopt }

/-- Add variations whose id is not there yet. -/
def Variation.mergeInto : List Variation → List Variation → List Variation :=
  List.foldl fun found variation =>
    if found.any (·.id = variation.id) then found else found ++ [variation]

namespace Config

/-- The experiments of a datafile: those on their own, then the members of each group. -/
def experimentsOf (datafile : Datafile) : List Experiment :=
  datafile.experiments ++ (datafile.groups.map Group.withMembers).flatMap (·.experiments)

/-- The experiments and rollout rules a flag refers to, in the order in which they are tried. -/
def rulesOf (experimentsById : Dict Experiment) (rolloutsById : Dict Rollout) (flag : Flag) :
    List Experiment :=
  flag.experimentIds.filterMap (experimentsById[·]?) ++
    (rolloutsById[flag.rolloutId]?).elim [] (·.rules)

/-- The variations a flag can serve, the first one of each id. -/
def variationsOf (experimentsById : Dict Experiment) (rolloutsById : Dict Rollout) (flag : Flag) :
    List Variation :=
  Variation.mergeInto []
    ((rulesOf experimentsById rolloutsById flag).flatMap (·.variations))

/-- List a holdout under every flag that it names, as often as it names it. -/
def listHoldout (entries : Dict (List Holdout)) (holdout : Holdout) : Dict (List Holdout) :=
  holdout.includedFlags.foldl (fun entries flagId => entries.push flagId holdout) entries

def ofDatafile (datafile : Datafile) : Config :=
  let experiments := experimentsOf datafile
  let experimentsById :=
    Dict.indexFirstInto (·.id) (Dict.index (·.id) experiments)
      (datafile.rollouts.flatMap (·.rules))
  let rolloutsById := Dict.index (·.id) datafile.rollouts
  { revision := datafile.revision
    sendFlagDecisions := datafile.sendFlagDecisions
    experimentsById
    experimentsByKey := Dict.index (·.key) experiments
    groupsById := Dict.index (·.id) (datafile.groups.map Group.withMembers)
    flags := datafile.flags
    flagsByKey := Dict.index (·.key) datafile.flags
    rolloutsById
    audiencesById := Dict.index (·.id) (datafile.audiences ++ datafile.typedAudiences)
    attributesById := Dict.index (·.id) datafile.attributes
    attributesByKey := Dict.index (·.key) datafile.attributes
    flagVariations := Dict.ofPairs (datafile.flags.map fun flag =>
      (flag.key, variationsOf experimentsById rolloutsById flag))
    globalHoldouts := datafile.holdouts.filter (·.isGlobal)
    includedHoldouts := (datafile.holdouts.filter (!·.isGlobal)).foldl listHoldout ∅ }

def flagVariationByKey? (config : Config) (flagKey variationKey : String) : Option Variation := do
  (← config.flagVariations[flagKey]?).find? (·.key = variationKey)

/-- The holdouts of a flag in the order in which they are tried: the global ones that do not
exclude it, then those that include it. -/
def holdoutsForFlag (config : Config) (flagId : String) : List Holdout :=
  config.globalHoldouts.filter (fun holdout => !holdout.excludedFlags.contains flagId) ++
    config.includedHoldouts.getD flagId []

end Config
end FeatureFlags
