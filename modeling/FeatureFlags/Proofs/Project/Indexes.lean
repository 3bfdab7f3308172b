import FeatureFlags.Proofs.Project.FlagVariations

/-!
The lookups of a configuration, told by the lists of the datafile that it is made from. Ids and keys
may be repeated there: the last entity counts, except that rollout rules are only found under ids
that no other experiment has, and then the first of them is.
-/

namespace FeatureFlags
namespace Config

/-- The members of groups, with the ids of their groups. -/
def membersOf (groups : List Group) : List Experiment :=
  groups.flatMap fun group => group.experiments.map group.adopt

/-- What each lookup finds. -/
structure Indexes (config : Config) (datafile : Datafile) : Prop where
  experiment_id : ∀ id : String, config.experimentsById[id]? =
    ((datafile.experiments ++ membersOf datafile.groups).findRev? (·.id = id)).or
      ((datafile.rollouts.flatMap (·.rules)).find? (·.id = id))
  experiment_key : config.experimentsByKey.HoldsLast (·.key)
    (datafile.experiments ++ membersOf datafile.groups)
  audience_id : ∀ id : String, config.audiencesById[id]? =
    (datafile.typedAudiences.findRev? (·.id = id)).or (datafile.audiences.findRev? (·.id = id))
  rollout_id : config.rolloutsById.HoldsLast (·.id) datafile.rollouts
  group_id : config.groupsById.HoldsLast (·.id) (datafile.groups.map Group.withMembers)
  flag_key : config.flagsByKey.HoldsLast (·.key) datafile.flags
  attribute_id : config.attributesById.HoldsLast (·.id) datafile.attributes
  attribute_key : config.attributesByKey.HoldsLast (·.key) datafile.attributes
  flags : config.flags = datafile.flags
  /-- Searched are the variations of the flag that is found under the key, the first of each id. -/
  flag_variation : ∀ (flagKey key : String) (variation : Variation),
    config.flagVariationByKey? flagKey key = some variation ↔
      ∃ flag, config.flagsByKey[flagKey]? = some flag ∧
        variation.LeadsKey (config.listedVariations flag) ∧ variation.key = key

/-- Whatever a lookup finds has the id or key that it is found under. -/
structure CarriesKeys (config : Config) : Prop where
  experiment_id : config.experimentsById.Carries (·.id)
  experiment_key : config.experimentsByKey.Carries (·.key)
  audience_id : config.audiencesById.Carries (·.id)
  rollout_id : config.rolloutsById.Carries (·.id)
  group_id : config.groupsById.Carries (·.id)
  flag_key : config.flagsByKey.Carries (·.key)
  attribute_id : config.attributesById.Carries (·.id)
  attribute_key : config.attributesByKey.Carries (·.key)
  flag_variation : ∀ {flagKey key : String} {variation : Variation},
    config.flagVariationByKey? flagKey key = some variation → variation.key = key

variable (datafile : Datafile)

theorem experimentsOf_eq :
    experimentsOf datafile = datafile.experiments ++ membersOf datafile.groups := by
  rw [experimentsOf, List.flatMap_map]
  rfl

/-- A rollout rule comes in where no other experiment has the id. -/
theorem getElem?_experimentsById (id : String) :
    (ofDatafile datafile).experimentsById[id]? =
      ((experimentsOf datafile).findRev? (·.id = id)).or
        ((datafile.rollouts.flatMap (·.rules)).find? (·.id = id)) := by
  rw [ofDatafile, Dict.getElem?_indexFirstInto_eq, Dict.getElem?_index_eq]

theorem flagVariationByKey?_eq_some_iff {flagKey key : String} {variation : Variation} :
    (ofDatafile datafile).flagVariationByKey? flagKey key = some variation ↔
      ∃ flag, (ofDatafile datafile).flagsByKey[flagKey]? = some flag ∧
        variation.LeadsKey ((ofDatafile datafile).listedVariations flag) ∧
        variation.key = key := by
  rw [flagVariationByKey?, getElem?_flagVariations]
  cases known : (ofDatafile datafile).flagsByKey[flagKey]? with
  | none => simp
  | some flag =>
      simp only [Option.map_some, Option.bind_eq_bind, Option.bind_some, variationsOf_eq,
        Variation.find?_mergeInto_iff, Option.some.injEq, exists_eq_left']

theorem indexes_ofDatafile : (ofDatafile datafile).Indexes datafile where
  experiment_id id := by rw [getElem?_experimentsById, experimentsOf_eq]
  experiment_key := experimentsOf_eq datafile ▸ Dict.holdsLast_index _ _
  audience_id id := (Dict.getElem?_index_eq _ _ _).trans (Dict.findRev?_append _ _)
  rollout_id := Dict.holdsLast_index _ _
  group_id := Dict.holdsLast_index _ _
  flag_key := Dict.holdsLast_index _ _
  attribute_id := Dict.holdsLast_index _ _
  attribute_key := Dict.holdsLast_index _ _
  flags := rfl
  flag_variation _ _ _ := flagVariationByKey?_eq_some_iff datafile

theorem carriesKeys_ofDatafile : (ofDatafile datafile).CarriesKeys where
  experiment_id := (wellIndexed_ofDatafile datafile).experiment_id
  experiment_key := (indexes_ofDatafile datafile).experiment_key.carries
  audience_id := (Dict.holdsLast_index _ _).carries
  rollout_id := (indexes_ofDatafile datafile).rollout_id.carries
  group_id := (indexes_ofDatafile datafile).group_id.carries
  flag_key := (indexes_ofDatafile datafile).flag_key.carries
  attribute_id := (indexes_ofDatafile datafile).attribute_id.carries
  attribute_key := (indexes_ofDatafile datafile).attribute_key.carries
  flag_variation found := by
    obtain ⟨_, _, _, own⟩ := (flagVariationByKey?_eq_some_iff datafile).mp found
    exact own

/-- Every lookup finds the entity that takes precedence in the datafile, and it has the id or key
that is looked up. -/
theorem lookups_follow_datafile :
    (ofDatafile datafile).Indexes datafile ∧ (ofDatafile datafile).CarriesKeys :=
  ⟨indexes_ofDatafile datafile, carriesKeys_ofDatafile datafile⟩

end Config
end FeatureFlags
