import FeatureFlags.Project.Config
import FeatureFlags.Proofs.Dict

/-!
The indexes of a configuration: what is found under an id or key has that id or key. Every
configuration that is made from a datafile is indexed like that.
-/

namespace FeatureFlags

theorem Variation.mem_of_mem_mergeInto {found variations : List Variation} {variation : Variation}
    (member : variation ∈ mergeInto found variations) :
    variation ∈ found ∨ variation ∈ variations := by
  induction variations generalizing found with
  | nil => exact .inl member
  | cons first rest ih =>
      rcases ih member with merged | later
      · simp only at merged
        split at merged
        · exact .inl merged
        · rcases List.mem_append.mp merged with earlier | here
          · exact .inl earlier
          · exact .inr (List.mem_singleton.mp here ▸ List.mem_cons_self)
      · exact .inr (List.mem_cons_of_mem _ later)

namespace Config

structure WellIndexed (config : Config) : Prop where
  experiment_id : ∀ {id : String} {experiment : Experiment},
    config.experimentsById[id]? = some experiment → experiment.id = id
  flag_key : ∀ {key : String} {flag : Flag},
    config.flagsByKey[key]? = some flag → flag.key = key

theorem wellIndexed_ofDatafile (datafile : Datafile) : (ofDatafile datafile).WellIndexed := by
  refine ⟨fun found => ?_, fun found => ?_⟩
  · rcases Dict.getElem?_indexFirstInto found with ⟨_, own⟩ | earlier
    · exact own
    · exact (Dict.getElem?_index earlier).2
  · exact (Dict.getElem?_index found).2

/-- An experiment that is known under some id is known under its own. -/
theorem WellIndexed.experimentsById_self {config : Config} (indexed : config.WellIndexed)
    {id : String} {experiment : Experiment}
    (known : config.experimentsById[id]? = some experiment) :
    config.experimentsById[experiment.id]? = some experiment := by
  rw [indexed.experiment_id known]
  exact known

/-- An experiment of the configuration. -/
def Knows (config : Config) (experiment : Experiment) : Prop :=
  ∃ key : String, config.experimentsById[key]? = some experiment ∨
    config.experimentsByKey[key]? = some experiment

theorem mem_of_knows_ofDatafile {datafile : Datafile} {experiment : Experiment}
    (known : (ofDatafile datafile).Knows experiment) :
    experiment ∈ experimentsOf datafile ++ datafile.rollouts.flatMap (·.rules) := by
  obtain ⟨key, byId | byKey⟩ := known
  · rcases Dict.getElem?_indexFirstInto byId with ⟨member, _⟩ | earlier
    · exact List.mem_append_right _ member
    · exact List.mem_append_left _ (Dict.getElem?_index earlier).1
  · exact List.mem_append_left _ (Dict.getElem?_index byKey).1

/-- Whichever experiments have this id, they have this variation. -/
def Keeps (config : Config) (experimentId variationId : String) : Prop :=
  ∀ experiment, config.Knows experiment → experiment.id = experimentId →
    (experiment.variationById? variationId).isSome

/-- The flag names the experiment, or the rollout that it names has the rule. -/
def RefersTo (config : Config) (flag : Flag) (rule : Experiment) : Prop :=
  (∃ id ∈ flag.experimentIds, config.experimentsById[id]? = some rule) ∨
    ∃ rollout, config.rolloutsById[flag.rolloutId]? = some rollout ∧ rule ∈ rollout.rules

/-- Just the rules that the flag refers to are tried. -/
theorem mem_rulesOf_iff {config : Config} {flag : Flag} {rule : Experiment} :
    rule ∈ rulesOf config.experimentsById config.rolloutsById flag ↔
      config.RefersTo flag rule := by
  rw [rulesOf, List.mem_append, List.mem_filterMap, RefersTo]
  refine or_congr_right ?_
  cases config.rolloutsById[flag.rolloutId]? <;> simp

/-- Some rule that the flag refers to has the variation. -/
def CanServe (config : Config) (flag : Flag) (variation : Variation) : Prop :=
  ∃ rule, config.RefersTo flag rule ∧ variation ∈ rule.variations

theorem canServe_of_mem_variationsOf {config : Config} {flag : Flag} {variation : Variation}
    (member : variation ∈ variationsOf config.experimentsById config.rolloutsById flag) :
    config.CanServe flag variation := by
  rcases Variation.mem_of_mem_mergeInto member with none | served
  · cases none
  · obtain ⟨rule, refers, own⟩ := List.mem_flatMap.mp served
    exact ⟨rule, mem_rulesOf_iff.mp refers, own⟩

/-- Under every key the variations of the flag with that key are listed. -/
theorem getElem?_flagVariations (datafile : Datafile) (key : String) :
    (ofDatafile datafile).flagVariations[key]? =
      (ofDatafile datafile).flagsByKey[key]?.map
        (variationsOf (ofDatafile datafile).experimentsById (ofDatafile datafile).rolloutsById) :=
  Dict.getElem?_ofPairs_map Flag.key (variationsOf (ofDatafile datafile).experimentsById
    (ofDatafile datafile).rolloutsById) datafile.flags key

/-- The variations of a known flag are listed under its key. -/
theorem flagVariations_of_known {datafile : Datafile} {key : String} {flag : Flag}
    (known : (ofDatafile datafile).flagsByKey[key]? = some flag) :
    (ofDatafile datafile).flagVariations[flag.key]? = some
      (variationsOf (ofDatafile datafile).experimentsById (ofDatafile datafile).rolloutsById
        flag) := by
  rw [(wellIndexed_ofDatafile datafile).flag_key known, getElem?_flagVariations, known]
  rfl

/-- A variation that a flag finds by its key is one that the flag can serve. -/
theorem canServe_of_flagVariationByKey? {datafile : Datafile} {key : String} {flag : Flag}
    (known : (ofDatafile datafile).flagsByKey[key]? = some flag) {variationKey : String}
    {variation : Variation}
    (found : (ofDatafile datafile).flagVariationByKey? flag.key variationKey = some variation) :
    (ofDatafile datafile).CanServe flag variation := by
  obtain ⟨variations, listed, named⟩ := Option.bind_eq_some_iff.mp found
  cases listed.symm.trans (flagVariations_of_known known)
  exact canServe_of_mem_variationsOf (List.mem_of_find?_eq_some named)

/-- A holdout is listed under a flag as often as it names it. -/
theorem getD_listHoldout (entries : Dict (List Holdout)) (holdout : Holdout) (flagId : String) :
    (listHoldout entries holdout).getD flagId [] =
      entries.getD flagId [] ++ List.replicate (holdout.includedFlags.count flagId) holdout := by
  rw [listHoldout]
  generalize holdout.includedFlags = flagIds
  induction flagIds generalizing entries with
  | nil => simp
  | cons first rest ih =>
      rw [List.foldl_cons, ih, Dict.getD_push]
      by_cases same : first = flagId
      · simp [same, List.replicate_succ]
      · simp [same]

theorem getD_foldl_listHoldout (entries : Dict (List Holdout)) (holdouts : List Holdout)
    (flagId : String) :
    (holdouts.foldl listHoldout entries).getD flagId [] =
      entries.getD flagId [] ++ holdouts.flatMap fun holdout =>
        List.replicate (holdout.includedFlags.count flagId) holdout := by
  induction holdouts generalizing entries with
  | nil => simp
  | cons first rest ih =>
      rw [List.foldl_cons, ih, getD_listHoldout, List.flatMap_cons, List.append_assoc]

/-- Global holdouts name no flag. -/
theorem flatMap_replicate_of_named (holdouts : List Holdout) (flagId : String) :
    ((holdouts.filter (!·.isGlobal)).flatMap fun holdout =>
        List.replicate (holdout.includedFlags.count flagId) holdout) =
      holdouts.flatMap fun holdout =>
        List.replicate (holdout.includedFlags.count flagId) holdout := by
  induction holdouts with
  | nil => rfl
  | cons first rest ih =>
      by_cases global : first.isGlobal = true
      · have unnamed : first.includedFlags = [] := List.isEmpty_iff.mp global
        simp [global, unnamed, ih]
      · simp [global, ih]

/-- The holdouts of a flag: first the global ones that do not exclude it, and then those that name
it, as often as they do, each time in the order of the datafile. -/
theorem holdoutsForFlag_ofDatafile (datafile : Datafile) (flagId : String) :
    (ofDatafile datafile).holdoutsForFlag flagId =
      datafile.holdouts.filter (fun holdout =>
        holdout.includedFlags = [] ∧ flagId ∉ holdout.excludedFlags) ++
      datafile.holdouts.flatMap fun holdout =>
        List.replicate (holdout.includedFlags.count flagId) holdout := by
  simp only [holdoutsForFlag, ofDatafile, List.filter_filter, getD_foldl_listHoldout,
    flatMap_replicate_of_named, Std.ExtTreeMap.getD_empty, List.nil_append]
  congr 1
  apply List.filter_congr
  intro holdout _
  rw [Holdout.isGlobal, Bool.eq_iff_iff]
  simp [and_comm]

/-- The holdouts of a flag are holdouts of the datafile. -/
theorem mem_of_mem_holdoutsForFlag {datafile : Datafile} {flagId : String} {holdout : Holdout}
    (member : holdout ∈ (ofDatafile datafile).holdoutsForFlag flagId) :
    holdout ∈ datafile.holdouts := by
  rw [holdoutsForFlag_ofDatafile] at member
  rcases List.mem_append.mp member with global | named
  · exact (List.mem_filter.mp global).1
  · obtain ⟨origin, listed, same⟩ := List.mem_flatMap.mp named
    rw [List.eq_of_mem_replicate same]
    exact listed

end Config
end FeatureFlags
