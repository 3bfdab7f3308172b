import FeatureFlags.Proofs.Decision.ForcedScopes
import FeatureFlags.Proofs.Engine.WellFormed
import FeatureFlags.Proofs.Project.Indexes

/-!
The variations that a flag reaches through its rules. They are merged by their ids and looked up by
their keys; if variations with one id also have one key, nothing is lost between the two: what is
found is the first variation of the key in all the rules, and whatever a rule can serve can be
forced.
-/

namespace FeatureFlags

namespace Variation

/-- Variations with the same id have the same key. -/
def KeysFollowIds (listed : List Variation) : Prop :=
  ∀ variation ∈ listed, ∀ other ∈ listed, variation.id = other.id → variation.key = other.key

variable {variation other : Variation} {listed : List Variation}

/-- Whatever is listed, some variation is the first one of its id. -/
theorem exists_firstOfId (member : variation ∈ listed) :
    ∃ first : Variation, first.FirstOfId listed ∧ first.id = variation.id := by
  have present : (listed.find? (·.id = variation.id)).isSome :=
    List.find?_isSome.mpr ⟨variation, member, decide_eq_true rfl⟩
  obtain ⟨first, found⟩ := Option.isSome_iff_exists.mp present
  obtain ⟨same, before, after, split, others⟩ := List.find?_eq_some_iff_append.mp found
  have own : first.id = variation.id := of_decide_eq_true same
  exact ⟨first, ⟨before, after, split, fun other earlier => by
    simpa [own] using others other earlier⟩, own⟩

/-- A variation that leads its key is behind no other one of the key: the first one with the id of
such another one would have the key as well. -/
theorem LeadsKey.unshadowed (leads : variation.LeadsKey listed)
    (consistent : KeysFollowIds listed) : variation.Unshadowed listed := by
  obtain ⟨before, after, rfl, firsts, ahead⟩ := leads
  refine ⟨before, after, rfl, fun other earlier => ⟨firsts other earlier, fun same => ?_⟩⟩
  obtain ⟨first, isFirst, sameId⟩ := exists_firstOfId earlier
  have sameKey : first.key = other.key := consistent first (List.mem_append_left _ isFirst.mem)
    other (List.mem_append_left _ earlier) sameId
  exact ahead first isFirst (sameKey.trans same)

/-- A variation that is the first one of its key is also the first one of its id. -/
theorem unshadowed_iff_find? (consistent : KeysFollowIds listed) :
    variation.Unshadowed listed ↔ listed.find? (·.key = variation.key) = some variation := by
  rw [List.find?_eq_some_iff_append]
  constructor
  · rintro ⟨before, after, split, apart⟩
    exact ⟨decide_eq_true rfl, before, after, split, fun other earlier => by
      simpa using (apart other earlier).2⟩
  · rintro ⟨_, before, after, rfl, others⟩
    refine ⟨before, after, rfl, fun other earlier => ?_⟩
    have differs : other.key ≠ variation.key := by simpa using others other earlier
    have sameKey := consistent other (List.mem_append_left _ earlier) variation
      (List.mem_append_right _ List.mem_cons_self)
    exact ⟨fun sameId => differs (sameKey sameId), differs⟩

/-- Merging by ids does not change what is found by a key. -/
theorem find?_mergeInto (consistent : KeysFollowIds listed) (key : String) :
    (mergeInto [] listed).find? (·.key = key) = listed.find? (·.key = key) := by
  apply Option.ext
  intro variation
  rw [find?_mergeInto_iff]
  constructor
  · rintro ⟨leads, rfl⟩
    exact (unshadowed_iff_find? consistent).mp (leads.unshadowed consistent)
  · intro found
    have own : variation.key = key := by simpa using List.find?_some found
    subst own
    exact ⟨((unshadowed_iff_find? consistent).mpr found).leadsKey, rfl⟩

end Variation

namespace Config
variable {config : Config} {flag : Flag} {variation : Variation}

/-- Whatever variations the rules of the flag have, those with the same id have the same key. -/
def KeysFollowIds (config : Config) (flag : Flag) : Prop :=
  Variation.KeysFollowIds (config.listedVariations flag)

theorem mem_listedVariations_iff :
    variation ∈ config.listedVariations flag ↔ config.CanServe flag variation := by
  simp only [listedVariations_eq, List.mem_flatMap, mem_rulesOf_iff, CanServe]

theorem isSome_find?_listedVariations {key : String} :
    ((config.listedVariations flag).find? (·.key = key)).isSome = true ↔
      ∃ variation, config.CanServe flag variation ∧ variation.key = key := by
  simp only [List.find?_isSome, mem_listedVariations_iff, decide_eq_true_eq]

section Consistent
variable {datafile : Datafile} {flagKey : String}
  (consistent : ∀ flag, (ofDatafile datafile).flagsByKey[flagKey]? = some flag →
    (ofDatafile datafile).KeysFollowIds flag)
include consistent

/-- By a key the first variation with that key is found, of the flag that has the flag key. -/
theorem flagVariationByKey?_eq_bind (key : String) :
    (ofDatafile datafile).flagVariationByKey? flagKey key =
      (ofDatafile datafile).flagsByKey[flagKey]?.bind fun flag =>
        ((ofDatafile datafile).listedVariations flag).find? (·.key = key) := by
  rw [flagVariationByKey?, getElem?_flagVariations]
  cases known : (ofDatafile datafile).flagsByKey[flagKey]? with
  | none => rfl
  | some flag =>
      simp only [Option.map_some, Option.bind_eq_bind, Option.bind_some, variationsOf_eq]
      exact Variation.find?_mergeInto (consistent flag known) key

theorem isSome_flagVariationByKey? (key : String) :
    ((ofDatafile datafile).flagVariationByKey? flagKey key).isSome = true ↔
      ∃ flag variation, (ofDatafile datafile).flagsByKey[flagKey]? = some flag ∧
        (ofDatafile datafile).CanServe flag variation ∧ variation.key = key := by
  rw [flagVariationByKey?_eq_bind consistent]
  cases (ofDatafile datafile).flagsByKey[flagKey]? with
  | none => simp
  | some flag =>
      rw [Option.bind_some, isSome_find?_listedVariations]
      simp

end Consistent

end Config

namespace User

/-- What a forced decision comes to is what its key is looked up as. -/
theorem forcedVariation?_force_self (user : User) (config : Config) (scope : DecisionScope)
    (variationKey : String) :
    (user.force scope variationKey).forcedVariation? config scope =
      config.flagVariationByKey? scope.flagKey variationKey := by
  rw [forcedVariation?, forced?_force_self]
  rfl

end User

namespace Engine
open Context
variable {σ : Type}

/-- A variation that is forced for a whole flag is served in front of everything else. -/
theorem shows_of_force (engine : Engine σ) (state : EngineState σ) {config : Config} (user : User)
    (options : DecideOptions) {flagKey variationKey : String} {flag : Flag} {variation : Variation}
    (indexed : config.WellIndexed) (known : config.flagsByKey[flagKey]? = some flag)
    (found : config.flagVariationByKey? flagKey variationKey = some variation) :
    (engine.decide state config (user.force { flagKey } variationKey) options flagKey).value.Shows
      { outcome := .served variation .forced } := by
  let context := engine.context state config (user.force { flagKey } variationKey)
    (engine.effectiveOptions options)
  obtain ⟨decided, events, finish, layered, reasons, call⟩ :=
    engine.decide_layered state config (user.force { flagKey } variationKey) options known
  have own : flag.key = flagKey := indexed.flag_key known
  have byUser : context.forcedOnFlag? flag = some variation := by
    subst own
    exact (user.forcedVariation?_force_self config { flagKey := flag.key } variationKey).trans found
  have forced : Layered context flag { bandit := state.bandit }
      { outcome := .served variation .forced } [] { bandit := state.bandit } := .forced byUser
  obtain ⟨rfl, -, -⟩ := layered.runs.unique forced.runs
  rw [call]
  exact ⟨rfl, rfl, rfl, rfl, rfl, rfl⟩

/-- If variations of a flag with the same id have the same key, then just the keys of the variations
of its rules are found, and each as the first one with that key, in the order of the rules. So
whatever a rule can serve can be forced by its key, for the flag or for a rule; and if the flag has
no other variation with the key, that very variation is served. -/
theorem reachable_variations_can_be_forced (datafile : Datafile) (flagKey : String) :
    let config := Config.ofDatafile datafile
    (∀ flag, config.flagsByKey[flagKey]? = some flag → config.KeysFollowIds flag) →
    (∀ key, config.flagVariationByKey? flagKey key =
      config.flagsByKey[flagKey]?.bind fun flag =>
        (config.listedVariations flag).find? (·.key = key)) ∧
    (∀ key, (config.flagVariationByKey? flagKey key).isSome = true ↔
      ∃ flag variation, config.flagsByKey[flagKey]? = some flag ∧
        config.CanServe flag variation ∧ variation.key = key) ∧
    ∀ flag variation, config.flagsByKey[flagKey]? = some flag → config.CanServe flag variation →
      ∃ first, first.key = variation.key ∧
        (config.listedVariations flag).find? (·.key = variation.key) = some first ∧
        ((∀ other, config.CanServe flag other → other.key = variation.key → other = variation) →
          first = variation) ∧
        (∀ (user : User) (ruleKey : Option String), (User.forcedVariation
            (user.force { flagKey, ruleKey } variation.key) config { flagKey, ruleKey }).value =
          some first) ∧
        ∀ (engine : Engine σ) (state : EngineState σ) (user : User) (options : DecideOptions),
          (engine.decide state config (user.force { flagKey } variation.key) options
            flagKey).value.Shows { outcome := .served first .forced } := by
  intro config consistent
  have lookup := Config.flagVariationByKey?_eq_bind consistent
  refine ⟨lookup, Config.isSome_flagVariationByKey? consistent, ?_⟩
  intro flag variation known served
  have present := Config.isSome_find?_listedVariations.mpr ⟨variation, served, rfl⟩
  obtain ⟨first, leading⟩ := Option.isSome_iff_exists.mp present
  have sameKey : first.key = variation.key := by simpa using List.find?_some leading
  have found : config.flagVariationByKey? flagKey variation.key = some first := by
    rw [lookup, known]
    exact leading
  refine ⟨first, sameKey, leading, fun alone => ?_, fun user ruleKey => ?_,
    fun engine state user options => ?_⟩
  · have listed := List.mem_of_find?_eq_some leading
    exact alone first (Config.mem_listedVariations_iff.mp listed) sameKey
  · rw [User.value_forcedVariation, User.forcedVariation?_force_self]
    exact found
  · exact engine.shows_of_force state user options (Config.wellIndexed_ofDatafile datafile)
      known found

namespace Sample

def late : Variation := { id := "3", key := "late", featureEnabled := true }

/-- Its first experiment does not exist. -/
def sharing : Flag :=
  { id := "30", key := "banner", rolloutId := "40", experimentIds := ["gone", "20"] }

/-- The experiment and the rollout rule of the flag have a variation in common. -/
def sharingDatafile : Datafile :=
  { experiments := [everyone]
    rollouts := [{ id := "40", rules := [{ everyone with id := "21", variations := [on, late] }] }]
    flags := [sharing] }

end Sample

/-- The variation behind the one in common can be forced. -/
theorem late_variation_can_be_forced :
    let config := Config.ofDatafile Sample.sharingDatafile
    config.flagVariationByKey? "banner" "late" = some Sample.late ∧
      config.flagVariationByKey? "banner" "off" = none ∧
      (Sample.first.decide Sample.empty config
        (({ id := "user" } : User).force { flagKey := "banner" } "late") ∅ "banner").value.Shows
          { outcome := .served Sample.late .forced } := by
  intro config
  have known : config.flagsByKey["banner"]? = some Sample.sharing := rfl
  have listed : config.listedVariations Sample.sharing = [Sample.on, Sample.on, Sample.late] := rfl
  have consistent (flag : Flag) (found : config.flagsByKey["banner"]? = some flag) :
      config.KeysFollowIds flag := by
    cases known.symm.trans found
    rw [Config.KeysFollowIds, listed, Variation.KeysFollowIds]
    decide
  obtain ⟨lookup, _, forced⟩ :=
    @reachable_variations_can_be_forced Unit Sample.sharingDatafile "banner" consistent
  have served : config.CanServe Sample.sharing Sample.late := by
    rw [← Config.mem_listedVariations_iff, listed]
    decide
  obtain ⟨first, _, leading, _, _, shows⟩ := forced _ _ known served
  rw [listed] at leading
  obtain rfl : Sample.late = first := Option.some.inj leading
  exact ⟨lookup "late", lookup "off", shows Sample.first Sample.empty { id := "user" } ∅⟩

end Engine
end FeatureFlags
