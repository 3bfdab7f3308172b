import FeatureFlags.Proofs.Project.Config

/-!
The variation that a flag finds by a key. The variations of its rules are merged in the order of the
rules, each id just once, where it occurs first. So a variation may be hidden by one that comes
before it: by another one of its key, or by anything of its id.
-/

namespace FeatureFlags

namespace Variation

/-- The variation is listed, and it is the first one of its id. -/
def FirstOfId (variation : Variation) (listed : List Variation) : Prop :=
  ∃ before after, listed = before ++ variation :: after ∧
    ∀ other ∈ before, other.id ≠ variation.id

/-- Among those that are the first of their id, the variation is the first one of its key. -/
def LeadsKey (variation : Variation) (listed : List Variation) : Prop :=
  ∃ before after, listed = before ++ variation :: after ∧
    (∀ other ∈ before, other.id ≠ variation.id) ∧
    ∀ other : Variation, other.FirstOfId before → other.key ≠ variation.key

/-- The variation is listed, and none before it has its id or its key. -/
def Unshadowed (variation : Variation) (listed : List Variation) : Prop :=
  ∃ before after, listed = before ++ variation :: after ∧
    ∀ other ∈ before, other.id ≠ variation.id ∧ other.key ≠ variation.key

variable {variation other : Variation} {found listed before after : List Variation}

theorem FirstOfId.mem (first : variation.FirstOfId listed) : variation ∈ listed := by
  obtain ⟨before, after, rfl, -⟩ := first
  exact List.mem_append_right _ List.mem_cons_self

theorem Unshadowed.leadsKey (unshadowed : variation.Unshadowed listed) :
    variation.LeadsKey listed := by
  obtain ⟨before, after, split, apart⟩ := unshadowed
  exact ⟨before, after, split, fun other member => (apart other member).1,
    fun other first => (apart other first.mem).2⟩

theorem mergeInto_append (found before after : List Variation) :
    mergeInto found (before ++ after) = mergeInto (mergeInto found before) after :=
  List.foldl_append

theorem mergeInto_cons_of_new (new : ∀ other ∈ found, other.id ≠ variation.id)
    (rest : List Variation) :
    mergeInto found (variation :: rest) = mergeInto (found ++ [variation]) rest := by
  have unseen : ¬ found.any (·.id = variation.id) := by simpa using new
  rw [mergeInto, List.foldl_cons, if_neg unseen]

theorem mergeInto_cons_of_seen (member : other ∈ found) (seen : other.id = variation.id)
    (rest : List Variation) : mergeInto found (variation :: rest) = mergeInto found rest := by
  have any : found.any (·.id = variation.id) :=
    List.any_eq_true.mpr ⟨other, member, decide_eq_true seen⟩
  rw [mergeInto, List.foldl_cons, if_pos any]

/-- What was found stays in front. -/
theorem prefix_mergeInto (found listed : List Variation) : found <+: mergeInto found listed := by
  induction listed generalizing found with
  | nil => exact List.prefix_rfl
  | cons first rest ih =>
      by_cases seen : ∃ other ∈ found, other.id = first.id
      · obtain ⟨other, member, same⟩ := seen
        rw [mergeInto_cons_of_seen member same]
        exact ih found
      · rw [mergeInto_cons_of_new fun other member same => seen ⟨other, member, same⟩]
        exact (List.prefix_append _ _).trans (ih _)

/-- What is merged was found, or it is the first of its id. -/
theorem firstOfId_of_mem_mergeInto (member : variation ∈ mergeInto found listed) :
    variation ∈ found ∨ variation.FirstOfId listed ∧
      ∀ other ∈ found, other.id ≠ variation.id := by
  induction listed generalizing found with
  | nil => exact .inl member
  | cons first rest ih =>
      by_cases seen : ∃ other ∈ found, other.id = first.id
      · obtain ⟨other, earlier, same⟩ := seen
        rw [mergeInto_cons_of_seen earlier same] at member
        refine (ih member).imp_right fun ⟨⟨before, after, split, firsts⟩, new⟩ => ⟨?_, new⟩
        refine ⟨first :: before, after, congrArg (first :: ·) split, ?_⟩
        exact List.forall_mem_cons.mpr ⟨same ▸ new other earlier, firsts⟩
      · have unseen : ∀ other ∈ found, other.id ≠ first.id :=
          fun other earlier same => seen ⟨other, earlier, same⟩
        rw [mergeInto_cons_of_new unseen] at member
        rcases ih member with merged | ⟨⟨before, after, split, firsts⟩, new⟩
        · rcases List.mem_append.mp merged with earlier | here
          · exact .inl earlier
          · cases List.mem_singleton.mp here
            exact .inr ⟨⟨[], rest, rfl, nofun⟩, unseen⟩
        · obtain ⟨newer, apart⟩ := List.forall_mem_append.mp new
          refine .inr ⟨⟨first :: before, after, congrArg (first :: ·) split, ?_⟩, newer⟩
          exact List.forall_mem_cons.mpr ⟨apart first List.mem_cons_self, firsts⟩

theorem mergeInto_of_firstOfId (firsts : ∀ other ∈ before, other.id ≠ variation.id)
    (after : List Variation) :
    mergeInto [] before ++ [variation] <+: mergeInto [] (before ++ variation :: after) := by
  have new : ∀ other ∈ mergeInto [] before, other.id ≠ variation.id := fun other member =>
    firsts other ((mem_of_mem_mergeInto member).resolve_left nofun)
  rw [mergeInto_append, mergeInto_cons_of_new new]
  exact prefix_mergeInto _ _

theorem mem_mergeInto_iff : variation ∈ mergeInto [] listed ↔ variation.FirstOfId listed := by
  constructor
  · intro member
    exact ((firstOfId_of_mem_mergeInto member).resolve_left nofun).1
  · rintro ⟨before, after, rfl, firsts⟩
    exact (mergeInto_of_firstOfId firsts after).subset
      (List.mem_append_right _ List.mem_cons_self)

/-- By its key just the variation that leads the key is found. -/
theorem find?_mergeInto_iff {key : String} :
    (mergeInto [] listed).find? (·.key = key) = some variation ↔
      variation.LeadsKey listed ∧ variation.key = key := by
  constructor
  · intro named
    have own : variation.key = key := by simpa using List.find?_some named
    obtain ⟨before, after, rfl, firsts⟩ := mem_mergeInto_iff.mp (List.mem_of_find?_eq_some named)
    refine ⟨⟨before, after, rfl, firsts, fun other first same => ?_⟩, own⟩
    -- A rival among the earlier ones would have been found, and it is not the variation.
    have counted : other ∈ mergeInto [] before := mem_mergeInto_iff.mpr first
    have present : ((mergeInto [] before).find? (·.key = key)).isSome :=
      List.find?_isSome.mpr ⟨other, counted, decide_eq_true (same.trans own)⟩
    obtain ⟨rival, ahead⟩ := Option.isSome_iff_exists.mp present
    have front := (List.prefix_append _ _).trans (mergeInto_of_firstOfId firsts after)
    cases (front.find?_eq_some ahead).symm.trans named
    exact firsts variation (mem_mergeInto_iff.mp (List.mem_of_find?_eq_some ahead)).mem rfl
  · rintro ⟨⟨before, after, rfl, firsts, ahead⟩, rfl⟩
    refine (mergeInto_of_firstOfId firsts after).find?_eq_some ?_
    have absent : (mergeInto [] before).find? (·.key = variation.key) = none :=
      List.find?_eq_none.mpr fun other counted =>
        by simpa using ahead other (mem_mergeInto_iff.mp counted)
    rw [List.find?_append, absent, Option.none_or, List.find?_singleton,
      if_pos (decide_eq_true rfl)]

theorem LeadsKey.unique (leads : variation.LeadsKey listed) (leads' : other.LeadsKey listed)
    (same : variation.key = other.key) : variation = other :=
  Option.some.inj ((find?_mergeInto_iff.mpr ⟨leads, same⟩).symm.trans
    (find?_mergeInto_iff.mpr ⟨leads', rfl⟩))

end Variation

namespace Config

/-- The variations of a flag: those of the experiments that it names, as far as they are known, and
behind them those of the rules of its rollout. -/
def listedVariations (config : Config) (flag : Flag) : List Variation :=
  (flag.experimentIds.filterMap (config.experimentsById[·]?)).flatMap (·.variations) ++
    match config.rolloutsById[flag.rolloutId]? with
    | some rollout => rollout.rules.flatMap (·.variations)
    | none => []

/-- They are listed in the order in which the rules are tried. -/
theorem listedVariations_eq (config : Config) (flag : Flag) :
    config.listedVariations flag =
      (rulesOf config.experimentsById config.rolloutsById flag).flatMap (·.variations) := by
  rw [rulesOf, List.flatMap_append, listedVariations]
  cases config.rolloutsById[flag.rolloutId]? <;> rfl

/-- What is kept of them are the first ones of each id. -/
theorem variationsOf_eq (config : Config) (flag : Flag) :
    variationsOf config.experimentsById config.rolloutsById flag =
      Variation.mergeInto [] (config.listedVariations flag) := by
  rw [variationsOf, listedVariations_eq]

theorem flagVariationByKey?_iff {datafile : Datafile} {flagKey : String} {flag : Flag}
    (known : (ofDatafile datafile).flagsByKey[flagKey]? = some flag) {key : String}
    {variation : Variation} :
    (ofDatafile datafile).flagVariationByKey? flag.key key = some variation ↔
      variation.LeadsKey ((ofDatafile datafile).listedVariations flag) ∧ variation.key = key := by
  have listed := flagVariations_of_known known
  rw [flagVariationByKey?, listed, variationsOf_eq]
  exact Variation.find?_mergeInto_iff

end Config
end FeatureFlags
