import Mathlib.Data.List.Nodup
import FeatureFlags.Proofs.Decision.Rollouts

/-!
Overrides are local: what is set for one user in one experiment is found for that user in that
experiment only, and nothing but the stages of an experiment looks for it.
-/

namespace FeatureFlags

/-- With distinct ids a variation is found under its own id. -/
theorem Experiment.variationById?_of_mem {experiment : Experiment} {variation : Variation}
    (distinct : (experiment.variations.map (·.id)).Nodup)
    (member : variation ∈ experiment.variations) :
    experiment.variationById? variation.id = some variation := by
  obtain ⟨namesake, found⟩ := Option.isSome_iff_exists.mp (variationById?_isSome_of_mem member)
  have same : namesake = variation := List.inj_on_of_nodup_map distinct
    (List.mem_of_find?_eq_some found) member (Experiment.id_of_variationById? found)
  rw [found, same]

namespace OverrideTable
variable (table : OverrideTable) {experiment other : Experiment} {userId userId' : String}

/-- Experiments with one id share their overrides. -/
theorem variationId?_congr (same : other.id = experiment.id) :
    table.variationId? other userId = table.variationId? experiment userId := by
  simp only [variationId?, same]

/-- What setting an override can do: it is refused, or it drops or replaces one entry. -/
theorem set_cases (experiment : Experiment) (userId : String) (variationKey : Option String) :
    let key : OverrideKey := { userId, experimentId := experiment.id }
    let set := table.set experiment userId variationKey
    set = (false, table) ∨
      (variationKey = none ∧ set = (true, { entries := table.entries.erase key })) ∨
      ∃ name variation, variationKey = some name ∧ userId.isEmpty = false ∧
        experiment.variationByKey? name = some variation ∧
        set = (true, { entries := table.entries.insert key variation.id }) := by
  intro key set
  by_cases nobody : userId.isEmpty = true
  · exact .inl (if_pos nobody)
  · cases variationKey with
    | none => exact .inr (.inl ⟨rfl, if_neg nobody⟩)
    | some name =>
        cases named : experiment.variationByKey? name with
        | none =>
            exact .inl (by simp only [set, OverrideTable.set, named, if_neg nobody])
        | some variation =>
            refine .inr (.inr ⟨name, variation, rfl, Bool.eq_false_iff.mpr nobody, named, ?_⟩)
            simp only [set, OverrideTable.set, named, if_neg nobody, key]

theorem set_of_refused {variationKey : Option String}
    (refused : (table.set experiment userId variationKey).1 = false) :
    (table.set experiment userId variationKey).2 = table := by
  obtain kept | ⟨_, dropped⟩ | ⟨_, _, _, _, _, replaced⟩ :=
    table.set_cases experiment userId variationKey
  · rw [kept]
  · rw [dropped] at refused
    cases refused
  · rw [replaced] at refused
    cases refused

/-- An override that is accepted is found. -/
theorem variationId?_set_self {name : String}
    (accepted : (table.set experiment userId (some name)).1 = true) :
    ∃ variation, experiment.variationByKey? name = some variation ∧
      (table.set experiment userId (some name)).2.variationId? experiment userId =
        some variation.id := by
  obtain kept | ⟨nothing, _⟩ | ⟨_, variation, ⟨⟩, somebody, named, replaced⟩ :=
    table.set_cases experiment userId (some name)
  · rw [kept] at accepted
    cases accepted
  · cases nothing
  · refine ⟨variation, named, ?_⟩
    rw [replaced, variationId?, somebody, if_neg Bool.false_ne_true]
    exact Std.ExtTreeMap.getElem?_insert_self

/-- Setting an override does not touch those of other users or in other experiments. -/
theorem variationId?_set_of_ne (variationKey : Option String)
    (apart : userId' ≠ userId ∨ other.id ≠ experiment.id) :
    (table.set experiment userId variationKey).2.variationId? other userId' =
      table.variationId? other userId' := by
  have different : ¬ compare (OverrideKey.mk userId experiment.id)
      (OverrideKey.mk userId' other.id) = .eq := by
    intro same
    obtain ⟨rfl, sameId⟩ := OverrideKey.mk.inj (Std.LawfulEqOrd.eq_of_compare same)
    exact apart.elim (· rfl) (· sameId.symm)
  obtain kept | ⟨_, dropped⟩ | ⟨_, _, _, _, _, replaced⟩ :=
    table.set_cases experiment userId variationKey
  · rw [kept]
  · rw [dropped, variationId?, variationId?, Std.ExtTreeMap.getElem?_erase, if_neg different]
  · rw [replaced, variationId?, variationId?, Std.ExtTreeMap.getElem?_insert, if_neg different]

end OverrideTable

theorem Resolution.firstSome_congr {σ α β : Type} {f g : α → Resolution σ (Option β)}
    {items : List α} (same : ∀ a ∈ items, f a = g a) : firstSome f items = firstSome g items := by
  induction items with
  | nil => rfl
  | cons first rest ih =>
      have here := same first List.mem_cons_self
      have later := ih fun a member => same a (List.mem_cons_of_mem _ member)
      rw [firstSome_cons, firstSome_cons, here, later]

namespace Context
variable {σ : Type} (context : Context σ) (overrides : OverrideTable)

/-- The user has the same override in an experiment by either table. -/
def SameOverride (experiment : Experiment) : Prop :=
  overrides.variationId? experiment context.user.id =
    context.overrides.variationId? experiment context.user.id

theorem resolveExperiment_withOverrides {experiment : Experiment}
    (same : context.SameOverride overrides experiment) :
    { context with overrides }.resolveExperiment experiment =
      context.resolveExperiment experiment := by
  have got : overrides.get experiment context.user.id =
      context.overrides.get experiment context.user.id := by
    rw [OverrideTable.get, OverrideTable.get, same]
  simp only [resolveExperiment, preassigned, got]
  rfl

theorem resolveRule_withOverrides (flag : Flag) {experimentId : String}
    (same : ∀ experiment, context.config.experimentsById[experimentId]? = some experiment →
      context.SameOverride overrides experiment) :
    { context with overrides }.resolveRule flag experimentId =
      context.resolveRule flag experimentId := by
  simp only [resolveRule]
  cases known : context.config.experimentsById[experimentId]? with
  | none => rfl
  | some experiment =>
      simp only [context.resolveExperiment_withOverrides overrides (same experiment known)]
      rfl

/-- Overrides only count for the experiments that a flag names. Its holdouts and its rollout do not
look at them. -/
theorem resolveFlag_withOverrides {flag : Flag}
    (same : ∀ id ∈ flag.experimentIds, ∀ experiment,
      context.config.experimentsById[id]? = some experiment →
        context.SameOverride overrides experiment) :
    { context with overrides }.resolveFlag flag = context.resolveFlag flag := by
  have experiments : { context with overrides }.resolveExperiments flag =
      context.resolveExperiments flag :=
    Resolution.firstSome_congr fun id named =>
      context.resolveRule_withOverrides overrides flag (same id named)
  have rollout := context.resolveRollout_with context.bandit overrides context.profiles
    context.options flag
  simp only [resolveFlag, experiments, rollout]
  rfl

end Context
end FeatureFlags
