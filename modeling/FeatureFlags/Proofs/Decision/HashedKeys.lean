import FeatureFlags.Proofs.Decision.StoreUpdates
import FeatureFlags.Proofs.Engine.Perform

/-!
The keys that a decision hashes. Without bandits they are a plain function of the profile of the
user, as the decision is. An assignment that the profile remembers only takes keys away: those of
its own experiment, which decides by the profile from then on.
-/

namespace FeatureFlags

namespace Event

@[simp] theorem hashedKeys_nil : hashedKeys [] = [] := rfl

@[simp] theorem hashedKeys_append (first second : List Event) :
    hashedKeys (first ++ second) = hashedKeys first ++ hashedKeys second :=
  List.filterMap_append

theorem mem_hashedKeys {events : List Event} {key : String} :
    key ∈ hashedKeys events ↔ .hashed key ∈ events := by
  simp only [hashedKeys, List.mem_filterMap]
  constructor
  · rintro ⟨event, member, named⟩
    cases event with
    | hashed given => cases named; exact member
    | lookedUp _ | saved _ | consulted _ | fetched _ => cases named
  · exact fun member => ⟨_, member, rfl⟩

end Event

namespace Context
open Event
variable {σ : Type}

@[simp] theorem hashedKeys_lookups (context : Context σ) (progress : Progress σ) :
    hashedKeys (context.lookups progress) = [] := by
  simp only [lookups]
  cases context.profiles with
  | none => rfl
  | some store => cases progress.tracker <;> rfl

@[simp] theorem hashedKeys_saves (context : Context σ) (progress : Progress σ) :
    hashedKeys (context.saves progress) = [] := by
  simp only [saves]
  cases context.profiles with
  | none => rfl
  | some store => cases progress.tracker <;> rfl

/-- The keys that an experiment hashes without a bandit. -/
def keysOf (context : Context σ) (experiment : Experiment) (profile : Option UserProfile) :
    List String :=
  if experiment.isActive = true ∧
      context.overrides.variationOf? experiment context.user.id = none ∧
      experiment.whitelistedVariation? context.user.id = none ∧
      profile.bind (·.variationOf? experiment) = none ∧
      experiment.admits context.config context.user.attributes = true then
    hashedKeys (context.hashed experiment).events
  else []

/-- The keys that an experiment rule hashes without a bandit. -/
def ruleKeys (context : Context σ) (flag : Flag) (profile : Option UserProfile) (id : String) :
    List String :=
  match context.config.experimentsById[id]? with
  | none => []
  | some experiment =>
    match context.forcedOnRule? flag experiment with
    | some _ => []
    | none => context.keysOf experiment profile

/-- The keys that experiment rules hash without a bandit, up to the first one that decides. -/
def rulesKeys (context : Context σ) (flag : Flag) (profile : Option UserProfile) :
    List String → List String
  | [] => []
  | id :: ids =>
    context.ruleKeys flag profile id ++
      if (context.ruleOutcome flag profile id).isSome then []
      else rulesKeys context flag profile ids

/-- The keys that a flag hashes without a bandit. -/
def flagKeys (context : Context σ) (flag : Flag) (profile : Option UserProfile) : List String :=
  if (context.forcedOnFlag? flag).isSome then []
  else hashedKeys (context.resolveHoldouts flag).events ++
    if (context.resolveHoldouts flag).value.isSome then []
    else context.rulesKeys flag profile flag.experimentIds ++
      if (flag.experimentIds.findSome? (context.ruleOutcome flag profile)).isSome then []
      else hashedKeys (context.resolveRollout flag).events

/-- Whichever store a profile is from, it leads to the same keys. -/
theorem flagKeys_withProfiles (context : Context σ) (profiles : Option ProfileStore)
    (flag : Flag) (profile : Option UserProfile) :
    { context with profiles }.flagKeys flag profile = context.flagKeys flag profile := by
  have rules (ids : List String) : { context with profiles }.rulesKeys flag profile ids =
      context.rulesKeys flag profile ids := by
    induction ids with
    | nil => rfl
    | cons id ids ih =>
        rw [rulesKeys, rulesKeys, ih]
        rfl
  simp only [flagKeys, rules, resolveRollout_withProfiles]
  rfl

variable {context : Context σ} {start finish : Progress σ} {events : List Event}

theorem Staged.hashedKeys_eq {experiment : Experiment} {outcome : Outcome}
    (noBandit : context.bandit = none)
    (staged : Staged context experiment start outcome events finish) :
    hashedKeys events = context.keysOf experiment (context.profileAt start) := by
  cases staged with
  | inactive inactive => simp [keysOf, inactive]
  | override active named => simp [keysOf, named]
  | whitelist active notOverridden named => simp [keysOf, named]
  | sticky active notOverridden notWhitelisted stored =>
      simp only [storedVariation?] at stored
      simp [keysOf, stored]
  | outsideAudiences unsettled barred => simp [keysOf, barred]
  | assigned unsettled admitted assigned =>
      obtain ⟨active, notOverridden, notWhitelisted, notStored⟩ := unsettled
      simp only [storedVariation?] at notStored
      cases assigned with
      | hash _ => simp [keysOf, active, notOverridden, notWhitelisted, notStored, admitted]
      | outsideShare _ provided _ | bandit _ provided _ =>
          rw [noBandit] at provided
          cases provided

/-- The keys of rules that are passed over come before those of the rest. -/
theorem PassedOver.rulesKeys_append {flag : Flag} {ids : List String}
    (noBandit : context.bandit = none)
    (passed : PassedOver context flag start ids events finish) (rest : List String) :
    context.rulesKeys flag (context.profileAt start) (ids ++ rest) =
      hashedKeys events ++ context.rulesKeys flag (context.profileAt start) rest := by
  induction passed with
  | nil => rfl
  | unknown unknown _ ih => simp [rulesKeys, ruleKeys, ruleOutcome, unknown, ih]
  | undecided known notForced staged _ ih =>
      have keys := staged.hashedKeys_eq noBandit
      have undecided := staged.eq_outcomeFor noBandit
      rw [staged.reaches.profileAt_eq_of_none] at ih
      simp [rulesKeys, ruleKeys, ruleOutcome, known, notForced, ← undecided, Outcome.isFinal, ih,
        keys]

theorem RuleDecides.hashedKeys_eq {flag : Flag} {id : String} {experiment : Experiment}
    {outcome : Outcome} (noBandit : context.bandit = none)
    (known : context.config.experimentsById[id]? = some experiment)
    (decides : RuleDecides context flag experiment start outcome events finish) :
    hashedKeys events = context.ruleKeys flag (context.profileAt start) id := by
  cases decides with
  | forced forced => simp [ruleKeys, known, forced]
  | staged notForced staged _ =>
      simp [ruleKeys, known, notForced, staged.hashedKeys_eq noBandit]

theorem OpenToRules.flagKeys_eq {flag : Flag} (openToRules : OpenToRules context flag)
    (profile : Option UserProfile) :
    context.flagKeys flag profile =
      hashedKeys ((context.config.holdoutsForFlag flag.id).flatMap context.holdoutEvents) ++
        (context.rulesKeys flag profile flag.experimentIds ++
          if (flag.experimentIds.findSome? (context.ruleOutcome flag profile)).isSome then []
          else hashedKeys (context.resolveRollout flag).events) := by
  obtain ⟨value, events⟩ := resolveHoldouts_of_none openToRules.notHeld
  simp only [flagKeys, openToRules.notForced, value, events, Option.isSome_none,
    Bool.false_eq_true, if_false]

/-- Without a bandit the keys that a flag hashes depend on nothing but the profile of the user. -/
theorem Layered.hashedKeys_eq {flag : Flag} {decided : FlagOutcome}
    (noBandit : context.bandit = none)
    (layered : Layered context flag start decided events finish) :
    hashedKeys events = context.flagKeys flag (context.profileAt start) := by
  cases layered with
  | forced forced => simp [flagKeys, forced]
  | holdout notForced listed passed serves =>
      obtain ⟨value, events⟩ := resolveHoldouts_of_some listed passed serves
      simp [flagKeys, notForced, value, events]
  | experiment openToRules listed passed known decides =>
      have here := decides.ruleOutcome_eq noBandit known
      have keys := decides.hashedKeys_eq noBandit known
      rw [passed.reaches.profileAt_eq_of_none] at here keys
      have earlier := List.findSome?_eq_none_iff.mpr (passed.ruleOutcome_eq_none noBandit)
      rw [openToRules.flagKeys_eq, listed, passed.rulesKeys_append noBandit, rulesKeys,
        List.findSome?_append, earlier, List.findSome?_cons, here]
      simp [keys]
  | rollout openToRules passed _ | nothing openToRules passed _ =>
      have exhausted := List.findSome?_eq_none_iff.mpr (passed.ruleOutcome_eq_none noBandit)
      have keys := passed.rulesKeys_append noBandit []
      rw [List.append_nil] at keys
      rw [openToRules.flagKeys_eq, exhausted, keys]
      simp [rulesKeys]

section Remembered
variable {profile : UserProfile} {experiment : Experiment} {variation : Variation}

/-- The experiment of a remembered assignment hashes nothing any more, and the others what they
hashed before. -/
theorem keysOf_remember (assigns : context.Assigns profile experiment variation)
    {other : Experiment} (known : context.config.experimentsById[other.id]? = some other) :
    context.keysOf other (some (profile.remember experiment.id variation.id)) =
      if other.id = experiment.id then [] else context.keysOf other (some profile) := by
  by_cases same : other.id = experiment.id
  · rw [same, assigns.known] at known
    cases known
    have assigned : (context.outcomeFor experiment (some profile)).assigned? = some variation := by
      rw [assigns.outcome, Outcome.assigned?]
    obtain ⟨_, _, _, _, bucketed⟩ := hashed_of_outcomeFor assigned
    simp [keysOf, variationOf?_remember_of_hashed profile bucketed]
  · rw [if_neg same]
    simp only [keysOf, Option.bind_some,
      UserProfile.variationOf?_remember_of_ne profile variation.id (Ne.symm same)]

theorem ruleKeys_remember_sublist (indexed : context.config.WellIndexed)
    (assigns : context.Assigns profile experiment variation) (flag : Flag) (id : String) :
    (context.ruleKeys flag (some (profile.remember experiment.id variation.id)) id).Sublist
      (context.ruleKeys flag (some profile) id) := by
  simp only [ruleKeys]
  split
  · exact .refl _
  · rename_i rule known
    split
    · exact .refl _
    · rw [keysOf_remember assigns (indexed.experimentsById_self known)]
      split
      · exact List.nil_sublist _
      · exact .refl _

theorem rulesKeys_remember_sublist (indexed : context.config.WellIndexed)
    (assigns : context.Assigns profile experiment variation) (flag : Flag) (ids : List String) :
    (context.rulesKeys flag (some (profile.remember experiment.id variation.id)) ids).Sublist
      (context.rulesKeys flag (some profile) ids) := by
  induction ids with
  | nil => exact .refl _
  | cons id ids ih =>
      simp only [rulesKeys, ruleOutcome_remember indexed assigns, Option.isSome_map]
      refine (ruleKeys_remember_sublist indexed assigns flag id).append ?_
      split
      · exact .refl _
      · exact ih

/-- A remembered assignment takes keys away and adds none, for every flag. -/
theorem flagKeys_remember_sublist (indexed : context.config.WellIndexed)
    (assigns : context.Assigns profile experiment variation) (flag : Flag) :
    (context.flagKeys flag (some (profile.remember experiment.id variation.id))).Sublist
      (context.flagKeys flag (some profile)) := by
  have rules : context.ruleOutcome flag (some (profile.remember experiment.id variation.id)) =
      Option.map (·.restuck experiment.id) ∘ context.ruleOutcome flag (some profile) :=
    funext (ruleOutcome_remember indexed assigns flag)
  simp only [flagKeys, rules, ← List.map_findSome?, Option.isSome_map]
  split
  · exact .refl _
  · refine (List.Sublist.refl _).append ?_
    split
    · exact .refl _
    · exact (rulesKeys_remember_sublist indexed assigns flag flag.experimentIds).append (.refl _)

end Remembered

/-- Once a flag has been decided, deciding it or another one hashes no key that it would not have
hashed before. -/
theorem flagKeys_assign_sublist (indexed : context.config.WellIndexed) (flag earlier : Flag)
    (profile : UserProfile) :
    (context.flagKeys flag
      (some (profile.assign (context.flagOutcome earlier (some profile)).assignment?))).Sublist
        (context.flagKeys flag (some profile)) := by
  cases assigned : (context.flagOutcome earlier (some profile)).assignment? with
  | none => exact .refl _
  | some assignment =>
      exact flagKeys_remember_sublist indexed (assigns_of_flagOutcome indexed assigned).1 flag

end Context
end FeatureFlags
