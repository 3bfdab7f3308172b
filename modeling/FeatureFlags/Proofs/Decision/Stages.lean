import FeatureFlags.Engine
import FeatureFlags.Proofs.Bucketing
import FeatureFlags.Proofs.Profile.Tracker
import FeatureFlags.Proofs.Resolution
import FeatureFlags.Proofs.Targeting

/-!
The stages of an experiment: overrides, the whitelist, the profile of the user, the audiences, and
the assignment by a bandit or by the hash. `Staged` tells what the first stage that decides comes to,
with the events on the way and the progress that is left; the resolution of an experiment runs
exactly like that.
-/

namespace FeatureFlags

/-- The variation that an override names for a user, if the experiment still has it. -/
def OverrideTable.variationOf? (table : OverrideTable) (experiment : Experiment)
    (userId : String) : Option Variation :=
  (table.variationId? experiment userId).bind experiment.variationById?

/-- The variation that the whitelist names for a user, if the experiment has it. -/
def Experiment.whitelistedVariation? (experiment : Experiment) (userId : String) :
    Option Variation :=
  experiment.forcedVariations[userId]?.bind experiment.variationByKey?

@[simp] theorem OverrideTable.value_get (table : OverrideTable) (experiment : Experiment)
    (userId : String) :
    (table.get experiment userId).value = table.variationOf? experiment userId := by
  simp only [get, variationOf?]
  cases table.variationId? experiment userId with
  | none => rfl
  | some id => cases named : experiment.variationById? id <;> simp [named]

@[simp] theorem OverrideTable.events_get (table : OverrideTable) (experiment : Experiment)
    (userId : String) : (table.get experiment userId).events = [] := by
  simp only [get]
  cases table.variationId? experiment userId with
  | none => rfl
  | some id => cases named : experiment.variationById? id <;> simp [named]

@[simp] theorem Experiment.value_whitelisted (experiment : Experiment) (userId : String) :
    (experiment.whitelisted userId).value = experiment.whitelistedVariation? userId := by
  simp only [whitelisted, whitelistedVariation?]
  cases experiment.forcedVariations[userId]? with
  | none => rfl
  | some key => cases named : experiment.variationByKey? key <;> simp [named]

@[simp] theorem Experiment.events_whitelisted (experiment : Experiment) (userId : String) :
    (experiment.whitelisted userId).events = [] := by
  simp only [whitelisted]
  cases experiment.forcedVariations[userId]? with
  | none => rfl
  | some key => cases named : experiment.variationByKey? key <;> simp [named]

/-- The outcome that a bandit's answer stands for. -/
def Experiment.outcomeOf (experiment : Experiment) :
    Except Bandit.Failure Bandit.Choice → Outcome
  | .error _ => .failed none
  | .ok choice =>
    match experiment.variationById? choice.variationId with
    | none => .failed (some choice.correlationId)
    | some variation => .served variation (.bandit choice.correlationId)

namespace Context
variable {σ : Type}

@[simp] theorem value_banditOutcome (userId : String) (experiment : Experiment)
    (answer : Except Bandit.Failure Bandit.Choice) :
    (banditOutcome userId experiment answer).value = experiment.outcomeOf answer := by
  cases answer with
  | error failure => rfl
  | ok choice =>
      cases named : experiment.variationById? choice.variationId <;>
        simp [banditOutcome, Experiment.outcomeOf, named]

@[simp] theorem events_banditOutcome (userId : String) (experiment : Experiment)
    (answer : Except Bandit.Failure Bandit.Choice) :
    (banditOutcome userId experiment answer).events = [] := by
  cases answer with
  | error failure => rfl
  | ok choice =>
      cases named : experiment.variationById? choice.variationId <;>
        simp [banditOutcome, named]

/-- The variation that the hash assigns to the user, as a computation with its events. -/
def hashed (context : Context σ) (experiment : Experiment) : Traced (Option Variation) :=
  Bucketing.bucket context.sharder context.config experiment context.user.bucketingId.value

/-- Whether the user is in the share of traffic that a bandit decides. -/
def share (context : Context σ) (experiment : Experiment) (settings : BanditSettings) :
    Traced (Option String) :=
  Bucketing.bucketForBandit context.sharder context.config experiment settings.trafficAllocation
    context.user.bucketingId.value

/-- What the bandit service answers for the user. -/
def answer (context : Context σ) (service : Bandit.Service σ) (experiment : Experiment)
    (bandit : σ) : Bandit.Answer σ :=
  service.decide context.config context.user experiment.id context.options bandit

/-- The profile of the user at some point of a call, unless profiles play no part in it. -/
def profileAt (context : Context σ) (progress : Progress σ) : Option UserProfile :=
  context.profiles.map fun store => progress.tracker.profile store context.user.id

/-- The progress once the profile was looked at. -/
def opened (context : Context σ) (progress : Progress σ) : Progress σ :=
  match context.profiles with
  | none => progress
  | some store => { progress with tracker := progress.tracker.opened store context.user.id }

/-- The lookup it takes to look at the profile. -/
def lookups (context : Context σ) (progress : Progress σ) : List Event :=
  match context.profiles with
  | none => []
  | some _ => progress.tracker.lookups context.user.id

/-- The progress once a variation, if there is one, was added to the profile. -/
def recorded (context : Context σ) (experiment : Experiment) (variation : Option Variation)
    (progress : Progress σ) : Progress σ :=
  match context.profiles, variation with
  | some store, some variation =>
    { progress with
      tracker := .changed ((progress.tracker.profile store context.user.id).remember
        experiment.id variation.id) }
  | _, _ => progress

/-- The stored variation of an experiment. -/
def storedVariation? (context : Context σ) (experiment : Experiment) (progress : Progress σ) :
    Option Variation :=
  (context.profileAt progress).bind (·.variationOf? experiment)

/-- An active experiment of which no override, whitelist entry or stored decision names a
variation for the user. -/
structure Unsettled (context : Context σ) (experiment : Experiment) (progress : Progress σ) :
    Prop where
  active : experiment.isActive = true
  notOverridden : context.overrides.variationOf? experiment context.user.id = none
  notWhitelisted : experiment.whitelistedVariation? context.user.id = none
  notStored : context.storedVariation? experiment progress = none

/-- The assignment of a user who is in the audiences. -/
inductive Assigned (context : Context σ) (experiment : Experiment) (start : Progress σ) :
    Outcome → List Event → Progress σ → Prop
  | hash (noBandit : experiment.bandit = none ∨ context.bandit = none) :
      Assigned context experiment start
        ((context.hashed experiment).value.elim .undecided (.served · .experiment))
        (context.hashed experiment).events start
  | outsideShare {settings : BanditSettings} {service : Bandit.Service σ}
      (controlled : experiment.bandit = some settings) (provided : context.bandit = some service)
      (outside : (context.share experiment settings).value = none) :
      Assigned context experiment start .undecided (context.share experiment settings).events start
  | bandit {settings : BanditSettings} {service : Bandit.Service σ}
      (controlled : experiment.bandit = some settings) (provided : context.bandit = some service)
      (inside : (context.share experiment settings).value.isSome) :
      Assigned context experiment start
        (experiment.outcomeOf (context.answer service experiment start.bandit).result)
        ((context.share experiment settings).events ++ .consulted experiment.id ::
          (context.answer service experiment start.bandit).requests.map .fetched)
        { start with bandit := (context.answer service experiment start.bandit).state }

/-- What an experiment decides, by the first stage that decides. -/
inductive Staged (context : Context σ) (experiment : Experiment) (start : Progress σ) :
    Outcome → List Event → Progress σ → Prop
  | inactive (inactive : experiment.isActive = false) :
      Staged context experiment start .undecided [] start
  | override {variation : Variation} (active : experiment.isActive = true)
      (named : context.overrides.variationOf? experiment context.user.id = some variation) :
      Staged context experiment start (.served variation .override) [] start
  | whitelist {variation : Variation} (active : experiment.isActive = true)
      (notOverridden : context.overrides.variationOf? experiment context.user.id = none)
      (named : experiment.whitelistedVariation? context.user.id = some variation) :
      Staged context experiment start (.served variation .whitelist) [] start
  | sticky {variation : Variation} (active : experiment.isActive = true)
      (notOverridden : context.overrides.variationOf? experiment context.user.id = none)
      (notWhitelisted : experiment.whitelistedVariation? context.user.id = none)
      (stored : context.storedVariation? experiment start = some variation) :
      Staged context experiment start (.served variation .sticky) (context.lookups start)
        (context.opened start)
  | outsideAudiences (unsettled : Unsettled context experiment start)
      (barred : experiment.admits context.config context.user.attributes = false) :
      Staged context experiment start .undecided (context.lookups start) (context.opened start)
  | assigned {outcome : Outcome} {events : List Event} {reached : Progress σ}
      (unsettled : Unsettled context experiment start)
      (admitted : experiment.admits context.config context.user.attributes = true)
      (assigned : Assigned context experiment (context.opened start) outcome events reached) :
      Staged context experiment start outcome (context.lookups start ++ events)
        (context.recorded experiment outcome.variation? reached)

@[simp] theorem lookups_opened (context : Context σ) (progress : Progress σ) :
    context.lookups (context.opened progress) = [] := by
  simp only [lookups, opened]
  cases context.profiles <;> simp

@[simp] theorem profileAt_opened (context : Context σ) (progress : Progress σ) :
    context.profileAt (context.opened progress) = context.profileAt progress := by
  simp only [profileAt, opened]
  cases context.profiles <;> simp

@[simp] theorem bandit_opened (context : Context σ) (progress : Progress σ) :
    (context.opened progress).bandit = progress.bandit := by
  simp only [opened]
  cases context.profiles <;> rfl

@[simp] theorem isChanged_opened (context : Context σ) (progress : Progress σ) :
    (context.opened progress).tracker.isChanged = progress.tracker.isChanged := by
  simp only [opened]
  cases context.profiles <;> simp

variable {context : Context σ} {experiment : Experiment} {start finish : Progress σ}
  {outcome : Outcome} {variation : Variation} {events : List Event}

theorem sticky_runs (context : Context σ) (experiment : Experiment) (start : Progress σ) :
    (context.sticky experiment).Runs start (context.storedVariation? experiment start)
      (context.lookups start) (context.opened start) := by
  simp only [Resolution.Runs, sticky, storedVariation?, profileAt, opened, lookups]
  cases context.profiles with
  | none => exact ⟨rfl, rfl⟩
  | some store => simp [Resolution.withTracker_apply]

theorem remember_runs (experiment : Experiment) (outcome : Outcome) (open_ : context.lookups start = []) :
    (context.remember experiment outcome).Runs start () []
      (context.recorded experiment outcome.variation? start) := by
  simp only [lookups] at open_
  simp only [Resolution.Runs, remember, recorded]
  cases profiles : context.profiles with
  | none => exact ⟨rfl, rfl⟩
  | some store =>
      simp only [profiles] at open_
      cases outcome.variation? with
      | none => exact ⟨rfl, rfl⟩
      | some variation => simp [Resolution.withTracker_apply, open_]

theorem value_assignByHash (context : Context σ) (experiment : Experiment) :
    (context.assignByHash experiment context.user.bucketingId.value).value =
      (context.hashed experiment).value.elim .undecided (.served · .experiment) := by
  simp only [assignByHash, hashed, Traced.value_bind]
  split <;> rename_i bucketed <;> simp [bucketed]

theorem events_assignByHash (context : Context σ) (experiment : Experiment) :
    (context.assignByHash experiment context.user.bucketingId.value).events =
      (context.hashed experiment).events := by
  simp only [assignByHash, hashed, Traced.events_bind]
  split <;> simp

theorem Assigned.runs (assigned : Assigned context experiment start outcome events finish) :
    (context.assign experiment).Runs start outcome events finish := by
  cases assigned with
  | hash noBandit =>
      rcases noBandit with uncontrolled | unprovided
      · simp [Resolution.Runs, assign, Resolution.bind_apply, Resolution.lift_apply, uncontrolled,
          value_assignByHash, events_assignByHash]
      · cases controlled : experiment.bandit <;>
          simp [Resolution.Runs, assign, Resolution.bind_apply, Resolution.lift_apply, unprovided,
            controlled, value_assignByHash, events_assignByHash]
  | outsideShare controlled provided outside =>
      simp only [share] at outside
      simp [Resolution.Runs, assign, assignByBandit, Resolution.bind_apply, Resolution.lift_apply,
        Resolution.map_apply, controlled, provided, outside, share]
  | @bandit settings service controlled provided inside =>
      obtain ⟨entity, inShare⟩ := Option.isSome_iff_exists.mp inside
      simp only [share] at inShare
      simp [Resolution.Runs, assign, assignByBandit, Resolution.consult, Resolution.bind_apply,
        Resolution.lift_apply, controlled, provided, inShare, share, answer]

theorem Assigned.tracker_eq (assigned : Assigned context experiment start outcome events finish) :
    finish.tracker = start.tracker := by
  cases assigned <;> rfl

/-- The assignment is settled by the bandit's settings, its service, and its share of traffic. -/
theorem exists_assigned (context : Context σ) (experiment : Experiment) (start : Progress σ) :
    ∃ outcome events finish, Assigned context experiment start outcome events finish := by
  cases controlled : experiment.bandit with
  | none => exact ⟨_, _, _, .hash (.inl controlled)⟩
  | some settings =>
      cases provided : context.bandit with
      | none => exact ⟨_, _, _, .hash (.inr provided)⟩
      | some service =>
          cases inShare : (context.share experiment settings).value with
          | none => exact ⟨_, _, _, .outsideShare controlled provided inShare⟩
          | some entity =>
              exact ⟨_, _, _, .bandit controlled provided (by rw [inShare]; rfl)⟩

/-- Some stage decides, or the last one leaves the experiment undecided. -/
theorem exists_staged (context : Context σ) (experiment : Experiment) (start : Progress σ) :
    ∃ outcome events finish, Staged context experiment start outcome events finish := by
  by_cases active : experiment.isActive = true
  case neg => exact ⟨_, _, _, .inactive (Bool.eq_false_iff.mpr active)⟩
  cases overridden : context.overrides.variationOf? experiment context.user.id with
  | some variation => exact ⟨_, _, _, .override active overridden⟩
  | none =>
      cases whitelisted : experiment.whitelistedVariation? context.user.id with
      | some variation => exact ⟨_, _, _, .whitelist active overridden whitelisted⟩
      | none =>
          cases stored : context.storedVariation? experiment start with
          | some variation => exact ⟨_, _, _, .sticky active overridden whitelisted stored⟩
          | none =>
              have unsettled : Unsettled context experiment start :=
                ⟨active, overridden, whitelisted, stored⟩
              by_cases admitted : experiment.admits context.config context.user.attributes = true
              case neg =>
                exact ⟨_, _, _, .outsideAudiences unsettled (Bool.eq_false_iff.mpr admitted)⟩
              obtain ⟨outcome, events, reached, assigned⟩ :=
                exists_assigned context experiment (context.opened start)
              exact ⟨_, _, _, .assigned unsettled admitted assigned⟩

/-- What the stages before the audiences answer. -/
theorem preassigned_runs_of_override (start : Progress σ)
    (named : context.overrides.variationOf? experiment context.user.id = some variation) :
    (context.preassigned experiment).Runs start (some (variation, .override)) [] start := by
  simp [Resolution.Runs, preassigned, Resolution.bind_apply, Resolution.lift_apply,
    Resolution.pure_apply, named]

theorem preassigned_runs_of_whitelist (start : Progress σ)
    (notOverridden : context.overrides.variationOf? experiment context.user.id = none)
    (named : experiment.whitelistedVariation? context.user.id = some variation) :
    (context.preassigned experiment).Runs start (some (variation, .whitelist)) [] start := by
  simp [Resolution.Runs, preassigned, Resolution.bind_apply, Resolution.lift_apply,
    Resolution.pure_apply, notOverridden, named]

theorem preassigned_runs_of_stored (start : Progress σ)
    (notOverridden : context.overrides.variationOf? experiment context.user.id = none)
    (notWhitelisted : experiment.whitelistedVariation? context.user.id = none) :
    (context.preassigned experiment).Runs start
      ((context.storedVariation? experiment start).map (·, .sticky)) (context.lookups start)
      (context.opened start) := by
  obtain ⟨value, events⟩ := sticky_runs context experiment start
  simp [Resolution.Runs, preassigned, Resolution.bind_apply, Resolution.lift_apply,
    Resolution.map_apply, notOverridden, notWhitelisted, value, events]

theorem resolveExperiment_runs_of_preassigned {source : Source}
    (active : experiment.isActive = true)
    (run : (context.preassigned experiment).Runs start (some (variation, source)) events finish) :
    (context.resolveExperiment experiment).Runs start (.served variation source) events finish := by
  obtain ⟨value, emitted⟩ := run
  simp [Resolution.Runs, resolveExperiment, active, Resolution.bind_apply, Resolution.pure_apply,
    value, emitted]

theorem resolveExperiment_runs_of_unsettled (unsettled : Unsettled context experiment start)
    (run : (context.assignIfAdmitted experiment).Runs (context.opened start) outcome events
      finish) :
    (context.resolveExperiment experiment).Runs start outcome (context.lookups start ++ events)
      finish := by
  have nothing := preassigned_runs_of_stored start unsettled.notOverridden unsettled.notWhitelisted
  rw [unsettled.notStored] at nothing
  rw [resolveExperiment, if_pos unsettled.active]
  exact nothing.bind run

/-- The resolution of an experiment follows the first stage that decides. -/
theorem Staged.runs (staged : Staged context experiment start outcome events finish) :
    (context.resolveExperiment experiment).Runs start outcome events finish := by
  cases staged with
  | inactive inactive =>
      simp [Resolution.Runs, resolveExperiment, inactive, Resolution.map_apply,
        Resolution.lift_apply]
  | override active named =>
      exact resolveExperiment_runs_of_preassigned active (preassigned_runs_of_override start named)
  | whitelist active notOverridden named =>
      exact resolveExperiment_runs_of_preassigned active
        (preassigned_runs_of_whitelist start notOverridden named)
  | sticky active notOverridden notWhitelisted stored =>
      have run := preassigned_runs_of_stored start notOverridden notWhitelisted
      rw [stored] at run
      exact resolveExperiment_runs_of_preassigned active run
  | outsideAudiences unsettled barred =>
      have run : (context.assignIfAdmitted experiment).Runs (context.opened start) .undecided []
          (context.opened start) := by
        simp [Resolution.Runs, assignIfAdmitted, Resolution.bind_apply, Resolution.map_apply,
          Resolution.lift_apply, barred]
      simpa using resolveExperiment_runs_of_unsettled unsettled run
  | @assigned _ events reached unsettled admitted assigned =>
      have open_ : context.lookups reached = [] := by
        simpa only [lookups, assigned.tracker_eq] using lookups_opened context start
      obtain ⟨assignValue, assignEvents⟩ := assigned.runs
      obtain ⟨rememberValue, rememberEvents⟩ := remember_runs experiment outcome open_
      apply resolveExperiment_runs_of_unsettled unsettled
      simp [Resolution.Runs, assignIfAdmitted, Resolution.bind_apply, Resolution.map_apply,
        Resolution.lift_apply, admitted, assignValue, assignEvents, rememberValue, rememberEvents]

theorem staged_iff_runs :
    Staged context experiment start outcome events finish ↔
      (context.resolveExperiment experiment).Runs start outcome events finish := by
  constructor
  · exact Staged.runs
  · intro run
    obtain ⟨_, _, _, staged⟩ := exists_staged context experiment start
    obtain ⟨rfl, rfl, rfl⟩ := staged.runs.unique run
    exact staged

end Context
end FeatureFlags
