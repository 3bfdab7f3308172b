import FeatureFlags.Proofs.Decision.Layers
import FeatureFlags.Proofs.Decision.Rollouts

/-!
What a decision adds to the profile of the user: the variation that an experiment assigns by the hash
or by a bandit, and nothing else. An experiment only assigns a variation if the profile does not
name one already.
-/

namespace FeatureFlags

/-- The variation that an experiment has assigned. -/
def Outcome.assigned? : Outcome → Option Variation
  | .served variation .experiment | .served variation (.bandit _) => some variation
  | _ => none

namespace FlagOutcome

/-- The experiment rule that has decided. -/
def experiment? (decided : FlagOutcome) : Option Experiment :=
  match decided.rule with
  | some (.experiment, experiment) => some experiment
  | _ => none

/-- The experiment rule that has assigned a variation, with that variation. -/
def assignment? (decided : FlagOutcome) : Option (Experiment × Variation) :=
  decided.experiment?.bind fun experiment => decided.outcome.assigned?.map (experiment, ·)

theorem assignment?_of_experiment?_eq_none {decided : FlagOutcome}
    (noExperiment : decided.experiment? = none) : decided.assignment? = none := by
  rw [assignment?, noExperiment, Option.bind_none]

end FlagOutcome

/-- Remember an assignment, if there is one. -/
def UserProfile.assign (profile : UserProfile) : Option (Experiment × Variation) → UserProfile
  | none => profile
  | some (experiment, variation) => profile.remember experiment.id variation.id

theorem UserProfile.assign_userId (profile : UserProfile)
    (assignment : Option (Experiment × Variation)) :
    (profile.assign assignment).userId = profile.userId := by
  cases assignment <;> rfl

/-- A tracker before and after an assignment, or none, was added to the profile. -/
inductive Tracker.Reaches (store : ProfileStore) (userId : String) (start : Tracker) :
    Option (Experiment × Variation) → Tracker → Prop
  | same : Reaches store userId start none start
  | opened : Reaches store userId start none (start.opened store userId)
  | changed {experiment : Experiment} {variation : Variation} :
      Reaches store userId start (some (experiment, variation))
        (.changed ((start.profile store userId).remember experiment.id variation.id))

theorem Tracker.Reaches.after {store : ProfileStore} {userId : String}
    {start middle finish : Tracker} {assignment : Option (Experiment × Variation)}
    (later : Reaches store userId middle assignment finish)
    (earlier : Reaches store userId start none middle) :
    Reaches store userId start assignment finish := by
  cases earlier with
  | same => exact later
  | opened =>
      cases later with
      | same => exact .opened
      | opened =>
          have again : (start.opened store userId).opened store userId =
              start.opened store userId := by cases start <;> rfl
          rw [again]
          exact .opened
      | changed =>
          rw [profile_opened]
          exact .changed

theorem Tracker.Reaches.profile_eq {store : ProfileStore} {userId : String}
    {start finish : Tracker} {assignment : Option (Experiment × Variation)}
    (reaches : Reaches store userId start assignment finish) :
    finish.profile store userId = (start.profile store userId).assign assignment := by
  cases reaches with
  | same => rfl
  | opened => exact profile_opened store userId start
  | changed => rfl

namespace Context
variable {σ : Type} {context : Context σ} {start middle finish : Progress σ}
  {assignment : Option (Experiment × Variation)} {events : List Event}

/-- Progress before and after an assignment, or none, was added to the profile. Without profiles
the assignment is lost. -/
def Reaches (context : Context σ) (start : Progress σ)
    (assignment : Option (Experiment × Variation)) (finish : Progress σ) : Prop :=
  match context.profiles with
  | none => finish.tracker = start.tracker
  | some store => Tracker.Reaches store context.user.id start.tracker assignment finish.tracker

theorem Reaches.after (later : context.Reaches middle assignment finish)
    (earlier : context.Reaches start none middle) : context.Reaches start assignment finish := by
  simp only [Reaches] at later earlier ⊢
  cases profiles : context.profiles with
  | none =>
      simp only [profiles] at later earlier
      exact later.trans earlier
  | some store =>
      simp only [profiles] at later earlier
      exact later.after earlier

theorem Reaches.profileAt_eq (reaches : context.Reaches start assignment finish) :
    context.profileAt finish = (context.profileAt start).map (·.assign assignment) := by
  simp only [Reaches] at reaches
  simp only [profileAt]
  cases profiles : context.profiles with
  | none => rfl
  | some store =>
      simp only [profiles] at reaches
      simp [reaches.profile_eq]

theorem Reaches.profileAt_eq_of_none (reaches : context.Reaches start none finish) :
    context.profileAt finish = context.profileAt start := by
  simpa only [UserProfile.assign, Option.map_id'] using reaches.profileAt_eq

theorem reaches_self (context : Context σ) (start : Progress σ) :
    context.Reaches start none start := by
  simp only [Reaches]
  cases context.profiles with
  | none => trivial
  | some store => exact .same

theorem reaches_opened (context : Context σ) (start : Progress σ) :
    context.Reaches start none (context.opened start) := by
  simp only [Reaches, opened]
  cases context.profiles with
  | none => trivial
  | some store => exact .opened

/-- What an experiment assigns is what is added to the profile. -/
theorem reaches_recorded (context : Context σ) (experiment : Experiment)
    (variation : Option Variation) {reached : Progress σ}
    (same : reached.tracker = (context.opened start).tracker) :
    context.Reaches start (variation.map (experiment, ·))
      (context.recorded experiment variation reached) := by
  have earlier := context.reaches_opened start
  refine Reaches.after ?_ earlier
  simp only [Reaches, recorded]
  cases profiles : context.profiles with
  | none => exact same
  | some store =>
      cases variation with
      | none => rw [same]; exact .same
      | some variation => rw [same]; exact .changed

theorem Assigned.assigned?_eq {experiment : Experiment} {outcome : Outcome}
    (assigned : Assigned context experiment start outcome events finish) :
    outcome.assigned? = outcome.variation? := by
  cases assigned with
  | hash _ => cases (context.hashed experiment).value <;> rfl
  | outsideShare _ _ _ => rfl
  | bandit _ _ _ =>
      simp only [Experiment.outcomeOf]
      split
      · rfl
      · split <;> rfl

theorem Staged.reaches {experiment : Experiment} {outcome : Outcome}
    (staged : Staged context experiment start outcome events finish) :
    context.Reaches start (outcome.assigned?.map (experiment, ·)) finish := by
  cases staged with
  | inactive _ | override _ _ | whitelist _ _ _ => exact context.reaches_self start
  | sticky _ _ _ _ | outsideAudiences _ _ => exact context.reaches_opened start
  | assigned _ _ assigned =>
      rw [assigned.assigned?_eq]
      exact context.reaches_recorded experiment _ assigned.tracker_eq

theorem Staged.unsettled_of_assigned {experiment : Experiment} {outcome : Outcome}
    {variation : Variation} (staged : Staged context experiment start outcome events finish)
    (assigned : outcome.assigned? = some variation) :
    Unsettled context experiment start := by
  cases staged with
  | inactive _ | override _ _ | whitelist _ _ _ | sticky _ _ _ _ | outsideAudiences _ _ =>
      cases assigned
  | assigned unsettled _ _ => exact unsettled

theorem PassedOver.reaches {flag : Flag} {ids : List String}
    (passed : PassedOver context flag start ids events finish) :
    context.Reaches start none finish := by
  induction passed with
  | nil => exact context.reaches_self _
  | unknown _ _ ih => exact ih
  | undecided _ _ staged _ ih => exact ih.after staged.reaches

theorem RuleDecides.reaches {flag : Flag} {experiment : Experiment} {outcome : Outcome}
    (decides : RuleDecides context flag experiment start outcome events finish) :
    context.Reaches start (outcome.assigned?.map (experiment, ·)) finish := by
  cases decides with
  | forced _ => exact context.reaches_self start
  | staged _ staged _ => exact staged.reaches

theorem experiment?_of_resolveRollout {flag : Flag} {decided : FlagOutcome}
    (served : (context.resolveRollout flag).value = some decided) : decided.experiment? = none := by
  obtain ⟨rule, _, _, byRule, _, _⟩ := servedByRollout_of_resolveRollout served
  simp [FlagOutcome.experiment?, byRule]

/-- Of all layers only an experiment rule that assigns a variation changes the profile. -/
theorem Layered.reaches {flag : Flag} {decided : FlagOutcome}
    (layered : Layered context flag start decided events finish) :
    context.Reaches start decided.assignment? finish := by
  cases layered with
  | forced _ | holdout _ _ _ _ => exact context.reaches_self start
  | experiment _ _ passed _ decides => exact decides.reaches.after passed.reaches
  | rollout _ passed served =>
      rw [FlagOutcome.assignment?_of_experiment?_eq_none (experiment?_of_resolveRollout served)]
      exact passed.reaches
  | nothing _ passed _ => exact passed.reaches

/-- A rule that assigns a variation is known, and the profile does not name a variation of it. -/
theorem Layered.unsettled_of_assigned {flag : Flag} {decided : FlagOutcome}
    {experiment : Experiment} {variation : Variation}
    (layered : Layered context flag start decided events finish)
    (assigned : decided.assignment? = some (experiment, variation)) :
    (∃ id : String, context.config.experimentsById[id]? = some experiment) ∧
      context.storedVariation? experiment start = none := by
  cases layered with
  | forced _ | holdout _ _ _ _ | nothing _ _ _ => cases assigned
  | rollout _ _ served =>
      rw [FlagOutcome.assignment?_of_experiment?_eq_none (experiment?_of_resolveRollout served)]
        at assigned
      cases assigned
  | @experiment _ _ id rule outcome _ _ _ _ _ _ passed known decides =>
      obtain ⟨given, gives, same⟩ := Option.map_eq_some_iff.mp assigned
      cases same
      cases decides with
      | forced _ => cases gives
      | staged _ staged _ =>
          have unsettled := (staged.unsettled_of_assigned gives).notStored
          refine ⟨⟨id, known⟩, ?_⟩
          simpa only [storedVariation?, passed.reaches.profileAt_eq_of_none] using unsettled

end Context
end FeatureFlags
