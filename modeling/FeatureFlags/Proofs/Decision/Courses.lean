import FeatureFlags.Proofs.Decision.Assignments
import FeatureFlags.Proofs.Project.Config

/-!
The course of a call: experiments that are staged one after another, and hashing in between. Nothing
else happens, so that what holds of every single stage holds of the whole call. The profile of the
user ends up with what the experiments on the way have assigned, each of them at most once.
-/

namespace FeatureFlags
open Event

/-- Remember assignments in order. -/
def UserProfile.assignAll (profile : UserProfile) (assigned : List (Experiment × Variation)) :
    UserProfile :=
  assigned.foldl (fun profile assignment => profile.assign (some assignment)) profile

namespace UserProfile
variable (profile : UserProfile) (assigned : List (Experiment × Variation))

theorem assignAll_append (later : List (Experiment × Variation)) :
    profile.assignAll (assigned ++ later) = (profile.assignAll assigned).assignAll later :=
  List.foldl_append

theorem assignAll_toList (assignment : Option (Experiment × Variation)) :
    profile.assignAll assignment.toList = profile.assign assignment := by
  cases assignment <;> rfl

theorem assignAll_userId : (profile.assignAll assigned).userId = profile.userId := by
  induction assigned generalizing profile with
  | nil => rfl
  | cons first rest ih => exact (ih _).trans (profile.assign_userId (some first))

/-- Experiments that are not assigned keep their entry. -/
theorem assignAll_of_forall_ne {experimentId : String}
    (others : ∀ assignment ∈ assigned, assignment.1.id ≠ experimentId) :
    (profile.assignAll assigned).variations[experimentId]? =
      profile.variations[experimentId]? := by
  induction assigned generalizing profile with
  | nil => rfl
  | cons first rest ih =>
      have kept := ih (profile.assign (some first)) fun assignment member =>
        others assignment (List.mem_cons_of_mem _ member)
      exact kept.trans (profile.remember_variations_of_ne _ (others first List.mem_cons_self))

/-- Where each experiment is assigned once, its entry is the variation it was assigned. -/
theorem assignAll_of_mem (once : (assigned.map (·.1.id)).Nodup)
    {assignment : Experiment × Variation} (member : assignment ∈ assigned) :
    (profile.assignAll assigned).variations[assignment.1.id]? = some assignment.2.id := by
  induction assigned generalizing profile with
  | nil => cases member
  | cons first rest ih =>
      obtain ⟨fresh, once⟩ := List.nodup_cons.mp once
      rcases List.mem_cons.mp member with rfl | later
      · have others : ∀ other ∈ rest, other.1.id ≠ assignment.1.id := fun other listed same =>
          fresh (List.mem_map.mpr ⟨other, listed, same⟩)
        have kept := (profile.assign (some assignment)).assignAll_of_forall_ne rest others
        exact kept.trans (profile.remember_variations_self _ _)
      · exact ih (profile.assign (some first)) once later

end UserProfile

theorem Tracker.Reaches.isChanged_eq {store : ProfileStore} {userId : String}
    {start finish : Tracker} {assignment : Option (Experiment × Variation)}
    (reaches : Reaches store userId start assignment finish) :
    finish.isChanged = (start.isChanged || assignment.isSome) := by
  cases reaches with
  | same => simp
  | opened => simp
  | changed => simp [isChanged]

/-- An outcome that the hash or a bandit has come to, be it a variation or a failure. -/
def Outcome.IsComputed (outcome : Outcome) : Prop :=
  outcome.stage? = some .experiment ∨ outcome.stage? = some .bandit

/-- Among these experiments there are no two with one id. -/
def Unambiguous (tried : Experiment → Prop) : Prop :=
  ∀ experiment other, tried experiment → tried other → experiment.id = other.id →
    experiment = other

/-- An experiment that rules can refer to. -/
def Config.Offers (config : Config) (experiment : Experiment) : Prop :=
  ∃ id : String, config.experimentsById[id]? = some experiment

theorem Config.WellIndexed.unambiguous {config : Config} (indexed : config.WellIndexed) :
    Unambiguous config.Offers := by
  rintro experiment other ⟨id, known⟩ ⟨id', known'⟩ same
  have found := indexed.experimentsById_self known
  rw [same, indexed.experimentsById_self known'] at found
  exact (Option.some.inj found).symm

namespace Context
variable {σ : Type}

/-- Experiments that are staged one after another with the variations that they assign, and hashing
in between. -/
inductive Course (context : Context σ) (tried : Experiment → Prop) :
    Progress σ → List (Experiment × Variation) → List Event → Progress σ → Prop
  | nil {start : Progress σ} : Course context tried start [] [] start
  | hashes {start finish : Progress σ} {assigned : List (Experiment × Variation)}
      {events events' : List Event} (hashes : OnlyHashes events)
      (rest : Course context tried start assigned events' finish) :
      Course context tried start assigned (events ++ events') finish
  | staged {start middle finish : Progress σ} {experiment : Experiment} {outcome : Outcome}
      {assigned : List (Experiment × Variation)} {events events' : List Event}
      (isTried : tried experiment)
      (staged : Staged context experiment start outcome events middle)
      (rest : Course context tried middle assigned events' finish) :
      Course context tried start ((outcome.assigned?.map (experiment, ·)).toList ++ assigned)
        (events ++ events') finish

variable {context : Context σ} {tried : Experiment → Prop} {start middle finish : Progress σ}
  {assigned assigned' : List (Experiment × Variation)} {events events' : List Event}

theorem Course.append (first : Course context tried start assigned events middle)
    (second : Course context tried middle assigned' events' finish) :
    Course context tried start (assigned ++ assigned') (events ++ events') finish := by
  induction first with
  | nil => exact second
  | hashes hashes _ ih =>
      rw [List.append_assoc]
      exact .hashes hashes (ih second)
  | staged isTried staged _ ih =>
      rw [List.append_assoc, List.append_assoc]
      exact .staged isTried staged (ih second)

theorem Course.ofHashes (hashes : OnlyHashes events) :
    Course context tried start [] events start := by
  have course : Course context tried start [] (events ++ []) start := .hashes hashes .nil
  rwa [List.append_nil] at course

theorem Course.ofStaged {experiment : Experiment} {outcome : Outcome}
    (isTried : tried experiment)
    (staged : Staged context experiment start outcome events finish) :
    Course context tried start (outcome.assigned?.map (experiment, ·)).toList events finish := by
  simpa only [List.append_nil] using Course.staged isTried staged .nil

theorem PassedOver.course {flag : Flag} {ids : List String}
    (passed : PassedOver context flag start ids events finish) :
    Course context context.config.Offers start [] events finish := by
  induction passed with
  | nil => exact .nil
  | unknown _ _ ih => exact ih
  | undecided known _ staged _ ih => exact .staged ⟨_, known⟩ staged ih

theorem RuleDecides.course {flag : Flag} {experiment : Experiment} {outcome : Outcome}
    (offered : context.config.Offers experiment)
    (decides : RuleDecides context flag experiment start outcome events finish) :
    Course context context.config.Offers start (outcome.assigned?.map (experiment, ·)).toList
      events finish := by
  cases decides with
  | forced _ => exact .nil
  | staged _ staged _ => exact .ofStaged offered staged

theorem Layered.course {flag : Flag} {decided : FlagOutcome}
    (layered : Layered context flag start decided events finish) :
    Course context context.config.Offers start decided.assignment?.toList events finish := by
  have holdouts (looked : List Holdout) : OnlyHashes (looked.flatMap context.holdoutEvents) :=
    OnlyHashes.flatMap context.onlyHashes_holdoutEvents looked
  cases layered with
  | forced _ => exact .nil
  | holdout _ _ _ _ => exact .ofHashes (holdouts _)
  | experiment _ _ passed known decides =>
      exact .hashes (holdouts _) (passed.course.append (decides.course ⟨_, known⟩))
  | rollout _ passed served =>
      rw [FlagOutcome.assignment?_of_experiment?_eq_none (experiment?_of_resolveRollout served)]
      exact .hashes (holdouts _)
        (passed.course.append (.ofHashes (context.onlyHashes_resolveRollout flag)))
  | nothing _ passed _ =>
      exact .hashes (holdouts _)
        (passed.course.append (.ofHashes (context.onlyHashes_resolveRollout flag)))

/-- What is computed for a rule is computed by the stages of its experiment. -/
theorem Layered.staged_of_computed {flag : Flag} {decided : FlagOutcome} {ruleType : RuleType}
    {experiment : Experiment} (layered : Layered context flag start decided events finish)
    (byRule : decided.rule = some (ruleType, experiment))
    (computed : decided.outcome.IsComputed) :
    ∃ start events finish, Staged context experiment start decided.outcome events finish := by
  cases layered with
  | forced _ | nothing _ _ _ => cases byRule
  | holdout _ _ _ _ => rcases computed with stage | stage <;> cases stage
  | experiment _ _ _ _ decides =>
      cases byRule
      cases decides with
      | forced _ => rcases computed with stage | stage <;> cases stage
      | staged _ staged _ => exact ⟨_, _, _, staged⟩
  | rollout _ _ served =>
      obtain ⟨_, _, _, _, outcome, fromRollout | fromRollout⟩ :=
        servedByRollout_of_resolveRollout served <;>
      · rw [outcome, fromRollout] at computed
        rcases computed with stage | stage <;> cases stage

/-- The profile at the end is the one at the beginning with all assignments. -/
theorem Course.profileAt_eq (course : Course context tried start assigned events finish) :
    context.profileAt finish = (context.profileAt start).map (·.assignAll assigned) := by
  induction course with
  | nil => exact Option.map_id'.symm
  | hashes _ _ ih => exact ih
  | staged _ staged _ ih =>
      rw [ih, staged.reaches.profileAt_eq, Option.map_map]
      congr 1
      funext profile
      simp only [Function.comp_apply, UserProfile.assignAll_append, UserProfile.assignAll_toList]

/-- With profiles, an assignment is what leaves a profile to be saved. -/
theorem Course.isChanged_eq {store : ProfileStore} (profiles : context.profiles = some store)
    (course : Course context tried start assigned events finish) :
    finish.tracker.isChanged = (start.tracker.isChanged || !assigned.isEmpty) := by
  induction course with
  | nil => simp
  | hashes _ _ ih => exact ih
  | @staged _ _ _ _ outcome _ _ _ _ staged _ ih =>
      have reaches := staged.reaches
      simp only [Reaches, profiles] at reaches
      rw [ih, reaches.isChanged_eq, Bool.or_assoc]
      cases outcome.assigned? <;> simp

/-- A call that has assigned anything holds the profile that it found, with these assignments. -/
theorem Course.tracker_of_assigned {store : ProfileStore} (profiles : context.profiles = some store)
    (idle : start.tracker = .idle)
    (course : Course context tried start assigned events finish) (assigns : assigned ≠ []) :
    finish.tracker = .changed ((store.profileOf context.user.id).assignAll assigned) := by
  have changed := course.isChanged_eq profiles
  have profile := course.profileAt_eq
  rw [idle] at changed
  simp only [profileAt, profiles, idle, Option.map_some, Option.some.injEq] at profile
  cases reached : finish.tracker with
  | idle | loaded _ =>
      rw [reached] at changed
      simp [Tracker.isChanged, assigns] at changed
  | changed final =>
      rw [reached] at profile
      exact congrArg Tracker.changed profile

/-- Whatever is assigned is assigned by an experiment that is staged on the way. -/
theorem Course.staged_of_mem (course : Course context tried start assigned events finish)
    {assignment : Experiment × Variation} (member : assignment ∈ assigned) :
    tried assignment.1 ∧ ∃ start outcome events finish,
      Staged context assignment.1 start outcome events finish ∧
        outcome.assigned? = some assignment.2 := by
  induction course with
  | nil => cases member
  | hashes _ _ ih => exact ih member
  | staged isTried staged _ ih =>
      rcases List.mem_append.mp member with here | later
      · obtain ⟨variation, gives, rfl⟩ :=
          Option.map_eq_some_iff.mp (Option.mem_toList.mp here)
        exact ⟨isTried, _, _, _, _, staged, gives⟩
      · exact ih later

theorem Assigned.variationById?_self {experiment : Experiment} {outcome : Outcome}
    {variation : Variation}
    (assigned : Assigned context experiment start outcome events finish)
    (gives : outcome.assigned? = some variation) :
    experiment.variationById? variation.id = some variation := by
  cases assigned with
  | hash _ =>
      cases bucketed : (context.hashed experiment).value with
      | none => rw [bucketed] at gives; cases gives
      | some found =>
          rw [bucketed] at gives
          cases gives
          exact Bucketing.variationById?_of_bucket _ _ _ _ bucketed
  | outsideShare _ _ _ => cases gives
  | bandit _ _ _ =>
      simp only [Experiment.outcomeOf] at gives
      split at gives
      · cases gives
      · split at gives
        · cases gives
        · rename_i found
          cases gives
          exact Experiment.variationById?_self found

/-- An assigned variation is the one that the experiment has under its id. -/
theorem Staged.variationById?_self {experiment : Experiment} {outcome : Outcome}
    {variation : Variation} (staged : Staged context experiment start outcome events finish)
    (gives : outcome.assigned? = some variation) :
    experiment.variationById? variation.id = some variation := by
  cases staged with
  | inactive _ | override _ _ | whitelist _ _ _ | sticky _ _ _ _ | outsideAudiences _ _ =>
      cases gives
  | assigned _ _ assigned => exact assigned.variationById?_self gives

/-- What an experiment has just assigned is found again as its stored variation. -/
theorem storedVariation?_remembered {profile : UserProfile} {experiment : Experiment}
    {variation : Variation}
    (reached : context.profileAt middle = some (profile.remember experiment.id variation.id))
    (own : experiment.variationById? variation.id = some variation) :
    context.storedVariation? experiment middle = some variation := by
  rw [storedVariation?, reached, Option.bind_some, UserProfile.variationOf?,
    UserProfile.remember_variations_self, Option.bind_some, own]

theorem storedVariation?_of_remembered_of_ne {profile : UserProfile} {experimentId id : String}
    {experiment : Experiment} (found : context.profileAt start = some profile)
    (reached : context.profileAt middle = some (profile.remember experimentId id))
    (different : experimentId ≠ experiment.id) :
    context.storedVariation? experiment middle = context.storedVariation? experiment start := by
  rw [storedVariation?, storedVariation?, reached, found, Option.bind_some, Option.bind_some,
    UserProfile.variationOf?_remember_of_ne profile id different]

/-- With profiles, no experiment is assigned twice, nor one of which the profile names a variation
from the beginning. -/
theorem Course.assigned_once {store : ProfileStore} (profiles : context.profiles = some store)
    (unambiguous : Unambiguous tried)
    (course : Course context tried start assigned events finish) :
    (assigned.map (·.1.id)).Nodup ∧
      ∀ assignment ∈ assigned, context.storedVariation? assignment.1 start = none := by
  induction course with
  | nil => simp
  | hashes _ _ ih => exact ih
  | @staged start middle _ experiment outcome rest _ _ isTried staged course ih =>
      obtain ⟨once, vacant⟩ := ih
      obtain ⟨profile, found⟩ : ∃ profile, context.profileAt start = some profile :=
        ⟨_, by rw [profileAt, profiles, Option.map_some]⟩
      have reached := staged.reaches.profileAt_eq
      rw [found, Option.map_some] at reached
      cases gives : outcome.assigned? with
      | none =>
          rw [gives, Option.map_none, UserProfile.assign, ← found] at reached
          simpa only [Option.map_none, Option.toList_none, List.nil_append, storedVariation?,
            reached] using And.intro once vacant
      | some variation =>
          rw [gives, Option.map_some, UserProfile.assign] at reached
          -- Later the experiment has a stored variation, so it cannot be among the rest.
          have named := storedVariation?_remembered reached (staged.variationById?_self gives)
          have others : ∀ assignment ∈ rest, experiment.id ≠ assignment.1.id := by
            intro assignment member same
            have again := unambiguous _ _ isTried (course.staged_of_mem member).1 same
            have absent := vacant assignment member
            rw [← again, named] at absent
            cases absent
          simp only [Option.map_some, Option.toList_some, List.singleton_append, List.map_cons,
            List.nodup_cons, List.forall_mem_cons]
          refine ⟨⟨fun listed => ?_, once⟩, (staged.unsettled_of_assigned gives).notStored, ?_⟩
          · obtain ⟨assignment, member, same⟩ := List.mem_map.mp listed
            exact others assignment member same.symm
          · intro assignment later
            rw [← storedVariation?_of_remembered_of_ne found reached (others assignment later)]
            exact vacant assignment later

end Context
end FeatureFlags
