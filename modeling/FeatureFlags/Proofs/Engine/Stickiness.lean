import FeatureFlags.Proofs.Decision.StoreUpdates
import FeatureFlags.Proofs.Engine.Calls

/-!
Variations stick. Once a profile names a variation of an experiment, no call changes that, as long as
the experiment has the variation: an experiment only adds a variation to a profile that does not name
one of its variations yet.
-/

namespace FeatureFlags

namespace ProfileStore
variable {store : ProfileStore} {userId experimentId variationId : String}

/-- A working store of which the profile of a user names a variation of an experiment. -/
structure Remembers (store : ProfileStore) (userId experimentId variationId : String) : Prop where
  inMemory : store.InMemory
  filed : ∀ userId, store.Filed userId
  entry : (store.profileOf userId).variations[experimentId]? = some variationId

theorem profileOf_put_of_ne (inMemory : store.InMemory) {profile : UserProfile}
    (different : profile.userId ≠ userId) :
    (store.put profile).profileOf userId = store.profileOf userId := by
  rw [profileOf, (inMemory.put profile).lookup_eq, profiles_put_of_ne store profile different,
    profileOf, inMemory.lookup_eq]

theorem entry_assign (inMemory : store.InMemory) {caller : String} (filed : store.Filed caller)
    {assignment : Option (Experiment × Variation)}
    (other : ∀ rule given, assignment = some (rule, given) → caller = userId →
      rule.id ≠ experimentId) :
    ((store.assign caller assignment).profileOf userId).variations[experimentId]? =
      (store.profileOf userId).variations[experimentId]? := by
  cases assignment with
  | none => rfl
  | some assignment =>
      by_cases same : caller = userId
      · have different := other _ _ rfl same
        rw [← same, profileOf_assign inMemory filed]
        exact UserProfile.remember_variations_of_ne _ _ different
      · have elsewhere : ((store.profileOf caller).remember assignment.1.id
            assignment.2.id).userId ≠ userId := by
          rw [UserProfile.remember_userId, filed.profileOf_userId]
          exact same
        rw [ProfileStore.assign, profileOf_put_of_ne inMemory elsewhere]

theorem remembers_assign (inMemory : store.InMemory) (filed : ∀ userId, store.Filed userId)
    (userId : String) (experiment : Experiment) (variation : Variation) :
    (store.assign userId (some (experiment, variation))).Remembers userId experiment.id
      variation.id := by
  refine ⟨inMemory.assign _ _, fun owner => (filed owner).put _, ?_⟩
  rw [profileOf_assign inMemory (filed userId)]
  exact UserProfile.remember_variations_self _ _ _

theorem Remembers.assign (remembers : store.Remembers userId experimentId variationId)
    {caller : String} {assignment : Option (Experiment × Variation)}
    (other : ∀ rule given, assignment = some (rule, given) → caller = userId →
      rule.id ≠ experimentId) :
    (store.assign caller assignment).Remembers userId experimentId variationId := by
  obtain ⟨inMemory, filed, entry⟩ := remembers
  refine ⟨inMemory.assign caller assignment, fun owner => ?_, ?_⟩
  · cases assignment with
    | none => exact filed owner
    | some _ => exact (filed owner).put _
  · rw [entry_assign inMemory (filed caller) other]
    exact entry

end ProfileStore

namespace Context
variable {σ : Type} {context : Context σ} {store : ProfileStore} {start finish : Progress σ}
  {events : List Event} {userId experimentId variationId : String}

/-- What holds of the profile of the user all along: once it is saved, the store remembers. -/
structure Sticks (context : Context σ) (store : ProfileStore)
    (userId experimentId variationId : String) (progress : Progress σ) : Prop where
  faithful : progress.tracker.Faithful store context.user.id
  remembers : (progress.tracker.saved store).Remembers userId experimentId variationId

theorem Reaches.sticks (profiles : context.profiles = some store) (inMemory : store.InMemory)
    (keeps : context.config.Keeps experimentId variationId)
    {assignment : Option (Experiment × Variation)}
    (reaches : context.Reaches start assignment finish)
    (vacant : ∀ rule given, assignment = some (rule, given) →
      context.config.Knows rule ∧ context.storedVariation? rule start = none)
    (sticks : context.Sticks store userId experimentId variationId start) :
    context.Sticks store userId experimentId variationId finish := by
  obtain ⟨faithful, remembers⟩ := sticks
  simp only [Reaches, profiles] at reaches
  refine ⟨reaches.faithful inMemory faithful, ?_⟩
  rw [reaches.saved_eq faithful]
  refine remembers.assign fun rule given assigned owner same => ?_
  obtain ⟨known, notStored⟩ := vacant rule given assigned
  have entry := remembers.entry
  rw [← owner, faithful.saved, ← same] at entry
  simp only [storedVariation?, profileAt, profiles, Option.map_some, Option.bind_some,
    UserProfile.variationOf?, entry] at notStored
  -- The experiment was assigned since nothing was stored, but it has the variation that is.
  have kept := keeps rule known same
  rw [notStored] at kept
  cases kept

theorem Staged.sticks (profiles : context.profiles = some store) (inMemory : store.InMemory)
    (keeps : context.config.Keeps experimentId variationId) {experiment : Experiment}
    (known : context.config.Knows experiment) {outcome : Outcome}
    (staged : Staged context experiment start outcome events finish)
    (sticks : context.Sticks store userId experimentId variationId start) :
    context.Sticks store userId experimentId variationId finish := by
  refine staged.reaches.sticks profiles inMemory keeps (fun rule given assigned => ?_) sticks
  obtain ⟨variation, gives, same⟩ := Option.map_eq_some_iff.mp assigned
  cases same
  exact ⟨known, (staged.unsettled_of_assigned gives).notStored⟩

theorem Layered.sticks (profiles : context.profiles = some store) (inMemory : store.InMemory)
    (keeps : context.config.Keeps experimentId variationId) {flag : Flag} {decided : FlagOutcome}
    (layered : Layered context flag start decided events finish)
    (sticks : context.Sticks store userId experimentId variationId start) :
    context.Sticks store userId experimentId variationId finish := by
  refine layered.reaches.sticks profiles inMemory keeps (fun rule given assigned => ?_) sticks
  obtain ⟨⟨id, known⟩, notStored⟩ := layered.unsettled_of_assigned assigned
  exact ⟨⟨id, .inl known⟩, notStored⟩

theorem Answered.sticks (profiles : context.profiles = some store) (inMemory : store.InMemory)
    (keeps : context.config.Keeps experimentId variationId) {keys : List String}
    {answers : List Answer} (answered : Answered context start keys answers events finish)
    (sticks : context.Sticks store userId experimentId variationId start) :
    context.Sticks store userId experimentId variationId finish := by
  induction answered with
  | nil => exact sticks
  | unknown _ _ ih => exact ih sticks
  | known _ layered _ ih => exact ih (layered.sticks profiles inMemory keeps sticks)

end Context
end FeatureFlags
