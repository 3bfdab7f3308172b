import FeatureFlags.Proofs.Decision.Resticking

/-!
Assignments as they reach the store. A tracker that is saved at the end of a call leaves the store
that single assignments would have left, and assignments of several flags reach the store in any
order.
-/

namespace FeatureFlags

namespace ProfileStore
variable {store : ProfileStore} {userId : String}

/-- Add an assignment, if there is one, to the stored profile of a user. -/
def assign (store : ProfileStore) (userId : String) :
    Option (Experiment × Variation) → ProfileStore
  | none => store
  | some (experiment, variation) =>
    store.put ((store.profileOf userId).remember experiment.id variation.id)

theorem InMemory.assign (inMemory : store.InMemory) (userId : String)
    (assignment : Option (Experiment × Variation)) : (store.assign userId assignment).InMemory := by
  cases assignment with
  | none => exact inMemory
  | some _ => exact inMemory.put _

theorem Filed.assign (filed : store.Filed userId)
    (assignment : Option (Experiment × Variation)) :
    (store.assign userId assignment).Filed userId := by
  cases assignment with
  | none => exact filed
  | some _ => exact filed.put _

theorem profileOf_assign (inMemory : store.InMemory) (filed : store.Filed userId)
    (assignment : Option (Experiment × Variation)) :
    (store.assign userId assignment).profileOf userId =
      (store.profileOf userId).assign assignment := by
  cases assignment with
  | none => rfl
  | some assignment =>
      have own : ((store.profileOf userId).remember assignment.1.id assignment.2.id).userId =
          userId := filed.profileOf_userId
      have found := profileOf_put inMemory
        ((store.profileOf userId).remember assignment.1.id assignment.2.id)
      rw [own] at found
      exact found

theorem assign_assign (inMemory : store.InMemory) (filed : store.Filed userId)
    (first second : Experiment × Variation) :
    (store.assign userId (some first)).assign userId (some second) =
      store.put (((store.profileOf userId).remember first.1.id first.2.id).remember
        second.1.id second.2.id) := by
  have found := profileOf_assign inMemory filed (some first)
  rw [ProfileStore.assign, found]
  exact put_put store rfl

theorem assign_comm (inMemory : store.InMemory) (filed : store.Filed userId)
    {first second : Experiment × Variation} (different : first.1.id ≠ second.1.id) :
    (store.assign userId (some first)).assign userId (some second) =
      (store.assign userId (some second)).assign userId (some first) := by
  rw [assign_assign inMemory filed, assign_assign inMemory filed,
    UserProfile.remember_comm _ _ _ different]

end ProfileStore

namespace Tracker
variable {store : ProfileStore} {userId : String} {start finish : Tracker}
  {assignment : Option (Experiment × Variation)}

/-- A tracker that stands for the profile that the store holds once the tracker is saved. -/
structure Faithful (store : ProfileStore) (userId : String) (tracker : Tracker) : Prop where
  saved : (tracker.saved store).profileOf userId = tracker.profile store userId
  userId : (tracker.profile store userId).userId = userId

theorem faithful_idle (filed : store.Filed userId) : Faithful store userId .idle :=
  ⟨rfl, filed.profileOf_userId⟩

/-- Saving once at the end is as good as saving after every assignment. -/
theorem Reaches.saved_eq (faithful : Faithful store userId start)
    (reaches : Reaches store userId start assignment finish) :
    finish.saved store = (start.saved store).assign userId assignment := by
  cases reaches with
  | same => rfl
  | opened => exact saved_opened userId store start
  | @changed experiment variation =>
      rw [ProfileStore.assign, faithful.saved]
      cases start with
      | idle | loaded _ => rfl
      | changed profile =>
          -- The changed profile is put twice, and only the last one stays.
          exact (ProfileStore.put_put store (UserProfile.remember_userId profile _ _).symm).symm

theorem Reaches.faithful (inMemory : store.InMemory) (faithful : Faithful store userId start)
    (reaches : Reaches store userId start assignment finish) : Faithful store userId finish := by
  have own : (finish.profile store userId).userId = userId := by
    rw [reaches.profile_eq, UserProfile.assign_userId]
    exact faithful.userId
  refine ⟨?_, own⟩
  cases reaches with
  | same => exact faithful.saved
  | opened =>
      rw [saved_opened, profile_opened]
      exact faithful.saved
  | @changed experiment variation =>
      have found := ProfileStore.profileOf_put inMemory
        ((start.profile store userId).remember experiment.id variation.id)
      rw [UserProfile.remember_userId, faithful.userId] at found
      exact found

end Tracker

namespace Context
variable {σ : Type} {context : Context σ} {store : ProfileStore}

/-- What a decision on a flag without a bandit adds to the stored profile. -/
def addition? (context : Context σ) (store : ProfileStore) (flag : Flag) :
    Option (Experiment × Variation) :=
  (context.flagOutcome flag (some (store.profileOf context.user.id))).assignment?

/-- The store after a decision on a flag without a bandit. -/
def storeAfter (context : Context σ) (store : ProfileStore) (flag : Flag) : ProfileStore :=
  store.assign context.user.id (context.addition? store flag)

theorem storeAfter_withProfiles (context : Context σ) (profiles : Option ProfileStore)
    (store : ProfileStore) (flag : Flag) :
    { context with profiles }.storeAfter store flag = context.storeAfter store flag := by
  simp only [storeAfter, addition?, flagOutcome_withProfiles]

section Two
variable {experiment experiment' : Experiment} {variation variation' : Variation}

theorem storeAfter_of_none {flag : Flag} (nothing : context.addition? store flag = none) :
    context.storeAfter store flag = store := by
  rw [storeAfter, nothing, ProfileStore.assign]

theorem addition?_put (indexed : context.config.WellIndexed) (inMemory : store.InMemory)
    (filed : store.Filed context.user.id) {first : Flag}
    (added : context.addition? store first = some (experiment, variation)) (second : Flag) :
    context.addition? (context.storeAfter store first) second =
      (context.addition? store second).filter (·.1.id ≠ experiment.id) := by
  have assigns := (assigns_of_flagOutcome indexed added).1
  rw [storeAfter, added, addition?, ProfileStore.profileOf_assign inMemory filed]
  exact assignment?_remember indexed assigns second

/-- A flag that would add nothing adds nothing after another one either. -/
theorem addition?_of_none (indexed : context.config.WellIndexed) (inMemory : store.InMemory)
    (filed : store.Filed context.user.id) (first : Flag) {second : Flag}
    (nothing : context.addition? store second = none) :
    context.addition? (context.storeAfter store first) second = none := by
  cases added : context.addition? store first with
  | none => rw [storeAfter_of_none added, nothing]
  | some assignment => rw [addition?_put indexed inMemory filed added, nothing, Option.filter_none]

/-- Two flags with the same experiment assign it once. -/
theorem storeAfter_comm_of_same (indexed : context.config.WellIndexed)
    (inMemory : store.InMemory) (filed : store.Filed context.user.id) {first second : Flag}
    (added : context.addition? store first = some (experiment, variation))
    (added' : context.addition? store second = some (experiment', variation'))
    (same : experiment.id = experiment'.id) :
    context.storeAfter (context.storeAfter store first) second =
      context.storeAfter (context.storeAfter store second) first := by
  have assigns := (assigns_of_flagOutcome indexed added).1
  have assigns' := (assigns_of_flagOutcome indexed added').1
  obtain ⟨rfl, rfl⟩ := assigns.unique assigns' same
  have next : context.addition? (context.storeAfter store first) second = none := by
    simp [addition?_put indexed inMemory filed added, added', Option.filter_some]
  have next' : context.addition? (context.storeAfter store second) first = none := by
    simp [addition?_put indexed inMemory filed added', added, Option.filter_some]
  rw [storeAfter_of_none next, storeAfter_of_none next', storeAfter, storeAfter, added, added']

theorem storeAfter_comm_of_ne (indexed : context.config.WellIndexed)
    (inMemory : store.InMemory) (filed : store.Filed context.user.id) {first second : Flag}
    (added : context.addition? store first = some (experiment, variation))
    (added' : context.addition? store second = some (experiment', variation'))
    (different : experiment.id ≠ experiment'.id) :
    context.storeAfter (context.storeAfter store first) second =
      context.storeAfter (context.storeAfter store second) first := by
  have next : context.addition? (context.storeAfter store first) second =
      some (experiment', variation') := by
    simp [addition?_put indexed inMemory filed added, added', Option.filter_some, different.symm]
  have next' : context.addition? (context.storeAfter store second) first =
      some (experiment, variation) := by
    simp [addition?_put indexed inMemory filed added', added, Option.filter_some, different]
  rw [storeAfter, next, storeAfter, added, storeAfter, next', storeAfter, added']
  exact ProfileStore.assign_comm inMemory filed different

/-- Decisions on two flags leave the same store in either order. -/
theorem storeAfter_comm (indexed : context.config.WellIndexed) (inMemory : store.InMemory)
    (filed : store.Filed context.user.id) (first second : Flag) :
    context.storeAfter (context.storeAfter store first) second =
      context.storeAfter (context.storeAfter store second) first := by
  cases added : context.addition? store first with
  | none =>
      have still := addition?_of_none indexed inMemory filed second added
      rw [storeAfter_of_none added, storeAfter_of_none still]
  | some assignment =>
      cases added' : context.addition? store second with
      | none =>
          have still := addition?_of_none indexed inMemory filed first added'
          rw [storeAfter_of_none added', storeAfter_of_none still]
      | some assignment' =>
          -- With one experiment the second decision finds what the first one stored.
          by_cases same : assignment.1.id = assignment'.1.id
          · exact storeAfter_comm_of_same indexed inMemory filed added added' same
          · exact storeAfter_comm_of_ne indexed inMemory filed added added' same

end Two

end Context
end FeatureFlags
