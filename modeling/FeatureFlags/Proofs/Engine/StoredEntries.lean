import FeatureFlags.Proofs.Engine.ProfileUpdates
import FeatureFlags.Proofs.Profile.Entries

/-!
What becomes of the entries that the store has for the user of a query. Those that the query does
not assign are kept. Only a profile that could not be found or read counts as an empty one, and so is
replaced by the assignments of the query.
-/

namespace FeatureFlags

namespace ProfileStore

theorem variationId?_put_self (store : ProfileStore) (profile : UserProfile)
    (experimentId : String) :
    (store.put profile).variationId? profile.userId experimentId =
      profile.variations[experimentId]? := by
  rw [variationId?, profiles_put_self, Option.bind_some, UserProfile.variationId?_toStored]

theorem variationId?_put_of_ne (store : ProfileStore) {profile : UserProfile} {userId : String}
    (different : profile.userId ≠ userId) (experimentId : String) :
    (store.put profile).variationId? userId experimentId =
      store.variationId? userId experimentId := by
  rw [variationId?, profiles_put_of_ne store profile different, variationId?]

/-- A profile that was read is put back with all entries that are not assigned. -/
theorem variationId?_put_assignAll {store : ProfileStore} {userId experimentId : String}
    (readable : store.Readable userId) {assigned : List (Experiment × Variation)}
    (others : ∀ assignment ∈ assigned, assignment.1.id ≠ experimentId) :
    (store.put ((store.profileOf userId).assignAll assigned)).variationId? userId experimentId =
      store.variationId? userId experimentId := by
  by_cases own : ((store.profileOf userId).assignAll assigned).userId = userId
  · have put :=
      store.variationId?_put_self ((store.profileOf userId).assignAll assigned) experimentId
    rw [own] at put
    rw [put, UserProfile.assignAll_of_forall_ne _ _ others, readable.variationId?_eq]
  · exact store.variationId?_put_of_ne own experimentId

theorem attempt_of_saveFault {store : ProfileStore} (fails : store.saveFault ≠ none)
    (profile : UserProfile) : store.attempt profile = store := by
  rw [attempt]
  split
  · rfl
  · contradiction

theorem attempt_of_no_saveFault {store : ProfileStore} (saves : store.saveFault = none)
    (profile : UserProfile) : store.attempt profile = store.put profile := by
  rw [attempt, saves]

/-- A profile that could not be read is replaced by a new one with the assignments alone. -/
theorem profiles_put_of_not_readable {store : ProfileStore} {userId : String}
    (unreadable : ¬ store.Readable userId) (assigned : List (Experiment × Variation)) :
    (store.put ((store.profileOf userId).assignAll assigned)).profiles[userId]? =
      some (({ userId } : UserProfile).assignAll assigned).toStored := by
  have put := store.profiles_put_self (({ userId } : UserProfile).assignAll assigned)
  rw [UserProfile.assignAll_userId] at put
  rwa [profileOf_of_not_readable unreadable]

end ProfileStore

namespace Engine
variable {σ : Type}

/-- A query keeps the entries of the user that it does not assign, unless the lookup of the profile
fails or gives something malformed. Then a query that assigns anything saves its assignments alone:
if profiles are not ignored and the save succeeds, they are all that is stored for the user. -/
theorem entries_kept_of_readable (engine : Engine σ) (state : EngineState σ) (config : Config)
    (user : User) (options : DecideOptions) {store : ProfileStore}
    (provided : state.profiles = some store) (query : Query) :
    let call := engine.ask state config user options query
    let assigned := engine.assignments state config user options query
    let replaced := (({ userId := user.id } : UserProfile).assignAll assigned).toStored
    ∃ after, call.state.profiles = some after ∧
      (∀ experimentId variationId, store.variationId? user.id experimentId = some variationId →
        (∀ assignment ∈ assigned, assignment.1.id ≠ experimentId) →
        after.variationId? user.id experimentId = some variationId ∨
          (¬ store.Readable user.id ∧ assigned ≠ [] ∧ store.saveFault = none ∧
            after.profiles[user.id]? = some replaced)) ∧
      ((engine.effectiveOptions options).contains .ignoreProfiles = false →
        ¬ store.Readable user.id → assigned ≠ [] → store.saveFault = none →
        after.profiles[user.id]? = some replaced) := by
  intro call assigned replaced
  rcases writes_ask engine state config user options provided query with
    ⟨idle, kept, _⟩ | ⟨assigns, left, _⟩
  · refine ⟨store, kept, fun _ _ held _ => .inl held, fun heeded _ assigns _ => ?_⟩
    rcases idle with ignored | nothing
    · cases heeded.symm.trans ignored
    · exact absurd nothing assigns
  · refine ⟨_, left, fun experimentId variationId held others => ?_, fun _ unreadable _ saves => ?_⟩
    · by_cases saves : store.saveFault = none
      · rw [ProfileStore.attempt_of_no_saveFault saves]
        by_cases readable : store.Readable user.id
        · exact .inl ((ProfileStore.variationId?_put_assignAll readable others).trans held)
        · exact .inr ⟨readable, assigns, saves,
            ProfileStore.profiles_put_of_not_readable readable assigned⟩
      · rw [ProfileStore.attempt_of_saveFault saves]
        exact .inl held
    · rw [ProfileStore.attempt_of_no_saveFault saves]
      exact ProfileStore.profiles_put_of_not_readable unreadable assigned

namespace Sample

/-- The user was given a variation before, but lookups fail. -/
def unreachable : EngineState Unit :=
  { profiles := some
      { ProfileStore.put {} { userId := "user", variations := .ofPairs [("10", "1")] } with
        lookupFault := some "storage unavailable" }
    bandit := () }

/-- The user was given a variation before, but another entry of the profile is malformed. -/
def spoiled : EngineState Unit :=
  { profiles := some
      { profiles := .ofPairs [("user", .ofPairs [("user_id", .string "user"),
          ("experiment_bucket_map", .object [("10", UserProfile.storeVariation "1"),
            ("11", .null)])])] }
    bandit := () }

end Sample

/-- An entry of a visitor is still there when they are given another variation. If another entry of
theirs is malformed, the new variation is all that is left. -/
theorem entries_kept_of_visitor :
    let query : Query := .getVariation "everyone"
    let left (state : EngineState Unit) :=
      (Sample.first.ask state Sample.openProject { id := "user" } ∅ query).state.profiles
    (∃ store after, Sample.visited.profiles = some store ∧
      store.variationId? "user" "10" = some "1" ∧ left Sample.visited = some after ∧
      after.variationId? "user" "10" = some "1") ∧
    ∃ after, left Sample.spoiled = some after ∧ after.profiles["user"]? =
      some ({ userId := "user", variations := .ofPairs [("20", "1")] } : UserProfile).toStored := by
  intro query left
  constructor
  · obtain ⟨after, still, kept, _⟩ := entries_kept_of_readable Sample.first Sample.visited
      Sample.openProject { id := "user" } ∅ rfl query
    have held : (ProfileStore.put {}
        { userId := "user", variations := .ofPairs [("10", "1")] }).variationId?
        "user" "10" = some "1" := by
      rw [ProfileStore.variationId?_put_self]
      rfl
    have others : ∀ assignment ∈ Sample.first.assignments Sample.visited Sample.openProject
        { id := "user" } ∅ query, assignment.1.id ≠ "10" := by
      intro assignment member
      cases List.mem_singleton.mp member
      decide
    refine ⟨_, after, rfl, held, still, ?_⟩
    rcases kept "10" "1" held others with still | ⟨unreadable, _⟩
    · exact still
    · exact absurd ⟨rfl, fun stored found => by cases found; rfl⟩ unreadable
  · obtain ⟨after, still, _, replaced⟩ := entries_kept_of_readable Sample.first Sample.spoiled
      Sample.openProject { id := "user" } ∅ rfl query
    refine ⟨after, still, replaced rfl ?_ (List.cons_ne_nil _ _) rfl⟩
    rintro ⟨_, reads⟩
    cases reads _ rfl

/-- The entry is lost if the lookup fails, or if another entry is malformed. -/
theorem entries_lost_on_bad_lookup :
    let query : Query := .getVariation "everyone"
    let held (state : EngineState Unit) := state.profiles.bind (·.variationId? "user" "10")
    let assigned (state : EngineState Unit) :=
      (Sample.first.assignments state Sample.openProject { id := "user" } ∅ query).map (·.1.id)
    let left (state : EngineState Unit) :=
      (Sample.first.ask state Sample.openProject { id := "user" } ∅ query).state
    (held Sample.unreachable = some "1" ∧ assigned Sample.unreachable = ["20"] ∧
      held (left Sample.unreachable) = none) ∧
    (held Sample.spoiled = some "1" ∧ assigned Sample.spoiled = ["20"] ∧
      held (left Sample.spoiled) = none) :=
  ⟨⟨rfl, rfl, rfl⟩, ⟨rfl, rfl, rfl⟩⟩

end Engine
end FeatureFlags
