import FeatureFlags.Proofs.Engine.ProfileCalls

/-!
What a query writes to the profile store: nothing, or the profile that it found for the user with
its assignments. That profile is put under the user id that it names, which is another one than the
caller's if a profile of somebody else is stored for the caller.
-/

namespace FeatureFlags

namespace ProfileStore

/-- The store after an attempt to save a profile. -/
def attempt (store : ProfileStore) (profile : UserProfile) : ProfileStore :=
  match store.saveFault with
  | some _ => store
  | none => store.put profile

theorem profiles_attempt_of_ne (store : ProfileStore) {profile : UserProfile} {userId : String}
    (different : profile.userId ≠ userId) :
    (store.attempt profile).profiles[userId]? = store.profiles[userId]? := by
  simp only [attempt]
  split
  · rfl
  · exact store.profiles_put_of_ne profile different

theorem value_finish_changed (store : ProfileStore) (userId : String) (profile : UserProfile) :
    ((Tracker.changed profile).finish store userId).value = store.attempt profile := by
  simp only [Tracker.finish, attempt, put, save, Traced.value_bind]
  cases store.saveFault <;> rfl

end ProfileStore

namespace Engine
open Event
variable {σ : Type}

theorem mem_profileCalls_of_saved {events : List Event} {stored : StoredProfile}
    (member : .saved stored ∈ events) : .saved stored ∈ profileCalls events :=
  List.mem_filter.mpr ⟨member, rfl⟩

/-- A query leaves the stored profiles alone, because profiles are ignored or it assigns nothing, or
it tries to save the profile that it found for the user, with all that it has assigned. -/
theorem writes_ask (engine : Engine σ) (state : EngineState σ) (config : Config) (user : User)
    (options : DecideOptions) {store : ProfileStore} (provided : state.profiles = some store)
    (query : Query) :
    let call := engine.ask state config user options query
    let assigned := engine.assignments state config user options query
    let written := (store.profileOf user.id).assignAll assigned
    (((engine.effectiveOptions options).contains .ignoreProfiles = true ∨ assigned = []) ∧
      call.state.profiles = some store ∧ ∀ stored, .saved stored ∉ call.events) ∨
      (assigned ≠ [] ∧ call.state.profiles = some (store.attempt written) ∧
        ∀ stored, .saved stored ∈ call.events → stored = written.toStored) := by
  intro call assigned written
  obtain ⟨tried, events, finish, _, course, performed⟩ :
      Takes engine state config user options call assigned := takes_ask query
  let context := engine.context state config user (engine.effectiveOptions options)
  have made : call.events = events ++ context.saves finish := congrArg Performed.events performed
  have left : call.state = leave context state finish := congrArg Performed.state performed
  have saved {stored : StoredProfile} (member : .saved stored ∈ call.events) :
      .saved stored ∈ profileCalls (events ++ context.saves finish) :=
    mem_profileCalls_of_saved (made ▸ member)
  cases heeded : (engine.effectiveOptions options).contains .ignoreProfiles with
  | true =>
      have ignored : context.profiles = none := by rw [profiles_context, if_pos heeded]
      refine .inl ⟨.inl rfl, ?_, fun stored member => ?_⟩
      · rw [left, leave_of_ignored ignored]
        exact provided
      · have calls := saved member
        rw [course.profileCalls_of_ignored ignored] at calls
        cases calls
  | false =>
      have profiles : context.profiles = some store :=
        (profiles_of_heeded engine state config user heeded).trans provided
      by_cases nothing : assigned = []
      · rw [nothing] at course
        refine .inl ⟨.inr nothing, ?_, fun stored member => ?_⟩
        · rw [left, leave_of_unchanged engine state config user _ (course.isChanged_eq profiles)]
          exact provided
        · have calls := saved member
          rcases course.profileCalls_of_unassigned profiles rfl with none | looked
          · rw [none] at calls
            cases calls
          · simp [looked] at calls
      · refine .inr ⟨nothing, ?_, fun stored member => ?_⟩
        · have reached := course.tracker_of_assigned profiles rfl nothing
          simp only [left, leave, saveProfile, profiles, reached, Traced.value_map,
            ProfileStore.value_finish_changed]
          rfl
        · have calls := saved member
          rw [course.profileCalls_of_assigned profiles rfl nothing] at calls
          simp only [List.mem_cons, reduceCtorEq, Event.saved.injEq, List.not_mem_nil, or_false,
            false_or] at calls
          exact calls

/-- Whatever a query saves names the owner of the profile that was found for the user, and nobody
else's stored profile changes. The owner is the user, unless a profile of somebody else is stored
for them. -/
theorem saves_for_owner (engine : Engine σ) (state : EngineState σ) (config : Config) (user : User)
    (options : DecideOptions) {store : ProfileStore} (provided : state.profiles = some store)
    (query : Query) :
    let call := engine.ask state config user options query
    let owner := (store.profileOf user.id).userId
    (store.Filed user.id → owner = user.id) ∧
    (∀ stored, .saved stored ∈ call.events → stored["user_id"]? = some (.string owner)) ∧
    ∃ after, call.state.profiles = some after ∧
      ∀ userId, userId ≠ owner → after.profiles[userId]? = store.profiles[userId]? := by
  intro call owner
  refine ⟨fun filed => filed.profileOf_userId, ?_⟩
  rcases writes_ask engine state config user options provided query with
    ⟨_, kept, unsaved⟩ | ⟨_, left, saved⟩
  · exact ⟨fun stored member => absurd member (unsaved stored),
      store, kept, fun _ _ => rfl⟩
  · have owned := (store.profileOf user.id).assignAll_userId
      (engine.assignments state config user options query)
    refine ⟨fun stored member => ?_, _, left, fun userId different => ?_⟩
    · rw [saved stored member, UserProfile.toStored_userId, owned]
    · exact store.profiles_attempt_of_ne fun same => different (same.symm.trans owned)

namespace Sample

/-- Somebody else's profile is stored for Alice, and Bob was given a variation before. -/
def misfiled : EngineState Unit :=
  { profiles := some
      { profiles := .ofPairs [
          ("alice", ({ userId := "bob" } : UserProfile).toStored),
          ("bob", { userId := "bob", variations := .ofPairs [("10", "1")] : UserProfile }.toStored)] }
    bandit := () }

def openProject : Config := .ofDatafile { experiments := [everyone] }

end Sample

/-- What is saved for a user who was seen before leaves the other profiles alone. -/
theorem saves_for_visitor :
    ∃ store after, Sample.visited.profiles = some store ∧ store.Filed "user" ∧
      (Sample.first.ask Sample.visited Sample.openProject { id := "user" } ∅
        (.getVariation "everyone")).state.profiles = some after ∧
      ∀ userId, userId ≠ "user" → after.profiles[userId]? = store.profiles[userId]? := by
  have filed : (ProfileStore.put {}
      { userId := "user", variations := .ofPairs [("10", "1")] }).Filed "user" :=
    ProfileStore.Filed.put (fun stored _ found _ => by simp at found) _
  obtain ⟨own, _, after, left, kept⟩ := saves_for_owner Sample.first Sample.visited
    Sample.openProject { id := "user" } ∅ rfl (.getVariation "everyone")
  rw [own filed] at kept
  exact ⟨_, after, rfl, filed, left, kept⟩

/-- A call for Alice saves a profile that names Bob, and what Bob was given before is lost. -/
theorem saves_over_somebody_else :
    let call := Sample.first.ask Sample.misfiled Sample.openProject { id := "alice" } ∅
      (.getVariation "everyone")
    (¬ ∀ stored, .saved stored ∈ call.events → stored["user_id"]? = some (.string "alice")) ∧
      Sample.misfiled.profiles.map (·.profileOf "bob") =
        some { userId := "bob", variations := .ofPairs [("10", "1")] } ∧
      call.state.profiles.map (·.profileOf "bob") =
        some { userId := "bob", variations := .ofPairs [("20", "1")] } := by
  intro call
  refine ⟨fun saved => ?_, by rfl, by rfl⟩
  have named := saved
    { userId := "bob", variations := .ofPairs [("20", "1")] : UserProfile }.toStored
    (.tail _ (.tail _ (.head _)))
  rw [UserProfile.toStored_userId] at named
  exact absurd named (by simp)

end Engine
end FeatureFlags
