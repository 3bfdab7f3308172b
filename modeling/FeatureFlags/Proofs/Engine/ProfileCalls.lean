import FeatureFlags.Proofs.Engine.BatchAgreement
import FeatureFlags.Proofs.Engine.Queries

/-!
What a query asks of the profile store: nothing, or one lookup of the user, or that lookup and one
save. A save is made exactly if an experiment was assigned on the way, and what is saved is the loaded
profile with these assignments.
-/

namespace FeatureFlags

namespace Event

/-- The calls of the profile store. -/
def profileCalls (events : List Event) : List Event :=
  events.filter fun
    | .lookedUp _ | .saved _ => true
    | .hashed _ | .consulted _ | .fetched _ => false

@[simp] theorem profileCalls_append (first second : List Event) :
    profileCalls (first ++ second) = profileCalls first ++ profileCalls second :=
  List.filter_append first second

theorem profileCalls_of_onlyHashes {events : List Event} (hashes : OnlyHashes events) :
    profileCalls events = [] := by
  refine List.filter_eq_nil_iff.mpr fun event member => ?_
  obtain ⟨key, rfl⟩ := hashes event member
  exact Bool.false_ne_true

end Event

namespace Context
open Event
variable {σ : Type} {context : Context σ} {start finish : Progress σ} {events : List Event}

@[simp] theorem profileCalls_lookups (context : Context σ) (progress : Progress σ) :
    profileCalls (context.lookups progress) = context.lookups progress := by
  simp only [lookups]
  cases context.profiles with
  | none => rfl
  | some store => cases progress.tracker <;> rfl

@[simp] theorem profileCalls_saves (context : Context σ) (progress : Progress σ) :
    profileCalls (context.saves progress) = context.saves progress := by
  simp only [saves]
  cases context.profiles with
  | none => rfl
  | some store => cases progress.tracker <;> rfl

theorem lookups_congr (context : Context σ) {progress other : Progress σ}
    (same : progress.tracker = other.tracker) :
    context.lookups progress = context.lookups other := by
  simp only [lookups, same]

theorem lookups_recorded {experiment : Experiment} {variation : Option Variation}
    (open_ : context.lookups start = []) :
    context.lookups (context.recorded experiment variation start) = [] := by
  simp only [recorded]
  split
  · rename_i profiles
    simp only [lookups, profiles, Tracker.lookups]
  · exact open_

/-- The assignment of a user has nothing to do with the profile store. -/
theorem Assigned.profileCalls_eq {experiment : Experiment} {outcome : Outcome}
    (assigned : Assigned context experiment start outcome events finish) :
    profileCalls events = [] := by
  cases assigned with
  | hash _ => exact profileCalls_of_onlyHashes (context.onlyHashes_hashed experiment)
  | outsideShare _ _ _ =>
      exact profileCalls_of_onlyHashes (Bucketing.onlyHashes_bucketForBandit _ _ _ _ _)
  | bandit _ _ _ =>
      rw [profileCalls_append, share,
        profileCalls_of_onlyHashes (Bucketing.onlyHashes_bucketForBandit _ _ _ _ _)]
      simp [profileCalls, List.filter_map, Function.comp_def]

/-- A stage makes the lookup that is still to be made, or leaves it to what follows. -/
theorem Staged.lookups_eq {experiment : Experiment} {outcome : Outcome}
    (staged : Staged context experiment start outcome events finish) :
    context.lookups start = profileCalls events ++ context.lookups finish := by
  cases staged with
  | inactive _ | override _ _ | whitelist _ _ _ => rfl
  | sticky _ _ _ _ | outsideAudiences _ _ => simp
  | assigned _ _ assigned =>
      have opened := lookups_congr context assigned.tracker_eq
      rw [lookups_opened] at opened
      rw [profileCalls_append, assigned.profileCalls_eq, lookups_recorded opened]
      simp

theorem Course.lookups_eq {tried : Experiment → Prop} {assigned : List (Experiment × Variation)}
    (course : Course context tried start assigned events finish) :
    context.lookups start = profileCalls events ++ context.lookups finish := by
  induction course with
  | nil => rfl
  | hashes hashes _ ih =>
      rw [profileCalls_append, profileCalls_of_onlyHashes hashes, List.nil_append]
      exact ih
  | staged _ staged _ ih =>
      rw [profileCalls_append, List.append_assoc, ← ih]
      exact staged.lookups_eq

section Store
variable {store : ProfileStore} {tried : Experiment → Prop}
  {assigned : List (Experiment × Variation)}

/-- An assignment on the way takes one lookup, and one save of the profile that has it. -/
theorem Course.profileCalls_of_assigned (profiles : context.profiles = some store)
    (idle : start.tracker = .idle)
    (course : Course context tried start assigned events finish) (assigns : assigned ≠ []) :
    profileCalls (events ++ context.saves finish) = [.lookedUp context.user.id,
      .saved ((store.profileOf context.user.id).assignAll assigned).toStored] := by
  have reached := course.tracker_of_assigned profiles idle assigns
  have calls := course.lookups_eq
  simp only [lookups, profiles, idle, reached] at calls
  have looked : profileCalls events = [.lookedUp context.user.id] :=
    (List.append_nil _).symm.trans calls.symm
  have saves : context.saves finish =
      [.saved ((store.profileOf context.user.id).assignAll assigned).toStored] := by
    simp only [Context.saves, profiles, reached]
  rw [profileCalls_append, profileCalls_saves, looked, saves, List.singleton_append]

theorem Course.profileCalls_of_unassigned (profiles : context.profiles = some store)
    (idle : start.tracker = .idle) (course : Course context tried start [] events finish) :
    profileCalls (events ++ context.saves finish) = [] ∨
      profileCalls (events ++ context.saves finish) = [.lookedUp context.user.id] := by
  have unchanged := course.isChanged_eq profiles
  have calls := course.lookups_eq
  rw [idle] at unchanged
  rw [profileCalls_append, profileCalls_saves, context.saves_of_unchanged unchanged,
    List.append_nil]
  simp only [lookups, profiles, idle] at calls
  cases reached : finish.tracker with
  | idle =>
      -- The lookup is still to be made at the end.
      rw [reached] at calls
      exact .inl (List.append_left_eq_self.mp calls.symm)
  | loaded _ =>
      rw [reached] at calls
      exact .inr ((List.append_nil _).symm.trans calls.symm)
  | changed _ =>
      rw [reached] at unchanged
      cases unchanged

theorem Course.profileCalls_of_ignored (ignored : context.profiles = none)
    (course : Course context tried start assigned events finish) :
    profileCalls (events ++ context.saves finish) = [] := by
  have calls := course.lookups_eq
  simp only [lookups, ignored, List.append_nil] at calls
  rw [profileCalls_append, ← calls, profileCalls_saves]
  simp only [saves, ignored, List.append_nil]

end Store

end Context

namespace Engine
open Event
variable {σ : Type}

/-- A query makes no call of the profile store, or one lookup of the user, or that and one save. It
saves exactly if it has assigned an experiment, and changes the profile in that alone. -/
theorem profileCalls_ask (engine : Engine σ) (state : EngineState σ) (datafile : Datafile)
    (user : User) (options : DecideOptions)
    (filed : ∀ store, state.profiles = some store → store.Filed user.id) (query : Query) :
    let config := Config.ofDatafile datafile
    let ignored := (engine.effectiveOptions options).contains .ignoreProfiles
    let calls := profileCalls (engine.ask state config user options query).events
    let assigned := engine.assignments state config user options query
    (ignored = true ∨ state.profiles = none → calls = []) ∧
      ∀ store, ignored = false → state.profiles = some store →
        let loaded := store.profileOf user.id
        (assigned = [] → calls = [] ∨ calls = [.lookedUp user.id]) ∧
        (assigned ≠ [] → ∃ profile : UserProfile,
          calls = [.lookedUp user.id, .saved profile.toStored] ∧ profile.userId = user.id ∧
          (∀ assignment ∈ assigned,
            loaded.variations[assignment.1.id]? ≠ some assignment.2.id ∧
            profile.variations[assignment.1.id]? = some assignment.2.id) ∧
          ∀ experimentId : String, (∀ assignment ∈ assigned, assignment.1.id ≠ experimentId) →
            profile.variations[experimentId]? = loaded.variations[experimentId]?) := by
  intro config ignored calls assigned
  obtain ⟨tried, events, finish, unambiguous, course, performed⟩ :
      Takes engine state config user options (engine.ask state config user options query)
        (engine.assignments state config user options query) := takes_ask query
  let context := engine.context state config user (engine.effectiveOptions options)
  have made : calls = profileCalls (events ++ context.saves finish) := by
    simp only [calls, performed, context]
  rw [made]
  refine ⟨fun without => course.profileCalls_of_ignored ?_, fun store heeded provided => ?_⟩
  · rw [profiles_context]
    rcases without with ignored | nowhere
    · exact if_pos ignored
    · rw [nowhere, ite_self]
  · have profiles : context.profiles = some store :=
      (profiles_of_heeded engine state config user heeded).trans provided
    intro loaded
    refine ⟨fun none => ?_, fun assigns => ?_⟩
    · rw [show engine.assignments state config user options query = [] from none] at course
      exact course.profileCalls_of_unassigned profiles rfl
    · obtain ⟨once, vacant⟩ :=
        course.assigned_once profiles (unambiguous (Config.wellIndexed_ofDatafile datafile))
      refine ⟨loaded.assignAll assigned, course.profileCalls_of_assigned profiles rfl assigns,
        ?_, fun assignment member => ⟨fun already => ?_, ?_⟩, fun experimentId others => ?_⟩
      · exact (loaded.assignAll_userId assigned).trans (filed store provided).profileOf_userId
      · -- The experiment has the variation, so a stored one with its id would have decided.
        obtain ⟨_, _, _, _, _, staged, gives⟩ := course.staged_of_mem member
        have absent := vacant assignment member
        simp only [Context.storedVariation?, Context.profileAt, profiles, Option.map_some,
          Option.bind_some, UserProfile.variationOf?, Tracker.profile] at absent
        rw [show (store.profileOf context.user.id).variations[assignment.1.id]? =
          some assignment.2.id from already, Option.bind_some,
          staged.variationById?_self gives] at absent
        cases absent
      · exact loaded.assignAll_of_mem assigned once member
      · exact loaded.assignAll_of_forall_ne assigned others

/-- Of two flags that share an experiment only the first one assigns it; another entry of the profile
stays. -/
theorem profileCalls_ask_of_shared_experiment :
    (∀ store, Sample.visited.profiles = some store → store.Filed "user") ∧
      ∃ profile : UserProfile,
        profileCalls (Sample.first.ask Sample.visited (.ofDatafile Sample.shared) { id := "user" } ∅
            (.decideForKeys ["left", "right"])).events =
          [.lookedUp "user", .saved profile.toStored] ∧
        profile.variations["20"]? = some "1" ∧ profile.variations["10"]? = some "1" := by
  have filed : ∀ store, Sample.visited.profiles = some store → store.Filed "user" := by
    intro store provided
    cases provided
    exact ProfileStore.Filed.put (fun stored _ found _ => by simp at found) _
  have assigned : Sample.first.assignments Sample.visited (.ofDatafile Sample.shared)
      { id := "user" } ∅ (.decideForKeys ["left", "right"]) = [(Sample.everyone, Sample.on)] := by
    rfl
  obtain ⟨_, withStore⟩ := profileCalls_ask Sample.first Sample.visited Sample.shared
    { id := "user" } ∅ filed (.decideForKeys ["left", "right"])
  obtain ⟨_, saves⟩ := withStore _ rfl rfl
  obtain ⟨profile, calls, _, changed, kept⟩ := saves (by rw [assigned]; exact List.cons_ne_nil _ _)
  refine ⟨filed, profile, calls, ?_, ?_⟩
  · exact (changed (Sample.everyone, Sample.on) (by rw [assigned]; exact List.mem_singleton_self _)).2
  · refine (kept "10" fun assignment member => ?_).trans (by rfl)
    rw [assigned] at member
    cases List.mem_singleton.mp member
    decide

end Engine
end FeatureFlags
