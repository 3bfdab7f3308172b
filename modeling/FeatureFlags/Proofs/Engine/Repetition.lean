import FeatureFlags.Proofs.Decision.HashedKeys
import FeatureFlags.Proofs.Engine.ProfileUpdates

/-!
Deciding a flag again. What the first decision stored leads the second one to the same variation in
a shorter way, so that it has nothing to store itself.
-/

namespace FeatureFlags

namespace Context
open Event
variable {σ : Type} {context : Context σ} {store : ProfileStore} {start finish : Progress σ}
  {events : List Event}

/-- A flag that has been decided has nothing to add to the store. -/
theorem addition?_storeAfter_self (indexed : context.config.WellIndexed)
    (inMemory : store.InMemory) (filed : store.Filed context.user.id) (flag : Flag) :
    context.addition? (context.storeAfter store flag) flag = none := by
  cases added : context.addition? store flag with
  | none => rw [storeAfter_of_none added, added]
  | some assignment =>
      rw [addition?_put indexed inMemory filed added, added]
      simp [Option.filter_some]

/-- Without an assignment, or without profiles, nothing is saved. -/
theorem Layered.not_saved {flag : Flag} {decided : FlagOutcome}
    (layered : Layered context flag start decided events finish) (idle : start.tracker = .idle)
    (nothing : context.profiles = none ∨ decided.assignment? = none) (stored : StoredProfile) :
    .saved stored ∉ events ++ context.saves finish := by
  intro member
  have calls := Engine.mem_profileCalls_of_saved member
  have course := layered.course
  cases profiles : context.profiles with
  | none =>
      rw [course.profileCalls_of_ignored profiles] at calls
      cases calls
  | some store =>
      rw [nothing.resolve_left (by simp [profiles])] at course
      rcases course.profileCalls_of_unassigned profiles idle with none | looked
      · simp [none] at calls
      · simp [looked] at calls

/-- A flag that is decided again, for the profile that the first decision has stored. -/
theorem Layered.repeated {flag : Flag} {decided decided' : FlagOutcome}
    {start' finish' : Progress σ} {events' : List Event} (noBandit : context.bandit = none)
    (indexed : context.config.WellIndexed) (profiles : context.profiles = some store)
    (inMemory : store.InMemory) (filed : store.Filed context.user.id)
    (layered : Layered context flag start decided events finish) (idle : start.tracker = .idle)
    (again : Layered { context with profiles := some (context.storeAfter store flag) } flag start'
      decided' events' finish') (idle' : start'.tracker = .idle) :
    decided'.Alike decided ∧ decided'.assignment? = none ∧
      (hashedKeys events').Sublist (hashedKeys events) := by
  let found := store.profileOf context.user.id
  let added := (context.flagOutcome flag (some found)).assignment?
  have before : context.profileAt start = some found := by
    simp only [profileAt, profiles, idle, Option.map_some, Tracker.profile, found]
  have stored : (context.storeAfter store flag).profileOf context.user.id = found.assign added :=
    ProfileStore.profileOf_assign inMemory filed added
  have after : profileAt { context with profiles := some (context.storeAfter store flag) } start' =
      some (found.assign added) := by
    simp only [profileAt, idle', Option.map_some, Tracker.profile, stored]
  have noBandit' : Context.bandit { context with
      profiles := some (context.storeAfter store flag) } = none := noBandit
  have decides := layered.eq_flagOutcome noBandit
  have decides' := again.eq_flagOutcome noBandit'
  have keys := layered.hashedKeys_eq noBandit
  have keys' := again.hashedKeys_eq noBandit'
  rw [before] at decides keys
  rw [after, flagOutcome_withProfiles] at decides'
  rw [after, flagKeys_withProfiles] at keys'
  refine ⟨?_, ?_, ?_⟩
  · rw [decides, decides']
    exact alike_flagOutcome_assign indexed flag flag found
  · have nothing := addition?_storeAfter_self indexed inMemory filed flag
    rw [addition?, stored] at nothing
    rw [decides', nothing]
  · rw [keys, keys']
    exact flagKeys_assign_sublist indexed flag flag found

end Context

namespace Engine
open Context Event
variable {σ : Type}

/-- What a second decision has in common with the first one. -/
structure Repeats (again first : Performed σ FlagDecision) : Prop where
  value : again.value.unexplained = first.value.unexplained
  unsaved : ∀ stored, .saved stored ∉ again.events
  keys : (hashedKeys again.events).Sublist (hashedKeys first.events)
  state : again.state = first.state

section Again
variable (engine : Engine σ) (state : EngineState σ) (config : Config) (user : User)
  (options : DecideOptions) {flagKey : String} {flag : Flag}

theorem decide_repeats_of_ignored (noBandit : engine.bandit = none)
    (ignored : (engine.context state config user (engine.effectiveOptions options)).profiles = none)
    (known : config.flagsByKey[flagKey]? = some flag) :
    let first := engine.decide state config user options flagKey
    Repeats (engine.decide first.state config user options flagKey) first := by
  intro first
  have same : first.state = state :=
    state_decide_of_ignored engine state config user options noBandit ignored flagKey
  obtain ⟨decided, events, finish, layered, reasons, performed⟩ :=
    decide_layered engine state config user options known
  rw [same]
  refine ⟨rfl, fun stored => ?_, .refl _, rfl⟩
  rw [performed]
  exact layered.not_saved rfl (.inl ignored) stored

theorem decide_repeats_of_store (noBandit : engine.bandit = none) (indexed : config.WellIndexed)
    {store : ProfileStore}
    (profiles : (engine.context state config user (engine.effectiveOptions options)).profiles =
      some store)
    (inMemory : store.InMemory) (filed : store.Filed user.id)
    (known : config.flagsByKey[flagKey]? = some flag) :
    let first := engine.decide state config user options flagKey
    Repeats (engine.decide first.state config user options flagKey) first := by
  intro first
  let effective := engine.effectiveOptions options
  let context := engine.context state config user effective
  let next : EngineState σ := { state with profiles := some (context.storeAfter store flag) }
  have left : first.state = next := by
    have found : context.config.flagsByKey[flagKey]? = some flag := known
    refine (state_decide_of_store engine state config user options noBandit profiles inMemory filed
      flagKey).trans ?_
    simp only [storeAfterKey, context, effective, found, next]
  have following : engine.context next config user effective =
      { context with profiles := some (context.storeAfter store flag) } := by
    have heeded : effective.contains .ignoreProfiles = false := (profiles_of_context profiles).2
    simp only [Engine.context, heeded, next, context]
    rfl
  obtain ⟨decided, events, finish, layered, reasons, performed⟩ :=
    decide_layered engine state config user options known
  obtain ⟨decided', events', finish', layered', reasons', performed'⟩ :=
    decide_layered engine next config user options known
  have again := layered'
  rw [following] at again
  obtain ⟨alike, nothing, fewer⟩ :=
    layered.repeated noBandit indexed profiles inMemory filed rfl again rfl
  rw [left]
  refine ⟨?_, fun stored => ?_, ?_, ?_⟩
  · simp only [first, performed, performed']
    exact FlagDecision.unexplained_ofOutcome alike flag _ _ user config _
  · rw [performed']
    exact layered'.not_saved rfl (.inr nothing) stored
  · simp only [first, performed, performed', hashedKeys_append, hashedKeys_saves, List.append_nil]
    exact fewer
  · have unchanged := layered'.course.isChanged_eq (by rw [following])
    rw [nothing] at unchanged
    have silent := silent_of_unchanged engine next config user effective unchanged
      (layered'.bandit_eq noBandit)
    rw [performed']
    exact silent.2.trans left.symm

end Again

/-- Deciding a flag again gives the same decision, apart from its stage and reasons, saves nothing,
hashes no key that the first decision has not hashed, and leaves the state as it was. -/
theorem decide_again_changes_nothing (engine : Engine σ) (noBandit : engine.bandit = none)
    (state : EngineState σ) (datafile : Datafile) (user : User) (options : DecideOptions)
    (ready : ∀ store, state.profiles = some store → store.InMemory ∧ store.Filed user.id)
    (flagKey : String) :
    let config := Config.ofDatafile datafile
    let first := engine.decide state config user options flagKey
    let again := engine.decide first.state config user options flagKey
    again.value.unexplained = first.value.unexplained ∧
      (∀ stored, .saved stored ∉ again.events) ∧
      (hashedKeys again.events).Sublist (hashedKeys first.events) ∧
      again.state = first.state := by
  intro config first again
  suffices repeats : Repeats again first from
    ⟨repeats.value, repeats.unsaved, repeats.keys, repeats.state⟩
  cases known : config.flagsByKey[flagKey]? with
  | none =>
      have unknown (state : EngineState σ) : engine.decide state config user options flagKey =
          { value := .unknownFlag flagKey user, state } := by simp only [decide, known]
      simp only [again, first, unknown]
      exact ⟨rfl, fun _ => List.not_mem_nil, .refl _, rfl⟩
  | some flag =>
      cases profiles : (engine.context state config user
          (engine.effectiveOptions options)).profiles with
      | none =>
          exact decide_repeats_of_ignored engine state config user options noBandit profiles known
      | some store =>
          obtain ⟨inMemory, filed⟩ := ready store (profiles_of_context profiles).1
          exact decide_repeats_of_store engine state config user options noBandit
            (Config.wellIndexed_ofDatafile datafile) profiles inMemory filed known

/-- The second decision comes from the profile that the first one has saved. -/
theorem decide_again_of_shared_experiment :
    let first := Sample.first.decide Sample.empty (.ofDatafile Sample.shared) { id := "user" } ∅
      "right"
    let again := Sample.first.decide first.state (.ofDatafile Sample.shared) { id := "user" } ∅
      "right"
    first.value.stage = some .experiment ∧ again.value.stage = some .sticky ∧
      hashedKeys first.events = ["user20"] ∧ hashedKeys again.events = [] ∧
      again.value.unexplained = first.value.unexplained ∧ again.state = first.state := by
  intro first again
  have ready : ∀ store, Sample.empty.profiles = some store →
      store.InMemory ∧ store.Filed "user" := by
    intro store provided
    cases provided
    exact ⟨⟨rfl, rfl⟩, fun stored _ found _ => by simp at found⟩
  obtain ⟨value, _, _, left⟩ := decide_again_changes_nothing Sample.first rfl Sample.empty
    Sample.shared { id := "user" } ∅ ready "right"
  exact ⟨by rfl, by decide +kernel, by rfl, by decide +kernel, value, left⟩

end Engine
end FeatureFlags
