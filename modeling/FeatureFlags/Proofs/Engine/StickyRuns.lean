import FeatureFlags.Proofs.Decision.LayerPrecedence
import FeatureFlags.Proofs.Engine.Session
import FeatureFlags.Proofs.Engine.Stickiness

/-!
Variations stick over whole sessions: what was assigned to a user once is what later calls serve,
whatever is called in between.
-/

namespace FeatureFlags

/-- The state of an engine of which the stored profile of a user names a variation. -/
def EngineState.Remembers {σ : Type} (state : EngineState σ)
    (userId experimentId variationId : String) : Prop :=
  ∃ store, state.profiles = some store ∧ store.Remembers userId experimentId variationId

namespace Engine
open Context
variable {σ : Type} {engine : Engine σ} {state : EngineState σ} {config : Config}
  {userId experimentId variationId : String}

/-- A call keeps what the state remembers if its resolution does. -/
theorem leave_remembers {user : User} {options : DecideOptions} {finish : Progress σ}
    (remembers : state.Remembers userId experimentId variationId)
    (kept : let context := engine.context state config user options
      ∀ store, context.profiles = some store → store.InMemory →
        context.Sticks store userId experimentId variationId { bandit := state.bandit } →
          context.Sticks store userId experimentId variationId finish) :
    (leave (engine.context state config user options) state finish).Remembers userId
      experimentId variationId := by
  obtain ⟨store, provided, remembers⟩ := remembers
  cases profiles : (engine.context state config user options).profiles with
  | none =>
      rw [leave_of_ignored profiles]
      exact ⟨store, provided, remembers⟩
  | some used =>
      have same := (profiles_of_context profiles).1
      rw [provided] at same
      cases same
      rw [leave_of_store profiles remembers.inMemory]
      have sticks := kept store profiles remembers.inMemory
        ⟨Tracker.faithful_idle (remembers.filed user.id), remembers⟩
      exact ⟨_, rfl, sticks.remembers⟩

section Calls
variable (engine)
variable (keeps : config.Keeps experimentId variationId)
  (remembers : state.Remembers userId experimentId variationId)
  (user : User) (options : DecideOptions)
include keeps remembers

theorem getVariation_remembers (key : String) :
    (engine.getVariation state config user options key).state.Remembers userId experimentId
      variationId := by
  cases known : config.experimentsByKey[key]? with
  | none => simpa only [getVariation, known] using remembers
  | some experiment =>
      obtain ⟨outcome, events, finish, staged, reasons, performed⟩ :=
        getVariation_staged engine state config user options known
      rw [performed]
      exact leave_remembers remembers fun store profiles inMemory =>
        staged.sticks profiles inMemory keeps ⟨key, .inr known⟩

theorem getVariationForFeature_remembers (key : String) :
    (engine.getVariationForFeature state config user options key).state.Remembers userId
      experimentId variationId := by
  cases known : config.flagsByKey[key]? with
  | none => simpa only [getVariationForFeature, known] using remembers
  | some flag =>
      obtain ⟨decided, events, finish, layered, reasons, performed⟩ :=
        getVariationForFeature_layered engine state config user options known
      rw [performed]
      exact leave_remembers remembers fun store profiles inMemory =>
        layered.sticks profiles inMemory keeps

theorem decide_remembers (key : String) :
    (engine.decide state config user options key).state.Remembers userId experimentId
      variationId := by
  cases known : config.flagsByKey[key]? with
  | none => simpa only [decide, known] using remembers
  | some flag =>
      obtain ⟨decided, events, finish, layered, reasons, performed⟩ :=
        decide_layered engine state config user options known
      rw [performed]
      exact leave_remembers remembers fun store profiles inMemory =>
        layered.sticks profiles inMemory keeps

theorem decideForKeys_remembers (keys : List String) :
    (engine.decideForKeys state config user options keys).state.Remembers userId experimentId
      variationId := by
  obtain ⟨answers, events, finish, answered, saveReasons, performed⟩ :=
    decideForKeys_answered engine state config user options keys
  rw [performed]
  exact leave_remembers remembers fun store profiles inMemory =>
    answered.sticks profiles inMemory keeps

end Calls

end Engine

namespace Session
variable {σ : Type} {engine : Engine σ} {session : Session σ}
  {userId experimentId variationId : String}

theorem step_remembers (engine : Engine σ) (call : Call)
    (keeps : session.config.Keeps experimentId variationId)
    (remembers : session.state.Remembers userId experimentId variationId) :
    (session.step engine call).state.Remembers userId experimentId variationId := by
  cases call with
  | replaceConfig config => exact remembers
  | setForcedVariation experimentKey caller variationKey =>
      have untouched : (session.state.setForcedVariation session.config experimentKey caller
          variationKey).2.profiles = session.state.profiles := by
        simp only [EngineState.setForcedVariation]
        split <;> rfl
      simpa only [step, EngineState.Remembers, untouched] using remembers
  | getVariation user options key =>
      exact engine.getVariation_remembers keeps remembers user options key
  | getVariationForFeature user options key =>
      exact engine.getVariationForFeature_remembers keeps remembers user options key
  | decide user options key => exact engine.decide_remembers keeps remembers user options key
  | decideForKeys user options keys =>
      exact engine.decideForKeys_remembers keeps remembers user options keys
  | decideAll user options => exact engine.decideForKeys_remembers keeps remembers user options _

theorem run_remembers (calls : List Call)
    (kept : ∀ config ∈ session.configs calls, config.Keeps experimentId variationId)
    (remembers : session.state.Remembers userId experimentId variationId) :
    (session.run engine calls).state.Remembers userId experimentId variationId := by
  induction calls generalizing session with
  | nil => exact remembers
  | cons call calls ih =>
      have keeps := kept session.config List.mem_cons_self
      exact ih (fun config inForce => kept config (session.configs_cons engine call calls inForce))
        (session.step_remembers engine call keeps remembers)

theorem run_config_mem (engine : Engine σ) (session : Session σ) (calls : List Call) :
    (session.run engine calls).config ∈ session.configs calls := by
  induction calls generalizing session with
  | nil => exact List.mem_cons_self
  | cons call calls ih => exact session.configs_cons engine call calls (ih _)

end Session

namespace Engine
open Context
variable {σ : Type}

/-- A call that assigns a variation makes the state remember it. -/
theorem remembers_of_assigned (engine : Engine σ) (state : EngineState σ) (config : Config)
    {store : ProfileStore} (provided : state.profiles = some store) (inMemory : store.InMemory)
    (filed : ∀ userId, store.Filed userId) (user : User) (options : DecideOptions)
    (heeded : (engine.effectiveOptions options).contains .ignoreProfiles = false)
    {experimentKey : String} {experiment : Experiment}
    (known : config.experimentsByKey[experimentKey]? = some experiment) {outcome : Outcome}
    {variation : Variation} {reasons : List Reason}
    (value : (engine.getVariation state config user options experimentKey).value =
      .ok { outcome, reasons })
    (assigned : outcome.assigned? = some variation) :
    (engine.getVariation state config user options experimentKey).state.Remembers user.id
      experiment.id variation.id := by
  have profiles : (engine.context state config user (engine.effectiveOptions options)).profiles =
      some store :=
    (profiles_of_heeded engine state config user heeded).trans provided
  obtain ⟨outcome', events, finish, staged, reasons', performed⟩ :=
    getVariation_staged engine state config user options known
  rw [performed] at value
  cases value
  have reaches := staged.reaches
  rw [assigned] at reaches
  simp only [Reaches, profiles, Option.map_some] at reaches
  have saved := reaches.saved_eq (Tracker.faithful_idle (filed user.id))
  rw [performed]
  refine ⟨finish.tracker.saved store, ?_, ?_⟩
  · exact congrArg EngineState.profiles (leave_of_store profiles inMemory state finish)
  · rw [saved]
    exact ProfileStore.remembers_assign inMemory filed user.id experiment variation

/-- A call that heeds profiles finds the stored variation of an experiment that still has it. -/
theorem storedVariation?_of_remembers (engine : Engine σ) {state : EngineState σ} {config : Config}
    {user : User} {options : DecideOptions} (heeded : options.contains .ignoreProfiles = false)
    {variationId : String} {experiment : Experiment}
    (remembers : state.Remembers user.id experiment.id variationId) :
    (engine.context state config user options).storedVariation? experiment
      { bandit := state.bandit } = experiment.variationById? variationId := by
  obtain ⟨store, provided, _, _, entry⟩ := remembers
  have profiles : (engine.context state config user options).profiles = some store :=
    (profiles_of_heeded engine state config user heeded).trans provided
  simp only [storedVariation?, profileAt, profiles, Option.map_some, Option.bind_some,
    UserProfile.variationOf?]
  exact congrArg (·.bind experiment.variationById?) entry

/-- A call for an experiment that nothing ahead of the profile settles serves what is remembered. -/
theorem getVariation_of_remembers (engine : Engine σ) {state : EngineState σ} {config : Config}
    {user : User} (options : DecideOptions)
    (heeded : (engine.effectiveOptions options).contains .ignoreProfiles = false)
    {experimentKey variationId : String} {experiment : Experiment}
    (known : config.experimentsByKey[experimentKey]? = some experiment)
    (active : experiment.isActive = true)
    (notOverridden : state.overrides.variationOf? experiment user.id = none)
    (notWhitelisted : experiment.whitelistedVariation? user.id = none)
    (keeps : config.Keeps experiment.id variationId)
    (remembers : state.Remembers user.id experiment.id variationId) :
    let call := engine.getVariation state config user options experimentKey
    ∃ variation reasons, variation.id = variationId ∧
      experiment.variationById? variationId = some variation ∧
      call.value = .ok { outcome := .served variation .sticky, reasons } ∧
      call.events = [.lookedUp user.id] ∧ call.state = state := by
  intro call
  obtain ⟨variation, named⟩ :=
    Option.isSome_iff_exists.mp (keeps experiment ⟨experimentKey, .inr known⟩ rfl)
  let context := engine.context state config user (engine.effectiveOptions options)
  have stored : context.storedVariation? experiment { bandit := state.bandit } =
      some variation :=
    (storedVariation?_of_remembers engine heeded remembers).trans named
  -- The stored variation decides, and there is only one run from here.
  have sticky : Staged context experiment { bandit := state.bandit } _ _ _ :=
    .sticky active notOverridden notWhitelisted stored
  obtain ⟨outcome, events, finish, staged, reasons, performed⟩ :=
    getVariation_staged engine state config user options known
  obtain ⟨rfl, rfl, rfl⟩ := sticky.runs.unique staged.runs
  obtain ⟨looked, left⟩ := silent_of_sticky engine state config user
    (engine.effectiveOptions options) staged rfl
  refine ⟨variation, reasons, Experiment.id_of_variationById? named, named, ?_, ?_, ?_⟩
  · simp only [call, performed]
  · simp only [call, performed, looked]
  · simp only [call, performed, left]

end Engine

namespace Session
open Engine
variable {σ : Type}

/-- A variation that was assigned once is what the user gets in every later call, whatever happens
in between, as long as the experiment has it. -/
theorem getVariation_sticks (engine : Engine σ) (session : Session σ) {store : ProfileStore}
    (provided : session.state.profiles = some store) (inMemory : store.InMemory)
    (filed : ∀ userId, store.Filed userId) (user : User) (options : DecideOptions)
    (heeded : (engine.effectiveOptions options).contains .ignoreProfiles = false)
    {experimentKey : String} {experiment : Experiment}
    (known : session.config.experimentsByKey[experimentKey]? = some experiment)
    {variation : Variation} {source : Source} {reasons : List Reason}
    (served : (engine.getVariation session.state session.config user options experimentKey).value =
      .ok { outcome := .served variation source, reasons })
    (assigned : source = .experiment ∨ ∃ correlationId, source = .bandit correlationId)
    (calls : List Call)
    (kept : ∀ config ∈ session.configs calls, config.Keeps experiment.id variation.id)
    (later : User) (same : later.id = user.id) (options' : DecideOptions)
    (heeded' : (engine.effectiveOptions options').contains .ignoreProfiles = false)
    {experimentKey' : String} {experiment' : Experiment} :
    let last := (session.step engine (.getVariation user options experimentKey)).run engine calls
    last.config.experimentsByKey[experimentKey']? = some experiment' →
    experiment'.id = experiment.id →
    experiment'.isActive = true →
    last.state.overrides.variationOf? experiment' later.id = none →
    experiment'.whitelistedVariation? later.id = none →
    let call := engine.getVariation last.state last.config later options' experimentKey'
    ∃ given reasons', given.id = variation.id ∧
      experiment'.variationById? variation.id = some given ∧
      call.value = .ok { outcome := .served given .sticky, reasons := reasons' } ∧
      call.events = [.lookedUp later.id] ∧ call.state = last.state := by
  intro last known' sameId active notOverridden notWhitelisted
  have gives : (Outcome.served variation source).assigned? = some variation := by
    rcases assigned with rfl | ⟨_, rfl⟩ <;> rfl
  have first := remembers_of_assigned engine session.state session.config provided inMemory filed
    user options heeded known served gives
  have remembers : last.state.Remembers user.id experiment.id variation.id :=
    run_remembers calls kept first
  have keeps := kept last.config (run_config_mem engine _ calls)
  rw [← same, ← sameId] at remembers
  rw [← sameId] at keeps
  exact getVariation_of_remembers engine options' heeded' known' active notOverridden
    notWhitelisted keeps remembers

namespace Sample
open Engine.Sample

/-- A project that serves everyone. -/
def opened : Session Unit :=
  { config := .ofDatafile { experiments := [everyone] }, state := empty }

/-- The project is replaced by one that has closed the experiment, and others are served. -/
def closing : List Call :=
  [.replaceConfig (.ofDatafile { experiments := [{ closed with id := "20" }] }),
    .decideAll { id := "other" } ∅]

/-- The session after the user was served and the experiment was closed. -/
def last : Session Unit :=
  (opened.step first (.getVariation { id := "user" } ∅ "everyone")).run first closing

end Sample

theorem getVariation_sticks_after_closing :
    let call := Engine.Sample.first.getVariation Sample.last.state Sample.last.config
      { id := "user" } ∅ "checkout"
    ∃ reasons, call.value = .ok { outcome := .served Engine.Sample.on .sticky, reasons } ∧
      call.events = [.lookedUp "user"] ∧ call.state = Sample.last.state := by
  intro call
  have filed : ∀ userId, (({} : ProfileStore)).Filed userId :=
    fun userId stored _ found _ => by simp at found
  have served : ∃ reasons, (Engine.Sample.first.getVariation Sample.opened.state
      Sample.opened.config { id := "user" } ∅ "everyone").value =
        .ok { outcome := .served Engine.Sample.on .experiment, reasons } := ⟨_, rfl⟩
  have known : Sample.opened.config.experimentsByKey["everyone"]? =
      some Engine.Sample.everyone := rfl
  have known' : Sample.last.config.experimentsByKey["checkout"]? =
      some { Engine.Sample.closed with id := "20" } := rfl
  have active : { Engine.Sample.closed with id := "20" }.isActive = true :=
    Experiment.isActive_iff.mpr (.inl rfl)
  have kept : ∀ config ∈ Sample.opened.configs Sample.closing,
      config.Keeps Engine.Sample.everyone.id Engine.Sample.on.id := by
    intro config inForce experiment known _
    have listed : config = .ofDatafile { experiments := [Engine.Sample.everyone] } ∨
        config = .ofDatafile { experiments := [{ Engine.Sample.closed with id := "20" }] } := by
      simpa [configs, Sample.opened, Sample.closing, Call.config?] using inForce
    rcases listed with rfl | rfl
    all_goals
      have member := Config.mem_of_knows_ofDatafile known
      simp only [Config.experimentsOf, List.map_nil, List.flatMap_nil, List.append_nil,
        List.mem_singleton] at member
      subst member
      rfl
  obtain ⟨reasons, served⟩ := served
  obtain ⟨given, reasons', _, found, value, emitted, left⟩ := getVariation_sticks
    Engine.Sample.first Sample.opened rfl ⟨rfl, rfl⟩ filed { id := "user" } ∅ rfl known served
    (.inl rfl) Sample.closing kept { id := "user" } rfl ∅ rfl known' rfl active rfl rfl
  cases found
  exact ⟨reasons', value, emitted, left⟩

end Session
end FeatureFlags
