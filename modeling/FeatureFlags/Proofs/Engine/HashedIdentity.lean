import FeatureFlags.Proofs.Decision.HashedIdentity
import FeatureFlags.Proofs.Decision.LayerPrecedence
import FeatureFlags.Proofs.Decision.Renaming
import FeatureFlags.Proofs.Engine.Queries

/-!
Hashing as a caller sees it. The bucketing id is all that is hashed of a user, so that users who
share one are decided alike as far as nothing but the hash decides.
-/

namespace FeatureFlags
namespace Engine
open Context Event
variable {σ : Type} {engine : Engine σ} {state : EngineState σ} {config : Config} {user : User}
  {options : DecideOptions}

theorem keysFrom_performed {ids : List String} {events : List Event} {finish : Progress σ}
    (hashed : (engine.context state config user options).KeysFrom ids events) :
    KeysFrom user.hashedId ids
      (events ++ (engine.context state config user options).saves finish) :=
  KeysFrom.append hashed (keysFrom_of_unhashed (Context.hashedKeys_saves _ finish))

section Keys
variable {ids : List String} (listed : config.IdsIn ids)
include listed

theorem keysFrom_decideForKeys (flagKeys : List String) :
    KeysFrom user.hashedId ids
      (engine.decideForKeys state config user options flagKeys).events := by
  obtain ⟨answers, events, finish, answered, reasons, performed⟩ :=
    decideForKeys_answered engine state config user options flagKeys
  rw [performed]
  exact keysFrom_performed (answered.keysFrom listed)

/-- Whatever a query hashes, it hashes for the user and for an entity with one of these ids. -/
theorem keysFrom_ask (query : Query) :
    KeysFrom user.hashedId ids (engine.ask state config user options query).events := by
  cases query with
  | getVariation key =>
      cases known : config.experimentsByKey[key]? with
      | none => simp only [ask, getVariation, known, Performed.map]; exact keysFrom_nil
      | some experiment =>
          obtain ⟨outcome, events, finish, staged, reasons, performed⟩ :=
            getVariation_staged engine state config user options known
          simp only [ask, performed, Performed.map]
          exact keysFrom_performed (staged.keysFrom listed (listed.experiment ⟨_, .inr known⟩))
  | getVariationForFeature key =>
      cases known : config.flagsByKey[key]? with
      | none => simp only [ask, getVariationForFeature, known, Performed.map]; exact keysFrom_nil
      | some flag =>
          obtain ⟨decided, events, finish, layered, reasons, performed⟩ :=
            getVariationForFeature_layered engine state config user options known
          simp only [ask, performed, Performed.map]
          exact keysFrom_performed (layered.keysFrom listed)
  | decide key =>
      cases known : config.flagsByKey[key]? with
      | none => simp only [ask, Engine.decide, known, Performed.map]; exact keysFrom_nil
      | some flag =>
          obtain ⟨decided, events, finish, layered, reasons, performed⟩ :=
            decide_layered engine state config user options known
          simp only [ask, performed, Performed.map]
          exact keysFrom_performed (layered.keysFrom listed)
  | decideForKeys keys => exact keysFrom_decideForKeys listed keys
  | decideAll => exact keysFrom_decideForKeys listed _

end Keys

/-- A decision for the user under another id. -/
theorem decide_renamed (id : String) {flagKey : String}
    (pseudonymous :
      (engine.context state config user (engine.effectiveOptions options)).Pseudonymous)
    (unlisted : ∀ flag, config.flagsByKey[flagKey]? = some flag →
      ∀ experimentId ∈ flag.experimentIds, ∀ experiment,
        config.experimentsById[experimentId]? = some experiment →
        ∀ userId ∈ [user.id, id], state.overrides.variationOf? experiment userId = none ∧
          experiment.whitelistedVariation? userId = none) :
    let call := engine.decide state config user options flagKey
    let call' := engine.decide state config { user with id } options flagKey
    call'.events = call.events ∧
      call'.value = { call.value with userId := id, reasons := call'.value.reasons } := by
  cases known : config.flagsByKey[flagKey]? with
  | none =>
      simp only [decide, known, true_and]
      rfl
  | some flag =>
      obtain ⟨decided, events, finish, layered, reasons, performed⟩ :=
        decide_layered engine state config user options known
      obtain ⟨decided', events', finish', layered', reasons', performed'⟩ :=
        decide_layered engine state config { user with id } options known
      have again : Layered
          ((engine.context state config user (engine.effectiveOptions options)).renamed id) flag
          { bandit := state.bandit } decided events finish := by
        refine layered.renamed pseudonymous id fun experimentId member experiment found => ?_
        have named := unlisted flag known experimentId member experiment found
        obtain ⟨notOverridden, notWhitelisted⟩ := named user.id List.mem_cons_self
        obtain ⟨notOverridden', notWhitelisted'⟩ :=
          named id (List.mem_cons_of_mem _ (List.mem_singleton_self id))
        exact ⟨⟨notOverridden, notWhitelisted⟩, ⟨notOverridden', notWhitelisted'⟩⟩
      obtain ⟨rfl, rfl, rfl⟩ := again.runs.unique layered'.runs
      have unsaved := pseudonymous.saves_eq_nil finish
      have unsaved' := (pseudonymous.renamed id).saves_eq_nil finish
      rw [performed, performed']
      exact ⟨congrArg (events ++ ·) (unsaved'.trans unsaved.symm), rfl⟩

/-- Users who share a bucketing id and differ in their ids alone get the same decision, with the
same keys hashed, as long as there are no profiles, bandits, overrides or whitelist entries to tell
them apart. Only their ids and the reasons differ. And whoever asks whatever in whatever state, each
key that is hashed is the identity of the user followed by the id of a group, an experiment, a
rollout rule or a holdout. -/
theorem bucketing_id_is_the_hashed_identity (engine : Engine σ) (datafile : Datafile) :
    let config := Config.ofDatafile datafile
    (∀ (state : EngineState σ) (options : DecideOptions) (flagKey : String) (user user' : User),
      (∃ bucketingId, user.attributes[Attributes.bucketingId]? = some (.string bucketingId)) →
      user'.attributes = user.attributes → user'.forced = user.forced →
      (engine.effectiveOptions options).contains .ignoreProfiles = true ∨ state.profiles = none →
      engine.bandit = none →
      (∀ flag, config.flagsByKey[flagKey]? = some flag →
        ∀ experimentId ∈ flag.experimentIds, ∀ experiment,
          config.experimentsById[experimentId]? = some experiment →
          ∀ userId ∈ [user.id, user'.id],
            state.overrides.variationOf? experiment userId = none ∧
              experiment.whitelistedVariation? userId = none) →
      let call := engine.decide state config user options flagKey
      let call' := engine.decide state config user' options flagKey
      call'.events = call.events ∧
        call'.value = { call.value with userId := user'.id, reasons := call'.value.reasons }) ∧
    ∀ (state : EngineState σ) (user : User) (options : DecideOptions) (query : Query)
      (key : String), .hashed key ∈ (engine.ask state config user options query).events →
        ∃ id ∈ datafile.hashedIds, key = user.hashedId ++ id := by
  intro config
  refine ⟨?_, fun state user options query =>
    keysFrom_ask (Config.idsIn_ofDatafile datafile) query⟩
  rintro state options flagKey user ⟨id, _, _⟩ named rfl rfl unused noBandit unlisted
  have noProfiles : (engine.context state config user (engine.effectiveOptions options)).profiles =
      none := by
    rw [profiles_context]
    rcases unused with ignored | nowhere
    · exact if_pos ignored
    · rw [nowhere, ite_self]
  exact decide_renamed id ⟨named, noProfiles, noBandit⟩ unlisted

namespace Sample

def halved : Experiment :=
  { everyone with trafficAllocation := [{ entityId := "1", endOfRange := 5000 }] }

def household : Datafile :=
  { experiments := [halved]
    flags := [{ id := "30", key := "banner", rolloutId := "", experimentIds := ["20"] }] }

/-- Users of one household are bucketed together, which is the only one in the traffic. -/
def member (id : String) : User :=
  { id, attributes := .ofPairs [(Attributes.bucketingId, .string "household")] }

def homely : Engine Unit := { sharder := fun key => if key = "household20" then 0 else 9999 }

end Sample

theorem bucketing_id_is_the_hashed_identity_of_household :
    let config := Config.ofDatafile Sample.household
    let state : EngineState Unit := { bandit := () }
    let call := Sample.homely.decide state config (Sample.member "alice") ∅ "banner"
    let call' := Sample.homely.decide state config (Sample.member "bob") ∅ "banner"
    call.value.variationKey = some "on" ∧ hashedKeys call.events = ["household20"] ∧
      call'.value.variationKey = some "on" ∧ hashedKeys call'.events = ["household20"] ∧
      ∃ id ∈ Sample.household.hashedIds, "household20" = (Sample.member "bob").hashedId ++ id := by
  intro config state call call'
  have served : call.value.variationKey = some "on" := by rfl
  have hashed : hashedKeys call.events = ["household20"] := by decide +kernel
  have unlisted : ∀ flag, config.flagsByKey["banner"]? = some flag →
      ∀ experimentId ∈ flag.experimentIds, ∀ experiment,
        config.experimentsById[experimentId]? = some experiment →
        ∀ userId ∈ ["alice", "bob"], state.overrides.variationOf? experiment userId = none ∧
          experiment.whitelistedVariation? userId = none := by
    rintro flag ⟨⟩ experimentId named experiment known userId listed
    cases List.mem_singleton.mp named
    cases known
    exact ⟨by simp [OverrideTable.variationOf?, OverrideTable.variationId?, state], by rfl⟩
  obtain ⟨alike, own⟩ := bucketing_id_is_the_hashed_identity Sample.homely Sample.household
  obtain ⟨events, value⟩ := alike state ∅ "banner" (Sample.member "alice") (Sample.member "bob")
    ⟨"household", by rfl⟩ rfl rfl (.inr rfl) rfl unlisted
  have served' : call'.value.variationKey = some "on" := by
    rw [value]
    exact served
  have hashed' : hashedKeys call'.events = ["household20"] := by rw [events, hashed]
  have member : .hashed "household20" ∈ call'.events := by
    rw [← mem_hashedKeys, hashed']
    exact List.mem_singleton_self _
  exact ⟨served, hashed, served', hashed', own state (Sample.member "bob") ∅ (.decide "banner")
    "household20" member⟩

end Engine
end FeatureFlags
