import FeatureFlags.Proofs.Decision.LayerPrecedence
import FeatureFlags.Proofs.Engine.Batch

/-!
A call for several flags agrees with calls for each of them, as a caller sees it.
-/

namespace FeatureFlags
namespace Engine
open Context
variable {σ : Type}

section Calls
variable (engine : Engine σ) (state : EngineState σ) (config : Config) (user : User)
  (options : DecideOptions)

theorem state_decide_of_ignored (noBandit : engine.bandit = none)
    (ignored : (engine.context state config user (engine.effectiveOptions options)).profiles = none)
    (key : String) : (engine.decide state config user options key).state = state := by
  cases known : config.flagsByKey[key]? with
  | none => simp only [decide, known]
  | some flag =>
      obtain ⟨decided, events, finish, layered, reasons, performed⟩ :=
        decide_layered engine state config user options known
      rw [performed]
      refine (leave_of_ignored ignored state finish).trans ?_
      rw [layered.bandit_eq noBandit]

theorem state_decide_of_store (noBandit : engine.bandit = none) {store : ProfileStore}
    (profiles : (engine.context state config user (engine.effectiveOptions options)).profiles =
      some store)
    (inMemory : store.InMemory) (filed : store.Filed user.id) (key : String) :
    (engine.decide state config user options key).state =
      { state with profiles := some ((engine.context state config user
          (engine.effectiveOptions options)).storeAfterKey store key) } := by
  cases known : config.flagsByKey[key]? with
  | none =>
      have provided := (profiles_of_context profiles).1
      simp only [decide, known, storeAfterKey, context, ← provided]
  | some flag =>
      obtain ⟨decided, events, finish, layered, reasons, performed⟩ :=
        decide_layered engine state config user options known
      have fresh : ({ bandit := state.bandit } : Progress σ).tracker.Faithful store user.id :=
        Tracker.faithful_idle filed
      have saved := (layered.saved_eq noBandit profiles inMemory fresh).1
      rw [performed]
      refine (leave_of_store profiles inMemory state finish).trans ?_
      rw [saved, layered.bandit_eq noBandit, storeAfterKey]
      simp only [context, known, Tracker.saved]

/-- Single calls one after another, with profiles. -/
theorem foldl_decide_of_store (noBandit : engine.bandit = none) {store : ProfileStore}
    (profiles : (engine.context state config user (engine.effectiveOptions options)).profiles =
      some store)
    (inMemory : store.InMemory) (filed : store.Filed user.id) (keys : List String) :
    keys.foldl (fun state key => (engine.decide state config user options key).state) state =
      { state with profiles := some (keys.foldl (engine.context state config user
          (engine.effectiveOptions options)).storeAfterKey store) } := by
  induction keys generalizing state store with
  | nil =>
      rw [List.foldl_nil, List.foldl_nil,
        ← (profiles_of_context profiles).1]
  | cons key keys ih =>
      -- The next call finds another store in a context that is otherwise the same.
      let context := engine.context state config user (engine.effectiveOptions options)
      let next : EngineState σ :=
        { state with profiles := some (context.storeAfterKey store key) }
      have heeded := (profiles_of_context profiles).2
      have profiles' : (engine.context next config user (engine.effectiveOptions options)).profiles =
          some (context.storeAfterKey store key) :=
        profiles_of_heeded engine next config user heeded
      have same : (engine.context next config user
          (engine.effectiveOptions options)).storeAfterKey = context.storeAfterKey := by
        funext store key
        exact storeAfterKey_withProfiles context _ store key
      have rest := ih next profiles' (storeAfterKey_inMemory inMemory key)
        (storeAfterKey_filed filed key)
      rw [List.foldl_cons, List.foldl_cons,
        state_decide_of_store engine state config user options noBandit profiles inMemory filed key]
      rw [same] at rest
      exact rest

theorem foldl_decide_of_ignored (noBandit : engine.bandit = none)
    (ignored : (engine.context state config user (engine.effectiveOptions options)).profiles = none)
    (keys : List String) :
    keys.foldl (fun state key => (engine.decide state config user options key).state) state =
      state := by
  induction keys with
  | nil => rfl
  | cons key keys ih =>
      rw [List.foldl_cons,
        state_decide_of_ignored engine state config user options noBandit ignored key]
      exact ih

/-- A batch leaves the state that single calls leave one after another. -/
theorem state_decideForKeys (noBandit : engine.bandit = none)
    (ready : ∀ store, state.profiles = some store → store.InMemory ∧ store.Filed user.id)
    (keys : List String) :
    (engine.decideForKeys state config user options keys).state =
      keys.foldl (fun state key => (engine.decide state config user options key).state) state := by
  obtain ⟨answers, events, finish, answered, saveReasons, performed⟩ :=
    decideForKeys_answered engine state config user options keys
  have sameBandit := answered.bandit_eq noBandit
  rw [performed]
  cases profiles : (engine.context state config user
      (engine.effectiveOptions options)).profiles with
  | none =>
      rw [foldl_decide_of_ignored engine state config user options noBandit profiles]
      refine (leave_of_ignored profiles state finish).trans ?_
      rw [sameBandit]
  | some store =>
      obtain ⟨inMemory, filed⟩ := ready store (profiles_of_context profiles).1
      have fresh : ({ bandit := state.bandit } : Progress σ).tracker.Faithful store user.id :=
        Tracker.faithful_idle filed
      have saved := answered.saved_eq noBandit profiles inMemory fresh
      rw [foldl_decide_of_store engine state config user options noBandit profiles inMemory filed]
      refine (leave_of_store profiles inMemory state finish).trans ?_
      rw [saved, sameBandit, Tracker.saved]

theorem unexplained_decide (noBandit : engine.bandit = none) {key : String} {flag : Flag}
    {decided : FlagOutcome} (known : config.flagsByKey[key]? = some flag)
    (alike : let context := engine.context state config user (engine.effectiveOptions options)
      decided.Alike (context.flagOutcome flag (context.profileAt { bandit := state.bandit })))
    (reasons : List Reason) :
    (FlagDecision.ofOutcome flag decided reasons user config
        (engine.effectiveOptions options)).unexplained =
      (engine.decide state config user options key).value.unexplained := by
  obtain ⟨decided', events, finish, layered, reasons', performed⟩ :=
    decide_layered engine state config user options known
  have decides := layered.eq_flagOutcome noBandit
  have alike' : decided.Alike decided' := by
    rw [decides]
    exact alike
  rw [performed]
  exact FlagDecision.unexplained_ofOutcome alike' flag reasons reasons' user config _

/-- An entry of a batch is what the single call gives, apart from its stage and reasons. -/
theorem unexplained_keyedDecision (noBandit : engine.bandit = none) {answer : Answer}
    (serves : let context := engine.context state config user (engine.effectiveOptions options)
      Serves context (context.profileAt { bandit := state.bandit }) answer)
    (saveReasons : List Reason) :
    (keyedDecision config user (engine.effectiveOptions options) saveReasons answer).unexplained =
      (engine.decide state config user options answer.1).value.unexplained := by
  cases serves with
  | @unknown key unknown =>
      have missing : config.flagsByKey[key]? = none := unknown
      simp only [keyedDecision, decide, missing]
  | @known key flag decided reasons known alike =>
      exact unexplained_decide engine state config user options noBandit known alike _

theorem flagKey_keyedDecision (indexed : config.WellIndexed) {context : Context σ}
    (same : context.config = config) {profile : Option UserProfile} {answer : Answer}
    (serves : Serves context profile answer) (saveReasons : List Reason) :
    (keyedDecision config user options saveReasons answer).flagKey = answer.1 := by
  cases serves with
  | unknown _ => rfl
  | known known _ =>
      rw [same] at known
      exact indexed.flag_key known

/-- A batch shows what single calls give, for each of its keys that is listed. -/
theorem value_decideForKeys (noBandit : engine.bandit = none) (indexed : config.WellIndexed)
    (keys : List String) (key : String) :
    let single := (engine.decide state config user options key).value
    (engine.decideForKeys state config user options keys).value[key]?.map (·.unexplained) =
      if key ∈ keys ∧
          (!(engine.effectiveOptions options).contains .enabledFlagsOnly || single.enabled) = true then
        some single.unexplained
      else none := by
  intro single
  obtain ⟨answers, events, finish, answered, saveReasons, performed⟩ :=
    decideForKeys_answered engine state config user options keys
  have serves := answered.serves indexed noBandit
  let keyed := keyedDecision config user (engine.effectiveOptions options) saveReasons
  let shown (key : String) := (engine.decide state config user options key).value.unexplained
  let listed (decision : FlagDecision) :=
    !(engine.effectiveOptions options).contains .enabledFlagsOnly || decision.enabled
  have own : ∀ answer ∈ answers, (keyed answer).flagKey = answer.1 := fun answer member =>
    flagKey_keyedDecision config user _ indexed rfl (serves answer member) saveReasons
  have seen : ∀ answer ∈ answers, (keyed answer).unexplained = shown answer.1 :=
    fun answer member => unexplained_keyedDecision engine state config user options noBandit
      (serves answer member) saveReasons
  -- All decisions under one key look the same, so it does not matter which of them is kept.
  have uniform : ∀ decision ∈ (answers.map keyed).filter listed,
      decision.unexplained = shown decision.flagKey := by
    intro decision member
    obtain ⟨answer, answering, rfl⟩ := List.mem_map.mp (List.mem_filter.mp member).1
    rw [own answer answering, seen answer answering]
  have listed_iff : key ∈ ((answers.map keyed).filter listed).map (·.flagKey) ↔
      key ∈ keys ∧ listed single = true := by
    have enabled : ∀ answer ∈ answers, answer.1 = key → listed (keyed answer) = listed single := by
      intro answer member same
      have agree := congrArg FlagDecision.enabled (seen answer member)
      rw [same] at agree
      simp only [listed]
      rw [show (keyed answer).enabled = single.enabled from agree]
    rw [← answered.map_fst]
    simp only [List.mem_map, List.mem_filter]
    constructor
    · rintro ⟨_, ⟨⟨answer, member, rfl⟩, keep⟩, same⟩
      rw [own answer member] at same
      exact ⟨⟨answer, member, same⟩, (enabled answer member same) ▸ keep⟩
    · rintro ⟨⟨answer, member, same⟩, keep⟩
      exact ⟨_, ⟨⟨answer, member, rfl⟩, (enabled answer member same).trans keep⟩,
        (own answer member).trans same⟩
  rw [performed]
  simpa only [listed_iff] using Dict.map_getElem?_index uniform key

theorem foldl_decide_perm (noBandit : engine.bandit = none) (indexed : config.WellIndexed)
    (ready : ∀ store, state.profiles = some store → store.InMemory ∧ store.Filed user.id)
    {keys keys' : List String} (perm : keys.Perm keys') :
    keys.foldl (fun state key => (engine.decide state config user options key).state) state =
      keys'.foldl (fun state key => (engine.decide state config user options key).state) state := by
  cases profiles : (engine.context state config user
      (engine.effectiveOptions options)).profiles with
  | none =>
      rw [foldl_decide_of_ignored engine state config user options noBandit profiles,
        foldl_decide_of_ignored engine state config user options noBandit profiles]
  | some store =>
      obtain ⟨inMemory, filed⟩ := ready store (profiles_of_context profiles).1
      let context := engine.context state config user (engine.effectiveOptions options)
      have same : keys.foldl context.storeAfterKey store = keys'.foldl context.storeAfterKey store :=
        foldl_storeAfterKey_perm indexed perm inMemory filed
      rw [foldl_decide_of_store engine state config user options noBandit profiles inMemory filed,
        foldl_decide_of_store engine state config user options noBandit profiles inMemory filed, same]

end Calls

/-- A call for several flags serves what single calls serve, and leaves what they leave one after
another, in whatever order. -/
theorem decideForKeys_agrees_with_decide (engine : Engine σ) (noBandit : engine.bandit = none)
    (state : EngineState σ) (datafile : Datafile) (user : User) (options : DecideOptions)
    (ready : ∀ store, state.profiles = some store → store.InMemory ∧ store.Filed user.id)
    (keys : List String) :
    let config := Config.ofDatafile datafile
    let single (state : EngineState σ) (key : String) :=
      engine.decide state config user options key
    let batch := engine.decideForKeys state config user options keys
    (∀ key : String, batch.value[key]?.map (·.unexplained) =
        if key ∈ keys ∧ (!(engine.effectiveOptions options).contains .enabledFlagsOnly ||
            (single state key).value.enabled) = true then
          some (single state key).value.unexplained
        else none) ∧
      batch.state = keys.foldl (fun state key => (single state key).state) state ∧
      ∀ keys', keys.Perm keys' →
        let reordered := engine.decideForKeys state config user options keys'
        (∀ key : String, reordered.value[key]?.map (·.unexplained) =
            batch.value[key]?.map (·.unexplained)) ∧
          reordered.state = batch.state := by
  intro config single batch
  have indexed := Config.wellIndexed_ofDatafile datafile
  have values (keys : List String) :=
    value_decideForKeys engine state config user options noBandit indexed keys
  have states (keys : List String) :=
    state_decideForKeys engine state config user options noBandit ready keys
  refine ⟨values keys, states keys, fun keys' perm => ⟨fun key => ?_, ?_⟩⟩
  · rw [values keys' key, values keys key]
    simp only [perm.mem_iff]
  · rw [states keys', states keys]
    exact (foldl_decide_perm engine state config user options noBandit indexed ready perm).symm

namespace Sample

/-- Two flags that share an experiment. -/
def shared : Datafile :=
  { experiments := [everyone]
    flags := [{ id := "31", key := "left", experimentIds := ["20"] },
      { id := "32", key := "right", experimentIds := ["20"] }] }

end Sample

theorem decideForKeys_of_shared_experiment :
    let single := Sample.first.decide Sample.empty (.ofDatafile Sample.shared) { id := "user" } ∅
      "right"
    let batch := Sample.first.decideForKeys Sample.empty (.ofDatafile Sample.shared)
      { id := "user" } ∅ ["left", "right"]
    single.value.stage = some .experiment ∧
      batch.value["right"]?.map (·.stage) = some (some .sticky) ∧
      batch.value["right"]?.map (·.unexplained) = some single.value.unexplained := by
  have ready : ∀ store, Sample.empty.profiles = some store →
      store.InMemory ∧ store.Filed "user" := by
    intro store provided
    cases provided
    exact ⟨⟨rfl, rfl⟩, fun stored _ found _ => by simp at found⟩
  obtain ⟨values, _, _⟩ := decideForKeys_agrees_with_decide Sample.first rfl Sample.empty
    Sample.shared { id := "user" } ∅ ready ["left", "right"]
  refine ⟨by rfl, by rfl, ?_⟩
  exact values "right"

end Engine
end FeatureFlags
