import FeatureFlags.Proofs.Bucketing.Eligibility
import FeatureFlags.Proofs.Decision.HashedKeys
import FeatureFlags.Proofs.Decision.RolloutLooks
import FeatureFlags.Proofs.Engine.Calls
import FeatureFlags.Proofs.Project.Config

/-!
Whom and what a key stands for. Every key that is hashed on the way to a decision is the identity of
the user followed by the id of an entity of the project.
-/

namespace FeatureFlags

/-- The identity by which a user is hashed. -/
def User.hashedId (user : User) : String :=
  match user.attributes[Attributes.bucketingId]? with
  | some (.string id) => id
  | _ => user.id

theorem User.value_bucketingId (user : User) : user.bucketingId.value = user.hashedId := by
  simp only [bucketingId, hashedId]
  cases user.attributes[Attributes.bucketingId]? with
  | none => rfl
  | some given => cases given <;> rfl

/-- The ids of what users are hashed for: groups, experiments, rollout rules and holdouts. -/
def Datafile.hashedIds (datafile : Datafile) : List String :=
  datafile.groups.map (·.id) ++
    (Config.experimentsOf datafile ++ datafile.rollouts.flatMap (·.rules) ++
      datafile.holdouts.map (·.experiment)).map (·.id)

/-- A list with the ids of all that users are hashed for. -/
structure Config.IdsIn (config : Config) (ids : List String) : Prop where
  group : ∀ {key : String} {group : Group}, config.groupsById[key]? = some group → group.id ∈ ids
  experiment : ∀ {experiment : Experiment}, config.Knows experiment → experiment.id ∈ ids
  rule : ∀ {key : String} {rollout : Rollout}, config.rolloutsById[key]? = some rollout →
    ∀ rule ∈ rollout.rules, rule.id ∈ ids
  holdout : ∀ {flagId : String}, ∀ holdout ∈ config.holdoutsForFlag flagId,
    holdout.experiment.id ∈ ids

theorem Config.idsIn_ofDatafile (datafile : Datafile) :
    (ofDatafile datafile).IdsIn datafile.hashedIds where
  group found := by
    obtain ⟨original, member, rfl⟩ := List.mem_map.mp (Dict.getElem?_index found).1
    exact List.mem_append_left _ (List.mem_map.mpr ⟨original, member, rfl⟩)
  experiment known := by
    have member := List.mem_append_left (datafile.holdouts.map (·.experiment))
      (mem_of_knows_ofDatafile known)
    exact List.mem_append_right _ (List.mem_map_of_mem member)
  rule found rule member := by
    have listed := List.mem_flatMap.mpr ⟨_, (Dict.getElem?_index found).1, member⟩
    exact List.mem_append_right _ (List.mem_map_of_mem
      (List.mem_append_left _ (List.mem_append_right _ listed)))
  holdout holdout member := by
    have listed := List.mem_map_of_mem (f := Holdout.experiment) (mem_of_mem_holdoutsForFlag member)
    exact List.mem_append_right _ (List.mem_map_of_mem (List.mem_append_right _ listed))

namespace Event
variable {identity : String} {ids : List String}

/-- All keys are hashed for this identity, and for entities with these ids. -/
def KeysFrom (identity : String) (ids : List String) (events : List Event) : Prop :=
  ∀ key, .hashed key ∈ events → ∃ id ∈ ids, key = identity ++ id

theorem keysFrom_of_unhashed {events : List Event} (unhashed : hashedKeys events = []) :
    KeysFrom identity ids events := by
  intro key hashed
  rw [← mem_hashedKeys, unhashed] at hashed
  cases hashed

theorem keysFrom_nil : KeysFrom identity ids [] := keysFrom_of_unhashed rfl

theorem keysFrom_singleton {id : String} (member : id ∈ ids) :
    KeysFrom identity ids [.hashed (identity ++ id)] := by
  intro key hashed
  cases List.mem_singleton.mp hashed
  exact ⟨id, member, rfl⟩

theorem KeysFrom.append {first second : List Event} (left : KeysFrom identity ids first)
    (right : KeysFrom identity ids second) : KeysFrom identity ids (first ++ second) :=
  fun key hashed => (List.mem_append.mp hashed).elim (left key) (right key)

theorem KeysFrom.flatMap {α : Type} {f : α → List Event} {items : List α}
    (each : ∀ a ∈ items, KeysFrom identity ids (f a)) :
    KeysFrom identity ids (items.flatMap f) := by
  intro key hashed
  obtain ⟨a, member, here⟩ := List.mem_flatMap.mp hashed
  exact each a member key here

end Event

namespace Bucketing
open Event
variable {config : Config} {experiment : Experiment} {ids : List String}

theorem keysFrom_admittedByGroup (sharder : Sharder) (experiment : Experiment)
    (bucketingId : String) (listed : config.IdsIn ids) :
    KeysFrom bucketingId ids (admittedByGroup sharder config experiment bucketingId).events := by
  by_cases grouped : ∃ group, config.InRandomGroup experiment group
  · obtain ⟨group, member⟩ := grouped
    obtain ⟨groupId, _, _, known⟩ := member.named
    rw [events_admittedByGroup_of_random sharder config bucketingId member]
    exact keysFrom_singleton (listed.group known)
  · rw [events_admittedByGroup_of_not_random sharder config bucketingId (not_exists.mp grouped)]
    exact keysFrom_nil

theorem keysFrom_admitted (sharder : Sharder) (bucketingId : String) (listed : config.IdsIn ids)
    (member : experiment.id ∈ ids) :
    KeysFrom bucketingId ids
      ((admittedByGroup sharder config experiment bucketingId).events ++
        if (admittedByGroup sharder config experiment bucketingId).value then
          [.hashed (bucketingId ++ experiment.id)]
        else []) := by
  refine (keysFrom_admittedByGroup sharder experiment bucketingId listed).append ?_
  split
  · exact keysFrom_singleton member
  · exact keysFrom_nil

end Bucketing

namespace Context
open Event
variable {σ : Type} {context : Context σ} {ids : List String} {start finish : Progress σ}
  {events : List Event}

/-- Nothing is hashed but for the user and for entities with these ids. -/
def KeysFrom (context : Context σ) (ids : List String) (events : List Event) : Prop :=
  Event.KeysFrom context.user.hashedId ids events

section Listed
variable (listed : context.config.IdsIn ids)
include listed

theorem keysFrom_hashed {experiment : Experiment} (member : experiment.id ∈ ids) :
    context.KeysFrom ids (context.hashed experiment).events := by
  rw [hashed, Bucketing.events_bucket, User.value_bucketingId]
  exact Bucketing.keysFrom_admitted context.sharder _ listed member

theorem keysFrom_share {experiment : Experiment} (member : experiment.id ∈ ids)
    (settings : BanditSettings) :
    context.KeysFrom ids (context.share experiment settings).events := by
  rw [share, Bucketing.events_bucketForBandit, User.value_bucketingId]
  exact Bucketing.keysFrom_admitted context.sharder _ listed member

theorem Assigned.keysFrom {experiment : Experiment} {outcome : Outcome}
    (member : experiment.id ∈ ids)
    (assigned : Assigned context experiment start outcome events finish) :
    context.KeysFrom ids events := by
  have asked (requests : List Bandit.Request) :
      hashedKeys (.consulted experiment.id :: requests.map .fetched) = [] := by
    simp [hashedKeys, List.filterMap_map]
  cases assigned with
  | hash _ => exact keysFrom_hashed listed member
  | outsideShare _ _ _ => exact keysFrom_share listed member _
  | bandit _ _ _ =>
      exact (keysFrom_share listed member _).append (keysFrom_of_unhashed (asked _))

theorem Staged.keysFrom {experiment : Experiment} {outcome : Outcome}
    (member : experiment.id ∈ ids)
    (staged : Staged context experiment start outcome events finish) :
    context.KeysFrom ids events := by
  cases staged with
  | inactive _ | override _ _ | whitelist _ _ _ => exact keysFrom_nil
  | sticky _ _ _ _ | outsideAudiences _ _ =>
      exact keysFrom_of_unhashed (context.hashedKeys_lookups start)
  | assigned _ _ assigned =>
      exact (keysFrom_of_unhashed (context.hashedKeys_lookups start)).append
        (assigned.keysFrom listed member)

theorem PassedOver.keysFrom {flag : Flag} {experimentIds : List String}
    (passed : PassedOver context flag start experimentIds events finish) :
    context.KeysFrom ids events := by
  induction passed with
  | nil => exact keysFrom_nil
  | unknown _ _ ih => exact ih
  | undecided known _ staged _ ih =>
      exact (staged.keysFrom listed (listed.experiment ⟨_, .inl known⟩)).append ih

theorem RuleDecides.keysFrom {flag : Flag} {experiment : Experiment} {outcome : Outcome}
    (member : experiment.id ∈ ids)
    (decides : RuleDecides context flag experiment start outcome events finish) :
    context.KeysFrom ids events := by
  cases decides with
  | forced _ => exact keysFrom_nil
  | staged _ staged _ => exact staged.keysFrom listed member

theorem keysFrom_holdoutEvents {flag : Flag} {looked : List Holdout}
    (members : ∀ holdout ∈ looked, holdout ∈ context.config.holdoutsForFlag flag.id) :
    context.KeysFrom ids (looked.flatMap context.holdoutEvents) := by
  refine KeysFrom.flatMap fun holdout member => ?_
  simp only [holdoutEvents]
  split
  · exact keysFrom_hashed listed (listed.holdout holdout (members holdout member))
  · exact keysFrom_nil

theorem keysFrom_resolveRollout (flag : Flag) :
    context.KeysFrom ids (context.resolveRollout flag).events := by
  obtain ⟨path, _, _, events⟩ := exists_walk context flag
  rw [events, events_lookAt_flatMap]
  refine KeysFrom.flatMap fun i _ => ?_
  cases here : (context.rolloutRules flag)[i]? with
  | none => exact keysFrom_nil
  | some rule =>
      have member := List.mem_of_getElem? here
      simp only [rolloutRules] at member
      cases found : context.config.rolloutsById[flag.rolloutId]? with
      | none => simp [found] at member
      | some rollout =>
          rw [found] at member
          exact keysFrom_hashed listed (listed.rule found rule member)

theorem Layered.keysFrom {flag : Flag} {decided : FlagOutcome}
    (layered : Layered context flag start decided events finish) :
    context.KeysFrom ids events := by
  have holdouts := keysFrom_holdoutEvents listed fun holdout
    (member : holdout ∈ context.config.holdoutsForFlag flag.id) => member
  cases layered with
  | forced _ => exact keysFrom_nil
  | holdout _ order _ _ =>
      refine keysFrom_holdoutEvents listed fun holdout member =>
        show holdout ∈ context.config.holdoutsForFlag flag.id from ?_
      rw [order]
      simp only [List.mem_append, List.mem_cons] at member ⊢
      grind
  | experiment _ _ passed known decides =>
      exact holdouts.append ((passed.keysFrom listed).append
        (decides.keysFrom listed (listed.experiment ⟨_, .inl known⟩)))
  | rollout _ passed _ | nothing _ passed _ =>
      exact holdouts.append ((passed.keysFrom listed).append (keysFrom_resolveRollout listed flag))

theorem Answered.keysFrom {keys : List String} {answers : List Answer}
    (answered : Answered context start keys answers events finish) :
    context.KeysFrom ids events := by
  induction answered with
  | nil => exact keysFrom_nil
  | unknown _ _ ih => exact ih
  | known _ layered _ ih => exact (layered.keysFrom listed).append ih

end Listed

end Context
end FeatureFlags
