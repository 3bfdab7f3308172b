import FeatureFlags.Proofs.Bandit.Reuse
import FeatureFlags.Proofs.Dict

/-!
Which attributes a bandit gets to see. Only the keys that a rule is configured with matter, in
whatever order and however often their attributes are listed. Users who agree on these keys are told
apart neither by the remote service nor by the cache.
-/

namespace FeatureFlags

namespace Config

/-- The ids of the attributes that a rule's bandit is configured with. -/
def attributeIdsOf (config : Config) (ruleId : String) : List String :=
  ((config.experimentsById[ruleId]?).bind (·.bandit)).elim [] (·.attributeIds)

/-- A rule's bandit is configured with an attribute of the configuration that has this key. -/
def Lists (config : Config) (ruleId key : String) : Prop :=
  ∃ id ∈ config.attributeIdsOf ruleId, ∃ declared,
    config.attributesById[id]? = some declared ∧ declared.key = key

/-- Both configurations have the same attributes, and the ids they list for a rule's bandit differ
in their order, in repetitions and in unknown ids at most. -/
structure ListsAlike (config config' : Config) (ruleId : String) : Prop where
  attributes : config'.attributesById = config.attributesById
  ids : ∀ id, (config.attributesById[id]?).isSome →
    (id ∈ config'.attributeIdsOf ruleId ↔ id ∈ config.attributeIdsOf ruleId)

theorem ListsAlike.lists_iff {config config' : Config} {ruleId : String}
    (alike : config.ListsAlike config' ruleId) (key : String) :
    config'.Lists ruleId key ↔ config.Lists ruleId key := by
  unfold Lists
  rw [alike.attributes]
  constructor
  · rintro ⟨id, listed, declared, found, own⟩
    exact ⟨id, (alike.ids id (by simp [found])).mp listed, declared, found, own⟩
  · rintro ⟨id, listed, declared, found, own⟩
    exact ⟨id, (alike.ids id (by simp [found])).mpr listed, declared, found, own⟩

end Config

namespace Bandit

/-- The attributes a bandit gets are those of the user under the keys that the rule lists. -/
theorem relevantAttributes_eq_some {config : Config} {user : User} {ruleId key : String}
    {value : AttributeValue} :
    (relevantAttributes config user ruleId)[key]? = some value ↔
      config.Lists ruleId key ∧ user.attributes[key]? = some value := by
  unfold relevantAttributes Config.Lists Config.attributeIdsOf
  cases (config.experimentsById[ruleId]?).bind (·.bandit) with
  | none => simp
  | some settings =>
      rw [Option.elim_some, Dict.getElem?_ofPairs_of_uniform (user.attributes[·]?)]
      · constructor
        · intro member
          obtain ⟨declared, known, shown⟩ := List.mem_filterMap.mp member
          obtain ⟨id, listed, found⟩ := List.mem_filterMap.mp known
          obtain ⟨_, has, ⟨⟩⟩ := Option.map_eq_some_iff.mp shown
          exact ⟨⟨id, listed, declared, found, rfl⟩, has⟩
        · rintro ⟨⟨id, listed, declared, found, rfl⟩, has⟩
          refine List.mem_filterMap.mpr ⟨declared, List.mem_filterMap.mpr ⟨id, listed, found⟩, ?_⟩
          rw [has, Option.map_some]
      · intro pair member
        obtain ⟨declared, known, shown⟩ := List.mem_filterMap.mp member
        obtain ⟨value, has, rfl⟩ := Option.map_eq_some_iff.mp shown
        exact has

/-- Two configurations and two users with the same listed attributes show a bandit the same. -/
theorem relevantAttributes_congr {config config' : Config} {user user' : User} {ruleId : String}
    (alike : config.ListsAlike config' ruleId)
    (agree : ∀ key, config.Lists ruleId key → user'.attributes[key]? = user.attributes[key]?) :
    relevantAttributes config' user' ruleId = relevantAttributes config user ruleId := by
  apply Std.ExtTreeMap.ext_getElem?
  intro key
  apply Option.ext
  intro value
  rw [relevantAttributes_eq_some, relevantAttributes_eq_some, alike.lists_iff]
  exact and_congr_right fun listed => by rw [agree key listed]

theorem decideCached_congr (client : Client) (correlationId : Nat → String)
    {config config' : Config} {user user' : User} {ruleId : String} (options : DecideOptions)
    (state : CachingState) (same : user'.id = user.id)
    (shown : relevantAttributes config' user' ruleId = relevantAttributes config user ruleId) :
    decideCached client correlationId config' user' ruleId options state =
      decideCached client correlationId config user ruleId options state := by
  simp only [decideCached, same, shown]

/-- Whatever is asked of the remote service is asked for the inquiry itself. -/
theorem Inquiry.Handled.mem_requests {inquiry : Inquiry} {cache after : Cache}
    {result : Except Failure Choice} {requests : List Request}
    (handled : inquiry.Handled cache result requests after) {request : Request}
    (member : request ∈ requests) : ∃ correlationId, request = inquiry.request correlationId := by
  cases handled with
  | aside | failed | renewed => exact ⟨_, List.mem_singleton.mp member⟩
  | reused => cases member

/-- The caching service gives users who agree on the listed attributes the same answer: the same
result by the same calls of the remote service, and the same cache behind it. It does so for all
configurations that list the same attributes. What it sends are the listed attributes that the
user has. -/
theorem decides_by_listed_attributes (client : Client) (correlationId : Nat → String)
    {ruleId : String} (options : DecideOptions) (state : CachingState) {config config' : Config}
    {user user' : User} (alike : config.ListsAlike config' ruleId) (same : user'.id = user.id)
    (agree : ∀ key, config.Lists ruleId key → user'.attributes[key]? = user.attributes[key]?) :
    let service := Service.caching client correlationId
    let answer := service.decide config user ruleId options state
    service.decide config' user' ruleId options state = answer ∧
      answer.requests.length ≤ 1 ∧
      ∀ request ∈ answer.requests, request.ruleId = ruleId ∧ request.userId = user.id ∧
        ∀ key value, request.attributes[key]? = some value ↔
          config.Lists ruleId key ∧ user.attributes[key]? = some value := by
  intro service answer
  let inquiry : Inquiry := { client, config, user, ruleId, options, now := state.clock }
  have handled : inquiry.Handled state.cache answer.result answer.requests answer.state.cache :=
    inquiry.handled_answer correlationId state
  refine ⟨?_, handled.length_requests.1, fun request member => ?_⟩
  · exact decideCached_congr client correlationId options state same
      (relevantAttributes_congr alike agree)
  · obtain ⟨correlationId, rfl⟩ := handled.mem_requests member
    exact ⟨rfl, rfl, fun _ _ => relevantAttributes_eq_some⟩

/-- Both ask the same at the same time, about users and under configurations that a bandit cannot
tell apart. -/
structure Inquiry.Alike (inquiry other : Inquiry) : Prop where
  client : other.client = inquiry.client
  ruleId : other.ruleId = inquiry.ruleId
  options : other.options = inquiry.options
  now : other.now = inquiry.now
  user : other.user.id = inquiry.user.id
  lists : inquiry.config.ListsAlike other.config inquiry.ruleId
  agree : ∀ key, inquiry.config.Lists inquiry.ruleId key →
    other.user.attributes[key]? = inquiry.user.attributes[key]?

theorem Inquiry.Alike.answer_eq {inquiry other : Inquiry} (alike : inquiry.Alike other)
    (correlationId : Nat → String) (state : CachingState) :
    other.answer correlationId state = inquiry.answer correlationId state := by
  rw [answer, answer, alike.client, alike.ruleId, alike.options, alike.now]
  exact decideCached_congr _ _ _ _ alike.user (relevantAttributes_congr alike.lists alike.agree)

/-- What an exchange shows to the outside. -/
def Exchange.shown (exchange : Exchange) : Except Failure Choice × List Request :=
  (exchange.result, exchange.requests)

/-- Runs that a bandit cannot tell apart, inquiry by inquiry, get the same results by the same calls
and leave the same state. -/
theorem runs_alike (correlationId : Nat → String) (state : CachingState)
    {inquiries others : List Inquiry} (alike : List.Forall₂ Inquiry.Alike inquiries others) :
    (transcript correlationId state others).map Exchange.shown =
        (transcript correlationId state inquiries).map Exchange.shown ∧
      stateAfter correlationId state others = stateAfter correlationId state inquiries := by
  induction alike generalizing state with
  | nil => exact ⟨rfl, rfl⟩
  | @cons inquiry other _ _ first _ ih =>
      have same := first.answer_eq correlationId state
      obtain ⟨shown, left⟩ := ih (inquiry.answer correlationId state).state
      constructor
      · simp only [transcript, List.map_cons, Inquiry.exchange, Exchange.shown, same, shown]
      · simpa only [stateAfter, List.foldl_cons, same] using left

namespace Sample

/-- The same project, with the attribute of the rule listed twice, behind one that is not there. -/
def byAgeRelisted : Config :=
  { byAge with
    experimentsById := Dict.ofPairs [("20",
      { id := "20", key := "bandit", status := .running
        variations := [], trafficAllocation := []
        bandit := some { attributeIds := ["a9", "a1", "a1"], trafficAllocation := 10000 } })] }

/-- The visitor of the same age, with a plan that the rule does not list. -/
def goldenThirty : User :=
  { id := "user", attributes := Dict.ofPairs [("plan", .string "gold"), ("age", .string "thirty")] }

theorem byAge_listsAlike : byAge.ListsAlike byAgeRelisted "20" where
  attributes := rfl
  ids id known := by
    have listed : byAge.attributeIdsOf "20" = ["a1"] := by rfl
    have relisted : byAgeRelisted.attributeIdsOf "20" = ["a9", "a1", "a1"] := by rfl
    have unknown : byAge.attributesById["a9"]? = none := by rfl
    rw [listed, relisted]
    constructor
    · intro member
      rcases List.mem_cons.mp member with rfl | again
      · rw [unknown] at known
        cases known
      · simpa using again
    · intro member
      simpa using Or.inr (List.mem_singleton.mp member)

end Sample

/-- A choice that was cached for a visitor is given to one with another plan, and after the list of
attributes was written anew. -/
theorem decides_by_listed_attributes_whatever_the_plan :
    let service := Service.caching Sample.visit.client Nat.repr
    let state := (Sample.thirty.answer Nat.repr (.fresh 10 300)).state
    let answer := service.decide Sample.byAge Sample.thirty.user "20" ∅ state
    service.decide Sample.byAgeRelisted Sample.goldenThirty "20" ∅ state = answer ∧
      answer.requests = [] ∧ answer.result = .ok { variationId := "1", correlationId := "0" } := by
  intro service state answer
  have agree : ∀ key, Sample.byAge.Lists "20" key →
      Sample.goldenThirty.attributes[key]? = Sample.thirty.user.attributes[key]? := by
    rintro key ⟨id, listed, declared, found, rfl⟩
    cases List.mem_singleton.mp (show id ∈ ["a1"] from listed)
    have known : Sample.byAge.attributesById["a1"]? = some { id := "a1", key := "age" } := by rfl
    cases known.symm.trans found
    rfl
  have sameUser : Sample.goldenThirty.id = Sample.thirty.user.id := rfl
  obtain ⟨same, -⟩ := decides_by_listed_attributes Sample.visit.client Nat.repr ∅ state
    Sample.byAge_listsAlike sameUser agree
  exact ⟨same, rfl, rfl⟩

end Bandit
end FeatureFlags
