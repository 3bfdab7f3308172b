import FeatureFlags.Proofs.Bandit.Cache
import FeatureFlags.Proofs.Bandit.Keys

/-!
What a caching service does for one inquiry: it calls the remote service past the cache, gives a
cached choice again, or calls the remote service and caches the choice. It never calls it twice.
-/

namespace FeatureFlags.Bandit

/-- What a caching service is asked, at what time, and the remote service behind it at that time. -/
structure Inquiry where
  client : Client
  config : Config
  user : User
  ruleId : String
  options : DecideOptions := ∅
  now : Int := 0

namespace Inquiry

def ignoresCache (inquiry : Inquiry) : Bool := inquiry.options.contains .ignoreBanditCache

def resets (inquiry : Inquiry) : Bool := inquiry.options.contains .resetBanditCache

def invalidates (inquiry : Inquiry) : Bool := inquiry.options.contains .invalidateUserBanditCache

def attributes (inquiry : Inquiry) : Attributes :=
  relevantAttributes inquiry.config inquiry.user inquiry.ruleId

def key (inquiry : Inquiry) : String := cacheKey inquiry.user.id inquiry.ruleId

def request (inquiry : Inquiry) (correlationId : String) : Request :=
  { ruleId := inquiry.ruleId, userId := inquiry.user.id, attributes := inquiry.attributes,
    correlationId }

def answer (inquiry : Inquiry) (correlationId : Nat → String) (state : CachingState) :
    Answer CachingState :=
  decideCached inquiry.client correlationId inquiry.config inquiry.user inquiry.ruleId
    inquiry.options { state with clock := inquiry.now }

/-- Both are about the same user and the same rule. -/
def SamePair (inquiry other : Inquiry) : Prop :=
  inquiry.user.id = other.user.id ∧ inquiry.ruleId = other.ruleId

theorem key_eq_iff {inquiry other : Inquiry} :
    inquiry.key = other.key ↔ inquiry.SamePair other :=
  ⟨cacheKey_inj, fun ⟨users, rules⟩ => by rw [key, key, users, rules]⟩

/-- The cache as it is looked into. -/
def prepared (inquiry : Inquiry) (cache : Cache) : Cache :=
  prepareCache inquiry.options inquiry.key cache

/-- The entry for a choice that was fetched. -/
def entry (inquiry : Inquiry) (choice : Choice) : CacheEntry :=
  { key := inquiry.key
    value := { attributesHash := hashAttributes inquiry.attributes, choice }
    storedAt := inquiry.now }

/-- What becomes of the reply of the remote service. -/
inductive Replied (inquiry : Inquiry) (correlationId : String) : Except Failure Choice → Prop where
  | refused (failure : Failure) : Replied inquiry correlationId (.error failure)
  | chosen {variationId : String} (named : variationId ≠ "")
      (reply : inquiry.client (inquiry.request correlationId) = .ok variationId) :
      Replied inquiry correlationId (.ok { variationId, correlationId })

/-- The result, the requests and the cache that the service makes of an inquiry and a cache. -/
inductive Handled (inquiry : Inquiry) (cache : Cache) :
    Except Failure Choice → List Request → Cache → Prop where
  | aside {correlationId : String} {result : Except Failure Choice}
      (ignores : inquiry.ignoresCache = true) (replied : inquiry.Replied correlationId result) :
      Handled inquiry cache result [inquiry.request correlationId] cache
  | reused {found : CacheEntry} (consults : inquiry.ignoresCache = false)
      (member : found ∈ (inquiry.prepared cache).entries) (key : found.key = inquiry.key)
      (fresh : (inquiry.prepared cache).isExpired inquiry.now found = false)
      (same : found.value.attributesHash = hashAttributes inquiry.attributes) :
      Handled inquiry cache (.ok found.value.choice) []
        { inquiry.prepared cache with
          entries := found :: ((inquiry.prepared cache).remove inquiry.key).entries }
  | failed {correlationId : String} {failure : Failure} {left : Cache}
      (consults : inquiry.ignoresCache = false) (kept : left.Within (inquiry.prepared cache)) :
      Handled inquiry cache (.error failure) [inquiry.request correlationId] left
  | renewed {correlationId : String} {choice : Choice} {left : Cache}
      (consults : inquiry.ignoresCache = false) (kept : left.Within (inquiry.prepared cache))
      (replied : inquiry.Replied correlationId (.ok choice)) :
      Handled inquiry cache (.ok choice) [inquiry.request correlationId]
        (left.save inquiry.now inquiry.key (inquiry.entry choice).value)

theorem Handled.bounds {inquiry : Inquiry} {cache after : Cache}
    {result : Except Failure Choice} {requests : List Request}
    (handled : inquiry.Handled cache result requests after) :
    after.capacity = cache.capacity ∧ after.timeout = cache.timeout := by
  have prepared := prepareCache_within inquiry.options inquiry.key cache
  cases handled with
  | aside => exact ⟨rfl, rfl⟩
  | reused => exact ⟨prepared.capacity, prepared.timeout⟩
  | failed _ kept | renewed _ kept _ =>
      exact ⟨kept.capacity.trans prepared.capacity, kept.timeout.trans prepared.timeout⟩

section Answer
variable (inquiry : Inquiry) (correlationId : Nat → String) (state : CachingState)

private theorem replied_fetch :
    inquiry.Replied (correlationId state.issued)
      (fetch inquiry.client correlationId inquiry.ruleId inquiry.user.id inquiry.attributes
        state).result := by
  simp only [fetch]
  split
  · exact .refused _
  · exact .refused _
  · next variationId named reply => exact .chosen named reply

private theorem handled_fetchAndSave {cache left : Cache} (time : state.clock = inquiry.now)
    (held : state.cache = left) (consults : inquiry.ignoresCache = false)
    (kept : left.Within (inquiry.prepared cache)) {answer : Answer CachingState}
    (made : answer = fetchAndSave inquiry.client correlationId inquiry.ruleId inquiry.user.id
      inquiry.attributes state) :
    inquiry.Handled cache answer.result answer.requests answer.state.cache := by
  subst made held
  have replied := replied_fetch inquiry correlationId state
  unfold fetchAndSave
  cases result : (fetch inquiry.client correlationId inquiry.ruleId inquiry.user.id
      inquiry.attributes state).result with
  | error failure =>
      simp only [result]
      exact .failed consults kept
  | ok choice =>
      have clock : (fetch inquiry.client correlationId inquiry.ruleId inquiry.user.id
        inquiry.attributes state).state.clock = inquiry.now := time
      simp only [clock, result]
      exact .renewed consults kept (result ▸ replied)

/-- The service does one of the four things for every inquiry. -/
theorem handled_answer :
    inquiry.Handled state.cache (inquiry.answer correlationId state).result
      (inquiry.answer correlationId state).requests
      (inquiry.answer correlationId state).state.cache := by
  generalize made : inquiry.answer correlationId state = given
  simp only [answer, decideCached] at made
  cases ignores : inquiry.options.contains .ignoreBanditCache with
  | true =>
      rw [if_pos ignores] at made
      subst made
      exact .aside ignores (replied_fetch inquiry correlationId { state with clock := inquiry.now })
  | false =>
      rw [if_neg (by simp [ignores])] at made
      have consults : inquiry.ignoresCache = false := ignores
      rcases Cache.lookup_cases (inquiry.prepared state.cache) inquiry.now inquiry.key with
        ⟨nothing, kept⟩ | ⟨found, member, key, fresh, looked⟩
      · simp only [prepared, Inquiry.key] at nothing
        simp only [nothing] at made
        exact handled_fetchAndSave inquiry correlationId _ rfl rfl consults kept made.symm
      · simp only [prepared, Inquiry.key] at looked
        simp only [looked] at made
        split at made
        · next same =>
            subst made
            exact .reused consults member key fresh same
        · refine handled_fetchAndSave inquiry correlationId _ rfl rfl consults ?_ made.symm
          exact (Cache.remove_within _ _).trans (Cache.moved_within member _)

end Answer
end Inquiry
end FeatureFlags.Bandit
