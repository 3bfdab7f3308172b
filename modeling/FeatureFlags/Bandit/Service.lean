import FeatureFlags.Bandit.Cache
import FeatureFlags.Decision.Options
import FeatureFlags.Hash.Murmur3
import FeatureFlags.Project.Config
import FeatureFlags.User

/-!
Services that decide for bandits. The caching service keeps the choice of each user and rule for as
long as the attributes of the rule stay the same, and calls the remote service otherwise.
-/

namespace FeatureFlags.Bandit

/-- What a service answers, the calls it made for that, and the state it leaves behind. -/
structure Answer (σ : Type) where
  result : Except Failure Choice
  requests : List Request := []
  state : σ

structure Service (σ : Type) where
  decide : Config → User → (ruleId : String) → DecideOptions → σ → Answer σ

/-- A remote service: the id of the variation it chooses for a request. -/
abbrev Client := Request → Except Failure String

structure CachingState where
  cache : Cache
  /-- How many correlation ids were issued. -/
  issued : Nat := 0
  clock : Int := 0

/-- The attributes a rule is configured with, as far as the user has them. -/
def relevantAttributes (config : Config) (user : User) (ruleId : String) : Attributes :=
  match (config.experimentsById[ruleId]?).bind (·.bandit) with
  | none => ∅
  | some settings =>
    let attributes := settings.attributeIds.filterMap (config.attributesById[·]?)
    Dict.ofPairs (attributes.filterMap fun declared =>
      (user.attributes[declared.key]?).map (declared.key, ·))

/-- The key of a user and a rule. The length of the user id keeps the two apart. -/
def cacheKey (userId ruleId : String) : String := s!"{userId.utf8ByteSize}-{userId}-{ruleId}"

def hashAttributes (attributes : Attributes) : String :=
  if attributes.isEmpty then "empty"
  else String.ofList (Nat.toDigits 16 (Murmur3.hash 0 attributes.toJson.render).toNat)

/-- Call the remote service with a new correlation id. A choice without a variation is refused. -/
def fetch (client : Client) (correlationId : Nat → String) (ruleId userId : String)
    (attributes : Attributes) (state : CachingState) : Answer CachingState :=
  let request : Request :=
    { ruleId, userId, attributes, correlationId := correlationId state.issued }
  { result := match client request with
      | .error failure => .error failure
      | .ok "" => .error .invalidResponse
      | .ok variationId => .ok { variationId, correlationId := request.correlationId }
    requests := [request]
    state := { state with issued := state.issued + 1 } }

def fetchAndSave (client : Client) (correlationId : Nat → String) (ruleId userId : String)
    (attributes : Attributes) (state : CachingState) : Answer CachingState :=
  let answer := fetch client correlationId ruleId userId attributes state
  match answer.result with
  | .error _ => answer
  | .ok choice =>
    let value : CachedChoice := { attributesHash := hashAttributes attributes, choice }
    let cache := answer.state.cache.save answer.state.clock (cacheKey userId ruleId) value
    { answer with state := { answer.state with cache } }

def prepareCache (options : DecideOptions) (key : String) (cache : Cache) : Cache :=
  let cache := if options.contains .resetBanditCache then cache.reset else cache
  if options.contains .invalidateUserBanditCache then cache.remove key else cache

/-- The choice for a user and a rule. A cached one is used if the attributes are the same; one for
other attributes is dropped. -/
def decideCached (client : Client) (correlationId : Nat → String) (config : Config) (user : User)
    (ruleId : String) (options : DecideOptions) (state : CachingState) : Answer CachingState :=
  let attributes := relevantAttributes config user ruleId
  if options.contains .ignoreBanditCache then
    fetch client correlationId ruleId user.id attributes state
  else
    let key := cacheKey user.id ruleId
    let (cached, cache) := (prepareCache options key state.cache).lookup state.clock key
    match cached with
    | none => fetchAndSave client correlationId ruleId user.id attributes { state with cache }
    | some cached =>
      if cached.attributesHash = hashAttributes attributes then
        { result := .ok cached.choice, state := { state with cache } }
      else
        fetchAndSave client correlationId ruleId user.id attributes
          { state with cache := cache.remove key }

namespace Service

def caching (client : Client) (correlationId : Nat → String) : Service CachingState :=
  ⟨decideCached client correlationId⟩

def constant {σ : Type} (result : Except Failure Choice) : Service σ :=
  ⟨fun _ _ _ _ state => { result, state }⟩

end Service
end FeatureFlags.Bandit
