import FeatureFlags.Bandit.Basic

/-!
A bounded cache of choices, as a list with the most recently used entry first. A save and a
successful lookup make an entry the most recent one; when the cache is full, a new key displaces
the entry that was not used for the longest time. Entries may expire.
-/

namespace FeatureFlags.Bandit

structure CachedChoice where
  attributesHash : String
  choice : Choice
  deriving DecidableEq, Repr

structure CacheEntry where
  key : String
  value : CachedChoice
  storedAt : Int
  deriving DecidableEq, Repr

structure Cache where
  /-- The number of entries it can hold. With zero it holds none. -/
  capacity : Nat
  /-- The age beyond which an entry has expired. With zero it never does. -/
  timeout : Int
  entries : List CacheEntry := []
  deriving DecidableEq, Repr

namespace Cache

def defaultCapacity : Nat := 1000

/-- The default timeout, in seconds. -/
def defaultTimeout : Int := 300

def standard : Cache := { capacity := defaultCapacity, timeout := defaultTimeout }

def size (cache : Cache) : Nat := cache.entries.length

def isEmpty (cache : Cache) : Bool := cache.entries.isEmpty

def reset (cache : Cache) : Cache := { cache with entries := [] }

def remove (cache : Cache) (key : String) : Cache :=
  { cache with entries := cache.entries.filter (·.key ≠ key) }

def find? (cache : Cache) (key : String) : Option CacheEntry :=
  cache.entries.find? (·.key = key)

def isExpired (cache : Cache) (now : Int) (entry : CacheEntry) : Bool :=
  cache.timeout ≠ 0 && cache.timeout < now - entry.storedAt

/-- Look up a key. An entry that is found becomes the most recent one; one that has expired is
removed instead. -/
def lookup (cache : Cache) (now : Int) (key : String) : Option CachedChoice × Cache :=
  match cache.find? key with
  | none => (none, cache)
  | some entry =>
    if cache.isExpired now entry then (none, cache.remove key)
    else (some entry.value, { cache with entries := entry :: (cache.remove key).entries })

/-- Store a value. A key that is there keeps its place in the count; a new one may displace the
least recently used entry. -/
def save (cache : Cache) (now : Int) (key : String) (value : CachedChoice) : Cache :=
  let entry : CacheEntry := { key, value, storedAt := now }
  { cache with entries := (entry :: (cache.remove key).entries).take cache.capacity }

end Cache
end FeatureFlags.Bandit
