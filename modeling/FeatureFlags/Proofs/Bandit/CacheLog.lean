import FeatureFlags.Proofs.Bandit.Cache
import Mathlib.Data.List.Dedup
import Mathlib.Data.List.TakeWhile

/-!
Runs of cache operations with a log of what has happened, the latest first. The log alone tells
which value a key was last saved with, and which other keys have been used since the key itself was.
A save and a successful lookup count as uses; a failed lookup does not.
-/

namespace FeatureFlags.Bandit

inductive CacheOp where
  | save (now : Int) (key : String) (value : CachedChoice)
  | lookup (now : Int) (key : String)
  | remove (key : String)
  | reset

inductive CacheEvent where
  | saved (key : String) (value : CachedChoice)
  | found (key : String)
  | missed (key : String)
  | removed (key : String)
  | cleared

namespace CacheEvent

def used? : CacheEvent → Option String
  | saved key _ | found key => some key
  | missed _ | removed _ | cleared => none

/-- Whether entries may have been given up on request. -/
def frees : CacheEvent → Bool
  | removed _ | cleared => true
  | saved _ _ | found _ | missed _ => false

end CacheEvent

namespace Cache

/-- The keys of the entries, the most recently used one first. -/
def keys (cache : Cache) : List String := cache.entries.map (·.key)

def apply (cache : Cache) : CacheOp → Cache
  | .save now key value => cache.save now key value
  | .lookup now key => (cache.lookup now key).2
  | .remove key => cache.remove key
  | .reset => cache.reset

def event (cache : Cache) : CacheOp → CacheEvent
  | .save _ key value => .saved key value
  | .lookup now key => if (cache.lookup now key).1.isSome then .found key else .missed key
  | .remove key => .removed key
  | .reset => .cleared

end Cache

/-- A cache and what has happened to it so far. -/
structure CacheRun where
  cache : Cache
  log : List CacheEvent := []

namespace CacheRun

/-- An empty cache whose entries never expire. -/
def empty (capacity : Nat) : CacheRun := { cache := { capacity, timeout := 0 } }

def step (run : CacheRun) (op : CacheOp) : CacheRun :=
  { cache := run.cache.apply op, log := run.cache.event op :: run.log }

/-- What a sequence of operations comes to, from an empty cache. -/
def after (capacity : Nat) (ops : List CacheOp) : CacheRun := ops.foldl step (empty capacity)

end CacheRun

namespace CacheLog

/-- The value that a key was last saved with, unless it was given up on request since then. -/
def lastSaved (key : String) : List CacheEvent → Option CachedChoice
  | [] => none
  | .saved other value :: log => if other = key then some value else lastSaved key log
  | .removed other :: log => if other = key then none else lastSaved key log
  | .cleared :: _ => none
  | .found _ :: log | .missed _ :: log => lastSaved key log

/-- What has happened since a key was last used. -/
def sinceUse (key : String) (log : List CacheEvent) : List CacheEvent :=
  log.takeWhile fun event => event.used? ≠ some key

/-- The keys that were used since a key was last used itself, each of them once. -/
def rivals (key : String) (log : List CacheEvent) : List String :=
  ((sinceUse key log).filterMap CacheEvent.used?).dedup

/-- Nothing was given up on request since a key was last used. -/
def Undisturbed (key : String) (log : List CacheEvent) : Prop :=
  ∀ event ∈ sinceUse key log, event.frees = false

variable {key other : String} {event : CacheEvent} {log : List CacheEvent}

theorem sinceUse_cons_of_used (used : event.used? = some key) :
    sinceUse key (event :: log) = [] := by
  simp [sinceUse, used]

theorem sinceUse_cons_of_other (other : event.used? ≠ some key) :
    sinceUse key (event :: log) = event :: sinceUse key log := by
  simp [sinceUse, other]

theorem rivals_nodup (key : String) (log : List CacheEvent) : (rivals key log).Nodup :=
  List.nodup_dedup _

theorem mem_rivals {rival : String} :
    rival ∈ rivals key log ↔ ∃ event ∈ sinceUse key log, event.used? = some rival := by
  simp only [rivals, List.mem_dedup, List.mem_filterMap]

/-- A key is no rival of its own. -/
theorem not_mem_rivals (key : String) (log : List CacheEvent) : key ∉ rivals key log := by
  intro member
  obtain ⟨event, since, used⟩ := mem_rivals.mp member
  have other := List.mem_takeWhile_imp since
  simp [used] at other

theorem rivals_cons_of_used (used : event.used? = some key) : rivals key (event :: log) = [] := by
  simp [rivals, sinceUse_cons_of_used used]

theorem mem_rivals_cons_of_other {rival : String} (used : event.used? = some other)
    (different : other ≠ key) :
    rival ∈ rivals key (event :: log) ↔ rival = other ∨ rival ∈ rivals key log := by
  have unused : event.used? ≠ some key := by simpa [used] using different
  simp [mem_rivals, sinceUse_cons_of_other unused, used, eq_comm]

theorem rivals_cons_of_unused (unused : event.used? = none) :
    rivals key (event :: log) = rivals key log := by
  have other : event.used? ≠ some key := by simp [unused]
  simp [rivals, sinceUse_cons_of_other other, unused]

theorem undisturbed_cons_of_other (other : event.used? ≠ some key) :
    Undisturbed key (event :: log) ↔ event.frees = false ∧ Undisturbed key log := by
  simp [Undisturbed, sinceUse_cons_of_other other]

/-- Using another key leaves the value of a key alone. -/
theorem lastSaved_cons_of_other (used : event.used? = some other) (different : other ≠ key) :
    lastSaved key (event :: log) = lastSaved key log := by
  cases event with
  | saved _ _ =>
      cases used
      exact if_neg different
  | found _ => rfl
  | _ => cases used

theorem lastSaved_removed_isSome (saved : (lastSaved key (.removed other :: log)).isSome) :
    key ≠ other ∧ (lastSaved key log).isSome := by
  simp only [lastSaved] at saved
  split at saved
  · cases saved
  · rename_i different
    exact ⟨Ne.symm different, saved⟩

end CacheLog
end FeatureFlags.Bandit
