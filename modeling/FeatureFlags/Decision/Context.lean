import FeatureFlags.Bandit.Service
import FeatureFlags.Bucketing
import FeatureFlags.Override
import FeatureFlags.Profile.Tracker

/-!
The course of a call. The context stays the same from beginning to end; the progress holds what
changes: the profile of the user as far as it is known, and the state of the bandits.
-/

namespace FeatureFlags

/-- What stays the same during a call. -/
structure Context (σ : Type) where
  sharder : Sharder
  bandit : Option (Bandit.Service σ)
  overrides : OverrideTable
  /-- The stored profiles, unless there are none or they are ignored. -/
  profiles : Option ProfileStore
  config : Config
  user : User
  options : DecideOptions

structure Progress (σ : Type) where
  tracker : Tracker := .idle
  bandit : σ

abbrev Resolution (σ α : Type) := StateT (Progress σ) Traced α

namespace Resolution
variable {σ α β : Type}

/-- Try the members of a list in order, up to the first one that gives a result. -/
def firstSome (f : α → Resolution σ (Option β)) : List α → Resolution σ (Option β)
  | [] => return none
  | a :: as => do
    match ← f a with
    | some b => return some b
    | none => firstSome f as

/-- A step that may give a result, and what to do if it gives none. -/
def orElse (first second : Resolution σ (Option α)) : Resolution σ (Option α) := do
  match ← first with
  | some a => return some a
  | none => second

def withTracker (f : Tracker → Traced (α × Tracker)) : Resolution σ α := fun progress => do
  let (a, tracker) ← f progress.tracker
  return (a, { progress with tracker })

def explained (resolution : Resolution σ α) : Resolution σ (α × List Reason) := fun progress =>
  let resolved := resolution progress
  { value := ((resolved.value.1, resolved.reasons), resolved.value.2), events := resolved.events }

def consult (service : Bandit.Service σ) (config : Config) (user : User) (ruleId : String)
    (options : DecideOptions) : Resolution σ (Except Bandit.Failure Bandit.Choice) :=
  fun progress =>
    let answer := service.decide config user ruleId options progress.bandit
    { value := (answer.result, { progress with bandit := answer.state })
      events := .consulted ruleId :: answer.requests.map .fetched }

end Resolution

end FeatureFlags
