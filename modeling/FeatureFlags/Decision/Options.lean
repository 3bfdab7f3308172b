/-!
Options of a call, as a set of switches.
-/

namespace FeatureFlags

inductive DecideOption where
  /-- Neither look up nor save a profile. -/
  | ignoreProfiles
  /-- Report all reasons, not only errors. -/
  | includeReasons
  /-- Leave out flags that are not enabled when deciding several of them. -/
  | enabledFlagsOnly
  | excludeVariables
  /-- Ask the bandit afresh and leave its cache alone. -/
  | ignoreBanditCache
  /-- Clear the cache of the bandit first. -/
  | resetBanditCache
  /-- Drop the cached choice for the user and the rule first. -/
  | invalidateUserBanditCache
  deriving DecidableEq, Repr

namespace DecideOption

def all : List DecideOption :=
  [ignoreProfiles, includeReasons, enabledFlagsOnly, excludeVariables, ignoreBanditCache,
    resetBanditCache, invalidateUserBanditCache]

def name : DecideOption → String
  | ignoreProfiles => "IGNORE_USER_PROFILE_SERVICE"
  | includeReasons => "INCLUDE_REASONS"
  | enabledFlagsOnly => "ENABLED_FLAGS_ONLY"
  | excludeVariables => "EXCLUDE_VARIABLES"
  | ignoreBanditCache => "IGNORE_CMAB_CACHE"
  | resetBanditCache => "RESET_CMAB_CACHE"
  | invalidateUserBanditCache => "INVALIDATE_USER_CMAB_CACHE"

def ofName? (name : String) : Option DecideOption := all.find? (·.name = name)

end DecideOption

@[ext] structure DecideOptions where
  contains : DecideOption → Bool

namespace DecideOptions

def empty : DecideOptions := ⟨fun _ => false⟩

instance : EmptyCollection DecideOptions := ⟨empty⟩

@[simp] theorem contains_empty (o : DecideOption) :
    (∅ : DecideOptions).contains o = false := rfl

def insert (options : DecideOptions) (added : DecideOption) : DecideOptions :=
  ⟨fun o => o = added || options.contains o⟩

@[simp] theorem contains_insert (options : DecideOptions) (added o : DecideOption) :
    (options.insert added).contains o = (o = added || options.contains o) := rfl

def union (left right : DecideOptions) : DecideOptions :=
  ⟨fun o => left.contains o || right.contains o⟩

@[simp] theorem contains_union (left right : DecideOptions) (o : DecideOption) :
    (left.union right).contains o = (left.contains o || right.contains o) := rfl

def ofList (options : List DecideOption) : DecideOptions := ⟨options.contains⟩

@[simp] theorem contains_ofList (options : List DecideOption) (o : DecideOption) :
    (ofList options).contains o = options.contains o := rfl

def toList (options : DecideOptions) : List DecideOption :=
  DecideOption.all.filter options.contains

def isEmpty (options : DecideOptions) : Bool := options.toList.isEmpty

end DecideOptions
end FeatureFlags
