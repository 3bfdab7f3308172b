import FeatureFlags.Proofs.Decision.Overrides
import Mathlib.Data.Finset.Card
import Mathlib.Data.List.Induction

/-!
The overrides as a map. After any requests each user has in each experiment what the latest accepted
request for just this user and this experiment asked for. Of the experiment only the id is kept, so
that requests and lookups may be made with any version of it.
-/

namespace FeatureFlags

/-- A request to override the variation of a user in an experiment, or to drop the override. -/
structure OverrideRequest where
  experiment : Experiment
  userId : String
  variationKey : Option String

namespace OverrideRequest

def key (request : OverrideRequest) : OverrideKey :=
  { userId := request.userId, experimentId := request.experiment.id }

/-- Whether a request is for nobody, or for a variation that the experiment does not have. -/
def isRefused (request : OverrideRequest) : Bool :=
  request.userId.isEmpty ||
    request.variationKey.any fun name => request.experiment.variations.all (·.key ≠ name)

/-- The id of the variation that a request asks for: the first one with the key. -/
def wanted? (request : OverrideRequest) : Option String :=
  (request.variationKey.bind request.experiment.variationByKey?).map (·.id)

/-- The latest accepted request for a user and an experiment. -/
def latest? (key : OverrideKey) (requests : List OverrideRequest) : Option OverrideRequest :=
  requests.reverse.find? fun request => request.key = key && !request.isRefused

/-- The variation id that requests leave for a user and an experiment. -/
def left? (key : OverrideKey) (requests : List OverrideRequest) : Option String :=
  (latest? key requests).bind wanted?

theorem isRefused_iff (request : OverrideRequest) :
    request.isRefused = true ↔
      request.userId = "" ∨ ∃ name, request.variationKey = some name ∧
        ∀ variation ∈ request.experiment.variations, variation.key ≠ name := by
  simp [isRefused, Option.any_eq_true]

/-- A request counts for its own user and experiment, unless it is refused. -/
theorem left?_append (key : OverrideKey) (requests : List OverrideRequest)
    (request : OverrideRequest) :
    left? key (requests ++ [request]) =
      if request.isRefused = false ∧ request.key = key then request.wanted?
      else left? key requests := by
  simp only [left?, latest?, List.reverse_append, List.reverse_singleton, List.singleton_append,
    List.find?_cons]
  by_cases own : request.key = key <;> cases request.isRefused <;> simp [own]

theorem left?_nobody (experimentId : String) (requests : List OverrideRequest) :
    left? { userId := "", experimentId } requests = none := by
  induction requests using List.reverseRecOn with
  | nil => rfl
  | append_singleton requests request ih =>
      have foreign : ¬ (request.isRefused = false ∧
          request.key = { userId := "", experimentId }) := by
        rintro ⟨accepted, own⟩
        have nobody : request.userId = "" := congrArg OverrideKey.userId own
        rw [request.isRefused_iff.mpr (.inl nobody)] at accepted
        cases accepted
      rw [left?_append, if_neg foreign, ih]

end OverrideRequest

namespace OverrideTable
open OverrideRequest

/-- Carry out a request: whether it was accepted, and the table afterwards. -/
def apply (table : OverrideTable) (request : OverrideRequest) : Bool × OverrideTable :=
  table.set request.experiment request.userId request.variationKey

/-- What requests make of the empty table, one after another. -/
def after (requests : List OverrideRequest) : OverrideTable :=
  requests.foldl (fun table request => (table.apply request).2) {}

theorem after_append (requests : List OverrideRequest) (request : OverrideRequest) :
    after (requests ++ [request]) = ((after requests).apply request).2 := by
  rw [after, List.foldl_append]
  rfl

variable (table : OverrideTable) (request : OverrideRequest)

/-- A request that is refused does nothing. Any other one writes what it asks for, or drops what is
there, for its user and experiment. -/
theorem apply_cases :
    (request.isRefused = true ∧ table.apply request = (false, table)) ∨
    (request.isRefused = false ∧ (table.apply request).1 = true ∧
      ∀ key : OverrideKey, (table.apply request).2.entries[key]? =
        if request.key = key then request.wanted? else table.entries[key]?) := by
  obtain ⟨experiment, userId, variationKey⟩ := request
  by_cases nobody : userId.isEmpty = true
  · exact .inl ⟨by simp [isRefused, nobody], if_pos nobody⟩
  · cases variationKey with
    | none =>
        have dropped : table.apply ⟨experiment, userId, none⟩ =
            (true, { entries := table.entries.erase { userId, experimentId := experiment.id } }) :=
          if_neg nobody
        refine .inr ⟨by simp [isRefused, nobody], by rw [dropped], fun key => ?_⟩
        rw [dropped, Std.ExtTreeMap.getElem?_erase]
        simp only [Std.compare_eq_iff_eq]
        rfl
    | some name =>
        cases named : experiment.variationByKey? name with
        | none =>
            have unknown : ∀ variation ∈ experiment.variations, variation.key ≠ name := by
              simpa [Experiment.variationByKey?] using named
            have refused := (isRefused_iff ⟨experiment, userId, some name⟩).mpr
              (.inr ⟨name, rfl, unknown⟩)
            exact .inl ⟨refused, by simp only [apply, set, if_neg nobody, named]⟩
        | some variation =>
            have written : table.apply ⟨experiment, userId, some name⟩ = (true,
                { entries := table.entries.insert { userId, experimentId := experiment.id }
                    variation.id }) := by
              simp only [apply, set, if_neg nobody, named]
            have known : ∃ variation ∈ experiment.variations, variation.key = name :=
              ⟨variation, List.mem_of_find?_eq_some named, by simpa using List.find?_some named⟩
            have wanted : wanted? ⟨experiment, userId, some name⟩ = some variation.id := by
              simp only [wanted?, Option.bind_some, named, Option.map_some]
            refine .inr ⟨by simpa [isRefused, nobody] using known, by rw [written], fun key => ?_⟩
            rw [written, wanted, Std.ExtTreeMap.getElem?_insert]
            simp only [Std.compare_eq_iff_eq]
            rfl

theorem getElem?_apply (key : OverrideKey) :
    (table.apply request).2.entries[key]? =
      if request.isRefused = false ∧ request.key = key then request.wanted?
      else table.entries[key]? := by
  rcases table.apply_cases request with ⟨refused, kept⟩ | ⟨accepted, _, written⟩
  · simp [refused, kept]
  · simp [accepted, written]

/-- The table holds what the requests have left. -/
theorem getElem?_after (requests : List OverrideRequest) (key : OverrideKey) :
    (after requests).entries[key]? = left? key requests := by
  induction requests using List.reverseRecOn with
  | nil => exact Std.ExtTreeMap.getElem?_empty
  | append_singleton requests request ih => rw [after_append, getElem?_apply, left?_append, ih]

theorem variationId?_after (requests : List OverrideRequest) (experiment : Experiment)
    (userId : String) :
    (after requests).variationId? experiment userId =
      left? { userId, experimentId := experiment.id } requests := by
  rw [variationId?, getElem?_after]
  by_cases nobody : userId = ""
  · subst nobody
    simp [left?_nobody]
  · simp [nobody]

/-- The table counts the users and experiments for which requests have left anything. -/
theorem size_after (requests : List OverrideRequest) :
    ∃ keys : Finset OverrideKey, (∀ key, key ∈ keys ↔ (left? key requests).isSome) ∧
      (after requests).size = keys.card := by
  refine ⟨(after requests).entries.keys.toFinset, fun key => ?_, ?_⟩
  · rw [List.mem_toFinset, Std.ExtTreeMap.mem_keys, Std.ExtTreeMap.mem_iff_isSome_getElem?,
      getElem?_after]
  · rw [List.toFinset_card_of_nodup Std.ExtTreeMap.nodup_keys, Std.ExtTreeMap.length_keys, size]

theorem apply_fst : (table.apply request).1 = !request.isRefused := by
  rcases table.apply_cases request with ⟨refused, kept⟩ | ⟨accepted, counts, _⟩
  · rw [kept, refused, Bool.not_true]
  · rw [counts, accepted, Bool.not_false]

theorem apply_of_refused (refused : request.isRefused = true) :
    (table.apply request).2 = table := by
  rcases table.apply_cases request with ⟨_, kept⟩ | ⟨accepted, _⟩
  · rw [kept]
  · rw [refused] at accepted
    cases accepted

/-- The note on an override whose variation the experiment does not have any more. -/
def staleNote (experiment : Experiment) (userId id : String) : Reason :=
  let place := s!"experiment \"{experiment.key}\" for user \"{userId}\""
  { severity := .error
    message := s!"Overridden variation \"{id}\" of {place} is no longer in the datafile." }

theorem reasons_get_of_stale {table : OverrideTable} {experiment : Experiment} {userId id : String}
    (overridden : table.variationId? experiment userId = some id)
    (stale : experiment.variationById? id = none) :
    (table.get experiment userId).reasons = [staleNote experiment userId id] := by
  simp only [get, overridden, stale]
  rfl

/-- There is no error about an override but that it is stale. -/
theorem hasErrors_get {table : OverrideTable} {experiment : Experiment} {userId : String}
    (sound : ∀ id, table.variationId? experiment userId = some id →
      (experiment.variationById? id).isSome) :
    Reason.hasErrors (table.get experiment userId).reasons = false := by
  cases overridden : table.variationId? experiment userId with
  | none => simp [get, overridden, Reason.hasErrors]
  | some id =>
      obtain ⟨variation, named⟩ := Option.isSome_iff_exists.mp (sound id overridden)
      simp only [get, overridden, named]
      rfl

/-- After any requests a user has in an experiment what the latest accepted request for both asked
for, and the table counts those who have anything. A request is refused for nobody and for unknown
variations, and then changes nothing. What is looked up is the first variation with the id; if the
experiment has none, that is an error, but versions of the experiment that have one still find it. -/
theorem overrides_follow_latest_requests (requests : List OverrideRequest) :
    let table := after requests
    (∀ experiment userId, table.variationId? experiment userId =
      left? { userId, experimentId := experiment.id } requests) ∧
    (∃ keys : Finset OverrideKey, (∀ key, key ∈ keys ↔ (left? key requests).isSome) ∧
      table.size = keys.card) ∧
    (∀ request, (table.apply request).1 = !request.isRefused ∧
      (request.isRefused = true ↔ request.userId = "" ∨
        ∃ name, request.variationKey = some name ∧
          ∀ variation ∈ request.experiment.variations, variation.key ≠ name) ∧
      (request.isRefused = true → (table.apply request).2 = table)) ∧
    ∀ (experiment : Experiment) (userId : String),
      let got := table.get experiment userId
      let overridden := left? { userId, experimentId := experiment.id } requests
      got.value = overridden.bind (fun id => experiment.variations.find? (·.id = id)) ∧
      (Reason.hasErrors got.reasons = true ↔
        ∃ id, overridden = some id ∧ ∀ variation ∈ experiment.variations, variation.id ≠ id) ∧
      ∀ id, overridden = some id → got.value = none →
        got.reasons = [staleNote experiment userId id] ∧
        ∀ version : Experiment, version.id = experiment.id →
          (table.get version userId).value = version.variations.find? (·.id = id) := by
  intro table
  have finds := variationId?_after requests
  have gets (experiment : Experiment) (userId : String) : (table.get experiment userId).value =
      (left? { userId, experimentId := experiment.id } requests).bind
        (fun id => experiment.variations.find? (·.id = id)) := by
    rw [value_get, variationOf?, finds]
    rfl
  refine ⟨finds, size_after requests, fun request => ⟨table.apply_fst request,
    request.isRefused_iff, table.apply_of_refused request⟩, ?_⟩
  intro experiment userId got overridden
  have found : table.variationId? experiment userId = overridden := finds experiment userId
  refine ⟨gets experiment userId, ⟨fun failed => ?_, ?_⟩, ?_⟩
  · by_contra fresh
    rw [hasErrors_get fun id named => ?_] at failed
    · cases failed
    · rw [found] at named
      by_contra stale
      refine fresh ⟨id, named, ?_⟩
      simpa [Experiment.variationById?] using stale
  · rintro ⟨id, named, stale⟩
    have gone : experiment.variationById? id = none := by
      simpa [Experiment.variationById?] using stale
    have notes : got.reasons = _ := reasons_get_of_stale (found.trans named) gone
    rw [notes]
    rfl
  · intro id named nothing
    have value : got.value = overridden.bind experiment.variationById? := gets experiment userId
    rw [named, Option.bind_some, nothing] at value
    refine ⟨reasons_get_of_stale (found.trans named) value.symm, fun version sameId => ?_⟩
    have kept : left? { userId, experimentId := version.id } requests = some id := by
      rw [sameId]
      exact named
    rw [gets, kept, Option.bind_some]

namespace Sample

def on : Variation := { id := "1", key := "on" }

def off : Variation := { id := "2", key := "off" }

/-- An experiment before and after it has lost a variation. -/
def early : Experiment :=
  { id := "10", key := "split", status := .running, variations := [on, off]
    trafficAllocation := [] }

def late : Experiment := { early with variations := [on] }

/-- The last two requests are made with the late version: one is refused, and one drops what was
set with the early version. -/
def requests : List OverrideRequest :=
  [⟨early, "user", some "on"⟩, ⟨early, "guest", some "on"⟩, ⟨early, "user", some "off"⟩,
    ⟨late, "user", some "off"⟩, ⟨late, "guest", none⟩]

end Sample

theorem overrides_follow_requests_of_two_versions :
    let table := after Sample.requests
    table.variationId? Sample.late "user" = some "2" ∧
      table.variationId? Sample.early "guest" = none ∧
      (table.apply ⟨Sample.late, "user", some "off"⟩).2 = table ∧
      (table.get Sample.late "user").value = none ∧
      (table.get Sample.late "user").reasons = [staleNote Sample.late "user" "2"] ∧
      (table.get Sample.early "user").value = some Sample.off := by
  intro table
  obtain ⟨finds, _, answers, gets⟩ := overrides_follow_latest_requests Sample.requests
  have left : left? { userId := "user", experimentId := Sample.late.id } Sample.requests =
      some "2" := by decide
  obtain ⟨value, _, stale⟩ := gets Sample.late "user"
  have nothing : (table.get Sample.late "user").value = none := by
    rw [value, left]
    rfl
  obtain ⟨notes, versions⟩ := stale "2" left nothing
  obtain ⟨_, _, unchanged⟩ := answers ⟨Sample.late, "user", some "off"⟩
  exact ⟨(finds Sample.late "user").trans left, (finds Sample.early "guest").trans (by decide),
    unchanged (by decide), nothing, notes, (versions Sample.early rfl).trans (by decide)⟩

end OverrideTable
end FeatureFlags
