import FeatureFlags.Bucketing
import FeatureFlags.User

/-!
Bucketing from the outside: its only events are hashes, and the variation that it gives is the one
that the experiment has under that id.
-/

namespace FeatureFlags

theorem Experiment.id_of_variationById? {experiment : Experiment} {id : String}
    {variation : Variation} (found : experiment.variationById? id = some variation) :
    variation.id = id := by
  simpa using List.find?_some found

theorem Experiment.variationById?_self {experiment : Experiment} {id : String}
    {variation : Variation} (found : experiment.variationById? id = some variation) :
    experiment.variationById? variation.id = some variation := by
  rw [id_of_variationById? found]
  exact found

theorem Experiment.variationById?_isSome_of_mem {experiment : Experiment} {variation : Variation}
    (member : variation ∈ experiment.variations) :
    (experiment.variationById? variation.id).isSome := by
  rw [variationById?, List.find?_isSome]
  exact ⟨variation, member, by simp⟩

@[simp] theorem User.events_bucketingId (user : User) : user.bucketingId.events = [] := by
  simp only [bucketingId]
  split <;> rfl

namespace Event

/-- Nothing but keys are hashed. -/
def OnlyHashes (events : List Event) : Prop := ∀ event ∈ events, ∃ key, event = .hashed key

theorem onlyHashes_nil : OnlyHashes [] := by
  intro event member
  cases member

theorem onlyHashes_singleton (key : String) : OnlyHashes [.hashed key] := by
  intro event member
  exact ⟨key, List.mem_singleton.mp member⟩

theorem OnlyHashes.append {first second : List Event} (left : OnlyHashes first)
    (right : OnlyHashes second) : OnlyHashes (first ++ second) := by
  intro event member
  exact (List.mem_append.mp member).elim (left event) (right event)

theorem OnlyHashes.flatMap {α : Type} {f : α → List Event} (each : ∀ a, OnlyHashes (f a))
    (items : List α) : OnlyHashes (items.flatMap f) := by
  intro event member
  obtain ⟨a, _, emitted⟩ := List.mem_flatMap.mp member
  exact each a event emitted

end Event

namespace Bucketing
open Event
variable (sharder : Sharder) (config : Config) (experiment : Experiment) (bucketingId : String)

theorem onlyHashes_admittedByGroup :
    OnlyHashes (admittedByGroup sharder config experiment bucketingId).events := by
  simp only [admittedByGroup]
  split
  · exact onlyHashes_nil
  · split
    · exact onlyHashes_nil
    · split
      · exact onlyHashes_nil
      · simp only [admittedByRandomGroup, bucketValue, Traced.events_bind]
        refine (OnlyHashes.append (onlyHashes_singleton _) onlyHashes_nil).append ?_
        split
        · exact onlyHashes_nil
        · split <;> exact onlyHashes_nil

theorem events_allocatedVariation (value : Nat) :
    (allocatedVariation experiment value).events = [] := by
  simp only [allocatedVariation]
  split
  · rfl
  · split <;> rfl

theorem events_bucketIntoVariation :
    (bucketIntoVariation sharder experiment bucketingId).events =
      [.hashed (bucketingId ++ experiment.id)] := by
  simp only [bucketIntoVariation, bucketValue, Traced.events_bind, Traced.events_emit,
    events_allocatedVariation]
  split <;> rfl

/-- Assignment by the hash does nothing but hash. -/
theorem onlyHashes_bucket :
    OnlyHashes (bucket sharder config experiment bucketingId).events := by
  simp only [bucket, Traced.events_bind]
  refine (onlyHashes_admittedByGroup sharder config experiment bucketingId).append ?_
  split
  · rw [events_bucketIntoVariation]
    exact onlyHashes_singleton _
  · exact onlyHashes_nil

theorem onlyHashes_bucketForBandit (share : Nat) :
    OnlyHashes (bucketForBandit sharder config experiment share bucketingId).events := by
  simp only [bucketForBandit, Traced.events_bind]
  refine (onlyHashes_admittedByGroup sharder config experiment bucketingId).append ?_
  split
  · exact (OnlyHashes.append (onlyHashes_singleton _) onlyHashes_nil).append onlyHashes_nil
  · exact onlyHashes_nil

theorem value_bucketIntoVariation :
    (bucketIntoVariation sharder experiment bucketingId).value =
      (allocatedVariation experiment (sharder (bucketingId ++ experiment.id))).value := by
  simp only [bucketIntoVariation, bucketValue, Traced.value_bind, Traced.value_pure]
  split <;> rfl

theorem value_bucket :
    (bucket sharder config experiment bucketingId).value =
      if (admittedByGroup sharder config experiment bucketingId).value then
        (allocatedVariation experiment (sharder (bucketingId ++ experiment.id))).value
      else none := by
  simp only [bucket, Traced.value_bind]
  split
  · exact value_bucketIntoVariation sharder experiment bucketingId
  · rfl

theorem variationById?_of_allocatedVariation {value : Nat} {variation : Variation}
    (allocated : (allocatedVariation experiment value).value = some variation) :
    experiment.variationById? variation.id = some variation := by
  simp only [allocatedVariation] at allocated
  split at allocated
  · cases allocated
  · split at allocated
    · rename_i found
      cases allocated
      exact Experiment.variationById?_self found
    · cases allocated

/-- A variation that is hashed into is the one that the experiment has under its id. -/
theorem variationById?_of_bucket {variation : Variation}
    (bucketed : (bucket sharder config experiment bucketingId).value = some variation) :
    experiment.variationById? variation.id = some variation := by
  rw [value_bucket] at bucketed
  split at bucketed
  · exact variationById?_of_allocatedVariation experiment bucketed
  · cases bucketed

end Bucketing
end FeatureFlags
