import FeatureFlags.Proofs.Bucketing.Allocation
import FeatureFlags.Proofs.Bucketing.Exclusion

/-!
The share of a bandit is traffic like any other: a user is in it if the hash would give them a
variation of an experiment with just that traffic. Either way the group comes first, and the same
keys are hashed.
-/

namespace FeatureFlags

/-- The same experiment with all its traffic in one entry. -/
def Experiment.withTraffic (experiment : Experiment) (entityId : String) (share : Nat) :
    Experiment :=
  { experiment with trafficAllocation := [{ entityId, endOfRange := share }] }

theorem TrafficAllocation.allocate_singleton {entityId : String} (named : entityId ≠ "")
    (value share : Nat) :
    allocate value [{ entityId, endOfRange := share }] =
      if value < share then some entityId else none := by
  rw [allocate_eq, deciding?_singleton]
  by_cases below : value < share <;> simp [below, entity?, named]

namespace Bucketing
variable (sharder : Sharder) (config : Config) (experiment : Experiment) (bucketingId : String)

theorem value_bucketForBandit (share : Nat) :
    (bucketForBandit sharder config experiment share bucketingId).value =
      if (admittedByGroup sharder config experiment bucketingId).value = true ∧
          sharder (bucketingId ++ experiment.id) < share then
        some banditEntity
      else none := by
  have entity : banditEntity ≠ "" := by decide
  simp only [bucketForBandit, bucketValue, Traced.value_bind]
  by_cases admitted : (admittedByGroup sharder config experiment bucketingId).value = true
  · simp [admitted, TrafficAllocation.allocate_singleton entity]
  · simp [admitted]

theorem isSome_bucketForBandit (share : Nat) :
    (bucketForBandit sharder config experiment share bucketingId).value.isSome = true ↔
      (admittedByGroup sharder config experiment bucketingId).value = true ∧
        sharder (bucketingId ++ experiment.id) < share := by
  rw [value_bucketForBandit]
  split <;> simp_all

theorem events_bucketForBandit (share : Nat) :
    (bucketForBandit sharder config experiment share bucketingId).events =
      (admittedByGroup sharder config experiment bucketingId).events ++
        if (admittedByGroup sharder config experiment bucketingId).value then
          [.hashed (bucketingId ++ experiment.id)]
        else [] := by
  simp only [bucketForBandit, bucketValue, Traced.events_bind]
  split <;> simp

theorem events_bucket :
    (bucket sharder config experiment bucketingId).events =
      (admittedByGroup sharder config experiment bucketingId).events ++
        if (admittedByGroup sharder config experiment bucketingId).value then
          [.hashed (bucketingId ++ experiment.id)]
        else [] := by
  simp only [bucket, Traced.events_bind]
  split
  · rw [events_bucketIntoVariation]
  · rfl

theorem events_admittedByRandomGroup (groupId : String) (group : Group) :
    (admittedByRandomGroup sharder config experiment groupId group bucketingId).events =
      [.hashed (bucketingId ++ group.id)] := by
  simp only [admittedByRandomGroup, bucketValue, Traced.events_bind]
  split
  · simp
  · split <;> simp

/-- The key of a group is hashed for the members of a random group. -/
theorem events_admittedByGroup_of_random {experiment : Experiment} {group : Group}
    (member : config.InRandomGroup experiment group) :
    (admittedByGroup sharder config experiment bucketingId).events =
      [.hashed (bucketingId ++ group.id)] := by
  obtain ⟨⟨groupId, nonempty, names, known⟩, random⟩ := member
  have filtered : experiment.groupId.filter (!·.isEmpty) = some groupId := by
    simp [names, Option.filter_some, nonempty]
  simp only [admittedByGroup, filtered, known, random]
  exact events_admittedByRandomGroup sharder config experiment bucketingId groupId group

/-- No key of a group is hashed for any other experiment. -/
theorem events_admittedByGroup_of_not_random {experiment : Experiment}
    (outside : ∀ group, ¬ config.InRandomGroup experiment group) :
    (admittedByGroup sharder config experiment bucketingId).events = [] := by
  simp only [admittedByGroup]
  cases filtered : experiment.groupId.filter (!·.isEmpty) with
  | none => rfl
  | some groupId =>
      obtain ⟨names, nonempty⟩ := Option.filter_eq_some_iff.mp filtered
      cases known : config.groupsById[groupId]? with
      | none => simp [known]
      | some group =>
          cases policy : group.policy with
          | overlapping => simp [known, policy]
          | random =>
              exact absurd ⟨⟨groupId, by simpa using nonempty, names, known⟩, policy⟩ (outside group)

theorem isSome_allocatedVariation_withTraffic {variation : Variation}
    (member : variation ∈ experiment.variations) (named : variation.id ≠ "") (share value : Nat) :
    (allocatedVariation (experiment.withTraffic variation.id share) value).value.isSome = true ↔
      value < share := by
  obtain ⟨found, byId⟩ :=
    Option.isSome_iff_exists.mp (Experiment.variationById?_isSome_of_mem member)
  have own : (experiment.withTraffic variation.id share).variationById? variation.id =
      some found := byId
  have allocated : TrafficAllocation.allocate value
      (experiment.withTraffic variation.id share).trafficAllocation =
        if value < share then some variation.id else none :=
    TrafficAllocation.allocate_singleton named value share
  simp only [allocatedVariation, allocated]
  by_cases below : value < share <;> simp [below, own]

/-- The hash gives a variation to whom it lets into the traffic, behind the group. -/
theorem isSome_bucket_withTraffic {variation : Variation}
    (member : variation ∈ experiment.variations) (named : variation.id ≠ "") (share : Nat) :
    (bucket sharder config (experiment.withTraffic variation.id share) bucketingId).value.isSome =
        true ↔
      (admittedByGroup sharder config experiment bucketingId).value = true ∧
        sharder (bucketingId ++ experiment.id) < share := by
  have sameGroup : admittedByGroup sharder config (experiment.withTraffic variation.id share)
      bucketingId = admittedByGroup sharder config experiment bucketingId := rfl
  rw [value_bucket, sameGroup,
    ← isSome_allocatedVariation_withTraffic experiment member named share]
  by_cases admitted : (admittedByGroup sharder config experiment bucketingId).value = true
  · simp only [admitted, if_true, true_and]
    rfl
  · simp [admitted]

/-- A user is in the share of a bandit if the hash would give them the variation, or any other one,
for that share of the traffic, and either way the same keys are hashed. Hence a larger share only
lets more users in, and a share of zero nobody. -/
theorem share_of_bandit_is_traffic {variation : Variation}
    (member : variation ∈ experiment.variations) (named : variation.id ≠ "") :
    let admitted := (admittedByGroup sharder config experiment bucketingId).value
    let eligible (share : Nat) :=
      bucketForBandit sharder config experiment share bucketingId
    let bucketed (share : Nat) :=
      bucket sharder config (experiment.withTraffic variation.id share) bucketingId
    let own := if admitted then [Event.hashed (bucketingId ++ experiment.id)] else []
    (∀ share, (eligible share).value.isSome = (bucketed share).value.isSome ∧
      (eligible share).events = (bucketed share).events) ∧
    (∀ share group, config.InRandomGroup experiment group →
      (eligible share).events = .hashed (bucketingId ++ group.id) :: own) ∧
    ((∀ group, ¬ config.InRandomGroup experiment group) →
      ∀ share, (eligible share).events = own) ∧
    (∀ share raised, share ≤ raised → (eligible share).value.isSome →
      (eligible raised).value.isSome) ∧
    (eligible 0).value = none := by
  intro admitted eligible bucketed own
  have lets (share : Nat) := isSome_bucketForBandit sharder config experiment bucketingId share
  refine ⟨fun share => ⟨?_, ?_⟩, fun share group inGroup => ?_, fun outside share => ?_,
    fun share raised further inShare => ?_, ?_⟩
  · rw [Bool.eq_iff_iff, lets, isSome_bucket_withTraffic sharder config experiment bucketingId
      member named]
  · exact (events_bucketForBandit sharder config experiment bucketingId share).trans
      (events_bucket sharder config (experiment.withTraffic variation.id share) bucketingId).symm
  · rw [events_bucketForBandit, events_admittedByGroup_of_random sharder config bucketingId inGroup]
    rfl
  · rw [events_bucketForBandit, events_admittedByGroup_of_not_random sharder config bucketingId
      outside]
    rfl
  · obtain ⟨letThrough, below⟩ := (lets share).mp inShare
    exact (lets raised).mpr ⟨letThrough, Nat.lt_of_lt_of_le below further⟩
  · rw [← Option.not_isSome_iff_eq_none, lets]
    omega

namespace Sample

def on : Variation := { id := "1", key := "on" }

def entrant : Experiment :=
  { id := "10", key := "entrant", status := .running, groupId := some "60", variations := [on]
    trafficAllocation := [] }

def lottery : Group :=
  { id := "60", policy := .random, trafficAllocation := [{ entityId := "10", endOfRange := 3000 }]
    experiments := [entrant] }

def drawn : Config := .ofDatafile { groups := [lottery] }

/-- The group lets the user through, whose own value is the last one below 5000. -/
def drawing : Sharder := fun key => if key = "user60" then 2999 else 4999

end Sample

theorem share_of_bandit_ends_at_value :
    let eligible (share : Nat) :=
      bucketForBandit Sample.drawing Sample.drawn Sample.entrant share "user"
    Sample.on ∈ Sample.entrant.variations ∧ Sample.on.id ≠ "" ∧
      Sample.drawn.InRandomGroup Sample.entrant Sample.lottery ∧
      (eligible 4999).value = none ∧
      (eligible 5000).value.isSome = true ∧
      (eligible 5000).events = [.hashed "user60", .hashed "user10"] ∧
      (bucket Sample.drawing Sample.drawn (Sample.entrant.withTraffic "1" 5000)
        "user").events = [.hashed "user60", .hashed "user10"] ∧
      ∀ raised, 5000 ≤ raised → (eligible raised).value.isSome = true := by
  intro eligible
  have member : Sample.on ∈ Sample.entrant.variations := List.mem_singleton.mpr rfl
  have named : Sample.on.id ≠ "" := by decide
  have inGroup : Sample.drawn.InRandomGroup Sample.entrant Sample.lottery :=
    ⟨⟨"60", by decide, rfl, rfl⟩, rfl⟩
  obtain ⟨agree, hashed, _, raised, _⟩ :=
    share_of_bandit_is_traffic Sample.drawing Sample.drawn Sample.entrant "user" member named
  have bucketed : (bucket Sample.drawing Sample.drawn (Sample.entrant.withTraffic "1" 5000)
      "user").value.isSome = true := by rfl
  have inShare : (eligible 5000).value.isSome = true := (agree 5000).1.trans bucketed
  have keys : (eligible 5000).events = [.hashed "user60", .hashed "user10"] :=
    hashed 5000 Sample.lottery inGroup
  exact ⟨member, named, inGroup, by rfl, inShare, keys, (agree 5000).2.symm.trans keys,
    fun share further => raised 5000 share further inShare⟩

end Bucketing
end FeatureFlags
