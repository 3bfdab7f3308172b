import FeatureFlags.Proofs.Bucketing

/-!
Random groups. The hash of the group falls on one experiment at most, and it is the same hash for all
members, so that of two members one is shut out, whatever its traffic and whoever would decide it.
-/

namespace FeatureFlags

/-- An experiment that names a random group of the configuration. -/
structure Config.InRandomGroup (config : Config) (experiment : Experiment) (group : Group) :
    Prop where
  named : ∃ groupId : String, groupId ≠ "" ∧ experiment.groupId = some groupId ∧
    config.groupsById[groupId]? = some group
  random : group.policy = .random

namespace Bucketing
variable (sharder : Sharder) (config : Config) (experiment : Experiment) (group : Group)
  (bucketingId : String)

/-- The experiment that the hash of a group falls on. -/
def chosenMember? : Option Experiment :=
  (TrafficAllocation.allocate (sharder (bucketingId ++ group.id)) group.trafficAllocation).bind
    (config.experimentsById[·]?)

theorem value_admittedByRandomGroup (groupId : String) :
    (admittedByRandomGroup sharder config experiment groupId group bucketingId).value = true ↔
      (chosenMember? sharder config group bucketingId).map (·.id) = some experiment.id := by
  simp only [admittedByRandomGroup, chosenMember?, bucketValue, Traced.value_bind,
    Traced.value_pure]
  split
  · rename_i nobody
    simp [nobody]
  · rename_i chosen falls
    by_cases same : chosen.id = experiment.id <;> simp [falls, same]

/-- A member of a random group is let through if the hash of the group falls on it. -/
theorem value_admittedByGroup_of_random {experiment : Experiment} {group : Group}
    (member : config.InRandomGroup experiment group) :
    (admittedByGroup sharder config experiment bucketingId).value = true ↔
      (chosenMember? sharder config group bucketingId).map (·.id) = some experiment.id := by
  obtain ⟨⟨groupId, nonempty, names, known⟩, random⟩ := member
  have filtered : experiment.groupId.filter (!·.isEmpty) = some groupId := by
    simp [names, Option.filter_some, nonempty]
  simp only [admittedByGroup, filtered, known, random]
  exact value_admittedByRandomGroup sharder config experiment group bucketingId groupId

/-- An experiment that its group keeps a user out of: neither the hash nor a bandit gets to decide. -/
structure ShutOut (sharder : Sharder) (config : Config) (experiment : Experiment)
    (bucketingId : String) : Prop where
  notAdmitted : (admittedByGroup sharder config experiment bucketingId).value = false
  notBucketed : (bucket sharder config experiment bucketingId).value = none
  notEligible : ∀ share,
    (bucketForBandit sharder config experiment share bucketingId).value = none

theorem admitted_of_bucket
    (bucketed : (bucket sharder config experiment bucketingId).value.isSome) :
    (admittedByGroup sharder config experiment bucketingId).value = true := by
  rw [value_bucket] at bucketed
  split at bucketed
  · assumption
  · cases bucketed

theorem admitted_of_bucketForBandit (share : Nat)
    (eligible : (bucketForBandit sharder config experiment share bucketingId).value.isSome) :
    (admittedByGroup sharder config experiment bucketingId).value = true := by
  simp only [bucketForBandit, Traced.value_bind] at eligible
  split at eligible
  · assumption
  · cases eligible

theorem shutOut_of_not_admitted
    (notAdmitted : (admittedByGroup sharder config experiment bucketingId).value = false) :
    ShutOut sharder config experiment bucketingId := by
  have barred : ¬ (admittedByGroup sharder config experiment bucketingId).value = true :=
    Bool.eq_false_iff.mp notAdmitted
  refine ⟨notAdmitted, Option.not_isSome_iff_eq_none.mp fun bucketed => ?_,
    fun share => Option.not_isSome_iff_eq_none.mp fun eligible => ?_⟩
  · exact barred (admitted_of_bucket sharder config experiment bucketingId bucketed)
  · exact barred (admitted_of_bucketForBandit sharder config experiment bucketingId share eligible)

variable {first second : Experiment} {group : Group}

theorem id_eq_of_admitted (member : config.InRandomGroup first group)
    (member' : config.InRandomGroup second group)
    (admitted : (admittedByGroup sharder config first bucketingId).value = true)
    (admitted' : (admittedByGroup sharder config second bucketingId).value = true) :
    first.id = second.id := by
  have falls := (value_admittedByGroup_of_random sharder config bucketingId member).mp admitted
  have falls' := (value_admittedByGroup_of_random sharder config bucketingId member').mp admitted'
  exact Option.some.inj (falls.symm.trans falls')

/-- Of two members of a random group one at least is shut out. -/
theorem shutOut_or_shutOut (member : config.InRandomGroup first group)
    (member' : config.InRandomGroup second group) (different : first.id ≠ second.id) :
    ShutOut sharder config first bucketingId ∨ ShutOut sharder config second bucketingId := by
  cases admitted : (admittedByGroup sharder config first bucketingId).value with
  | false => exact .inl (shutOut_of_not_admitted sharder config first bucketingId admitted)
  | true =>
      cases admitted' : (admittedByGroup sharder config second bucketingId).value with
      | false => exact .inr (shutOut_of_not_admitted sharder config second bucketingId admitted')
      | true =>
          exact absurd (id_eq_of_admitted sharder config bucketingId member member' admitted
            admitted') different

end Bucketing
end FeatureFlags
