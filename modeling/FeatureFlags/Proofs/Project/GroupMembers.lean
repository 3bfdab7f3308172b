import FeatureFlags.Proofs.Bucketing.Exclusion
import FeatureFlags.Proofs.Project.Indexes

/-!
Experiments that are listed in a group. One that leaves its group open is given the id of the group
that lists it, there and in the indexes, so that a random group keeps a user out of all its members
but one. One that names a group itself goes by that name, even if the name is empty; then the group
that lists it has no say in it.
-/

namespace FeatureFlags

/-- The experiment leaves its group open, or names this one. -/
def Experiment.OpenTo (experiment : Experiment) (group : Group) : Prop :=
  experiment.groupId = none ∨ experiment.groupId = some group.id

/-- An experiment with this group as its own. -/
def Group.enrol (group : Group) (experiment : Experiment) : Experiment :=
  { experiment with groupId := some group.id }

theorem Group.adopt_eq_enrol {group : Group} {experiment : Experiment}
    (openTo : experiment.OpenTo group) : group.adopt experiment = group.enrol experiment := by
  rw [adopt, enrol]
  rcases openTo with unnamed | named
  · rw [unnamed, Option.getD_none]
  · rw [named, Option.getD_some]

namespace Config

/-- What becomes of a group that is listed in front of others, and of its members. -/
structure Enrols (config : Config) (group : Group) (after : List Group) : Prop where
  /-- The group is kept with its members in order, each of them as one of its own. -/
  stored : config.groupsById[group.id]? =
    some { group with experiments := group.experiments.map group.adopt }
  enrolled : ∀ member ∈ group.experiments, member.OpenTo group →
    group.adopt member = group.enrol member
  byId : ∀ front member back, group.experiments = front ++ member :: back →
    member.OpenTo group → (∀ later ∈ back ++ after.flatMap (·.experiments), later.id ≠ member.id) →
      config.experimentsById[member.id]? = some (group.enrol member)
  byKey : ∀ front member back, group.experiments = front ++ member :: back →
    member.OpenTo group →
      (∀ later ∈ back ++ after.flatMap (·.experiments), later.key ≠ member.key) →
        config.experimentsByKey[member.key]? = some (group.enrol member)
  /-- Of two members of a random group one at least is shut out. -/
  exclusive : group.policy = .random → group.id ≠ "" →
    ∀ first ∈ group.experiments, ∀ second ∈ group.experiments,
      first.OpenTo group → second.OpenTo group → first.id ≠ second.id →
        ∀ (sharder : Sharder) (bucketingId : String),
          Bucketing.ShutOut sharder config (group.adopt first) bucketingId ∨
            Bucketing.ShutOut sharder config (group.adopt second) bucketingId

variable {datafile : Datafile} {before after : List Group} {group : Group}

/-- A group that no later one has the id of is kept with its members. -/
theorem getElem?_groupsById_of_last (listed : datafile.groups = before ++ group :: after)
    (last : ∀ later ∈ after, later.id ≠ group.id) :
    (ofDatafile datafile).groupsById[group.id]? =
      some { group with experiments := group.experiments.map group.adopt } := by
  have split : datafile.groups.map Group.withMembers =
      before.map Group.withMembers ++ group.withMembers :: after.map Group.withMembers := by
    rw [listed, List.map_append, List.map_cons]
  refine ((indexes_ofDatafile datafile).group_id group.id).trans ?_
  exact Dict.findRev?_of_last split (List.forall_mem_map.mpr last)

/-- A member that no later one shares its label with is the last one with it. -/
theorem findRev?_adopt (label : Experiment → String) (kept : ∀ group member,
      label (Group.adopt group member) = label member)
    (listed : datafile.groups = before ++ group :: after) {front back : List Experiment}
    {member : Experiment} (place : group.experiments = front ++ member :: back)
    (last : ∀ later ∈ back ++ after.flatMap (·.experiments), label later ≠ label member) :
    (datafile.experiments ++ membersOf datafile.groups).findRev? (label · = label member) =
      some (group.adopt member) := by
  have split : datafile.experiments ++ membersOf datafile.groups =
      (datafile.experiments ++ (membersOf before ++ front.map group.adopt)) ++
        group.adopt member :: (back.map group.adopt ++ membersOf after) := by
    simp [membersOf, listed, place]
  rw [← kept group member]
  refine Dict.findRev?_of_last split fun later behind => ?_
  rw [kept]
  rcases List.mem_append.mp behind with own | other
  · obtain ⟨origin, inBack, rfl⟩ := List.mem_map.mp own
    rw [kept]
    exact last origin (List.mem_append_left _ inBack)
  · obtain ⟨owner, inAfter, inOwner⟩ := List.mem_flatMap.mp other
    obtain ⟨origin, inGroup, rfl⟩ := List.mem_map.mp inOwner
    rw [kept]
    exact last origin (List.mem_append_right _ (List.mem_flatMap.mpr ⟨owner, inAfter, inGroup⟩))

/-- A group that no later one replaces enrols the members that leave their group open, whatever the
rest of the datafile holds under their ids and keys in front of them. -/
theorem members_belong_to_group (listed : datafile.groups = before ++ group :: after)
    (last : ∀ later ∈ after, later.id ≠ group.id) :
    (ofDatafile datafile).Enrols group after where
  stored := getElem?_groupsById_of_last listed last
  enrolled _ _ := Group.adopt_eq_enrol
  byId front member back place openTo unrepeated := by
    rw [(indexes_ofDatafile datafile).experiment_id,
      findRev?_adopt (·.id) (fun _ _ => rfl) listed place unrepeated,
      Group.adopt_eq_enrol openTo, Option.some_or]
  byKey front member back place openTo unrepeated := by
    rw [(indexes_ofDatafile datafile).experiment_key,
      findRev?_adopt (·.key) (fun _ _ => rfl) listed place unrepeated,
      Group.adopt_eq_enrol openTo]
  exclusive random nonempty first _ second _ openTo openTo' different sharder bucketingId := by
    have kept := getElem?_groupsById_of_last listed last
    have enrolled (member : Experiment) : (ofDatafile datafile).InRandomGroup
        (group.enrol member) { group with experiments := group.experiments.map group.adopt } :=
      ⟨⟨group.id, nonempty, rfl, kept⟩, random⟩
    rw [Group.adopt_eq_enrol openTo, Group.adopt_eq_enrol openTo']
    exact Bucketing.shutOut_or_shutOut sharder _ bucketingId (enrolled first) (enrolled second)
      different

namespace Sample

def served : Variation := { id := "1", key := "on" }

/-- Whoever the group lets through is served. -/
def member (id : String) (groupId : Option String) : Experiment :=
  { id, key := id, status := .running, groupId, variations := [served]
    trafficAllocation := [{ entityId := "1", endOfRange := 10000 }] }

/-- All traffic of the group goes to the second member. -/
def rivals (groupId : Option String) : Group :=
  { id := "60", policy := .random
    trafficAllocation := [{ entityId := "62", endOfRange := 10000 }]
    experiments := [member "61" groupId, member "62" none] }

def leisure : Group :=
  { id := "60", policy := .overlapping, trafficAllocation := []
    experiments := [member "62" none] }

/-- The group comes second under its id, and its members come second under theirs. -/
def crowded : Datafile :=
  { experiments := [member "61" (some "")], groups := [leisure, rivals none] }

end Sample

theorem rivals_belong_to_group :
    Sample.crowded.groups = [Sample.leisure] ++ Sample.rivals none :: [] ∧
      (∀ later ∈ ([] : List Group), later.id ≠ (Sample.rivals none).id) ∧
      (ofDatafile Sample.crowded).experimentsById["61"]? =
        some ((Sample.rivals none).enrol (Sample.member "61" none)) ∧
      ∀ (sharder : Sharder) (bucketingId : String),
        Bucketing.ShutOut sharder (ofDatafile Sample.crowded)
            ((Sample.rivals none).adopt (Sample.member "61" none)) bucketingId ∨
          Bucketing.ShutOut sharder (ofDatafile Sample.crowded)
            ((Sample.rivals none).adopt (Sample.member "62" none)) bucketingId := by
  have listed : Sample.crowded.groups = [Sample.leisure] ++ Sample.rivals none :: [] := rfl
  have enrols : (ofDatafile Sample.crowded).Enrols (Sample.rivals none) [] :=
    members_belong_to_group listed nofun
  refine ⟨listed, nofun, ?_, ?_⟩
  · exact enrols.byId [] _ [Sample.member "62" none] rfl (.inl rfl) (by decide)
  · exact enrols.exclusive rfl (by decide) _ (.head _) _ (.tail _ (.head _)) (.inl rfl) (.inl rfl)
      (by decide)

/-- A member whose own group is given as nothing keeps that, and escapes the group that lists it. -/
theorem blank_group_is_kept :
    let config := ofDatafile { groups := [Sample.rivals (some "")] }
    config.groupsById["60"]? ≠ some { Sample.rivals (some "") with
        experiments := (Sample.rivals (some "")).experiments.map (Sample.rivals (some "")).enrol } ∧
      ∃ first second, config.experimentsById["61"]? = some first ∧
        config.experimentsById["62"]? = some second ∧ first.groupId = some "" ∧
        ¬ Bucketing.ShutOut (fun _ => 0) config first "user" ∧
        ¬ Bucketing.ShutOut (fun _ => 0) config second "user" := by
  intro config
  refine ⟨fun same => ?_, _, _, rfl, rfl, rfl, fun shut => ?_, fun shut => ?_⟩
  · have ids := congrArg (Option.map fun group => group.experiments.map (·.groupId)) same
    revert ids
    decide
  · exact absurd shut.notBucketed (by decide)
  · exact absurd shut.notBucketed (by decide)

end Config
end FeatureFlags
