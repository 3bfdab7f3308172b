import FeatureFlags.Project.Config
import FeatureFlags.Traced

/-!
Audience targeting. Attribute tests that have no answer count as unknown and leave a reason, as do
audiences that do not exist. Only users for whom the result is definitely true are admitted.
-/

namespace FeatureFlags

/-- Evaluate a tree whose leaves explain themselves. The leaves that are looked at are explained,
in order, and no others. -/
def Condition.evaluateTraced {α : Type} (leaf : α → Traced Truth) (tree : Condition α) :
    Traced Truth :=
  let result := tree.evaluate fun test => (leaf test).value
  { value := result.truth
    reasons := result.visited.flatMap fun test => (leaf test).reasons
    events := result.visited.flatMap fun test => (leaf test).events }

namespace Targeting

/-- The answer of a test, unknown if there is none. -/
def testAnswer (attributes : Attributes) (test : AttributeTest) : Traced Truth :=
  match test.evaluate attributes with
  | .ok truth => return truth
  | .error anomaly => do
    Traced.info s!"Condition {test.text} evaluated to UNKNOWN: {anomaly.message}."
    return .unknown

def evaluateTests (attributes : Attributes) (tests : Condition AttributeTest) : Traced Truth :=
  tests.evaluateTraced (testAnswer attributes)

def audienceAnswer (config : Config) (attributes : Attributes) (audience : AudienceRef) :
    Traced Truth :=
  match config.audiencesById[audience.id]? with
  | none => do
    let anomaly := Anomaly.missingAudience audience.id
    Traced.error s!"Audience {audience.id} evaluated to UNKNOWN: {anomaly.message}."
    return .unknown
  | some found => do
    Traced.debug s!"Starting to evaluate audience \"{found.id}\" ({found.name})."
    let truth ← evaluateTests attributes found.conditions
    Traced.debug s!"Audience \"{found.id}\" evaluated to {truth.name}."
    return truth

def evaluateAudiences (config : Config) (attributes : Attributes)
    (audiences : Condition AudienceRef) : Traced Truth :=
  audiences.evaluateTraced (audienceAnswer config attributes)

mutual

def describe : Condition AudienceRef → String
  | .leaf audience => Text.quoted audience.id
  | .and operands => "[" ++ ", ".intercalate ("\"and\"" :: describeAll operands) ++ "]"
  | .or operands => "[" ++ ", ".intercalate ("\"or\"" :: describeAll operands) ++ "]"
  | .not none => "[\"not\"]"
  | .not (some operand) => "[\"not\", " ++ describe operand ++ "]"

def describeAll : List (Condition AudienceRef) → List String
  | [] => []
  | operand :: operands => describe operand :: describeAll operands

end

end Targeting

/-- The audiences of an experiment: its condition tree if it has one, else any of its audience ids.
With neither there are no audiences. -/
def Experiment.audiences? (experiment : Experiment) : Option (Condition AudienceRef) :=
  match experiment.audienceConditions with
  | some conditions => some conditions
  | none =>
    if experiment.audienceIds.isEmpty then none
    else some (.or (experiment.audienceIds.map fun id => .leaf ⟨id⟩))

namespace Targeting

/-- Whether the audiences of an experiment admit a user. An experiment without audiences admits
everyone. The kind and name of the experiment only appear in the reasons. -/
def admits (config : Config) (attributes : Attributes) (experiment : Experiment)
    (kind name : String) : Traced Bool := do
  let summary := s!"Audiences for {kind} \"{name}\" collectively evaluated to"
  match experiment.audiences? with
  | none =>
    Traced.info s!"{summary} {Truth.yes.name}."
    return true
  | some audiences =>
    Traced.debug s!"Evaluating audiences for {kind} \"{name}\": {describe audiences}."
    let truth ← evaluateAudiences config attributes audiences
    Traced.info s!"{summary} {truth.name}."
    return truth = .yes

end Targeting
end FeatureFlags
