import FeatureFlags.Targeting

/-!
The audience gate as a plain answer. Looking at audiences leaves reasons but no events, and the
kind and name that reports use have no part in the answer.
-/

namespace FeatureFlags

theorem Condition.events_evaluateTraced {α : Type} {leaf : α → Traced Truth}
    (silent : ∀ test, (leaf test).events = []) (tree : Condition α) :
    (tree.evaluateTraced leaf).events = [] := by
  simp [evaluateTraced, silent]

/-- Whether an experiment is open to a user: it has no audiences, or they are definitely met. -/
def Experiment.admits (experiment : Experiment) (config : Config) (attributes : Attributes) :
    Bool :=
  match experiment.audiences? with
  | none => true
  | some audiences => (Targeting.evaluateAudiences config attributes audiences).value = .yes

namespace Targeting

theorem events_evaluateTests (attributes : Attributes) (tests : Condition AttributeTest) :
    (evaluateTests attributes tests).events = [] := by
  apply Condition.events_evaluateTraced
  intro test
  cases answer : test.evaluate attributes <;> simp [testAnswer, answer]

theorem events_evaluateAudiences (config : Config) (attributes : Attributes)
    (audiences : Condition AudienceRef) :
    (evaluateAudiences config attributes audiences).events = [] := by
  apply Condition.events_evaluateTraced
  intro audience
  cases found : config.audiencesById[audience.id]? <;>
    simp [audienceAnswer, found, events_evaluateTests]

@[simp] theorem value_admits (config : Config) (attributes : Attributes)
    (experiment : Experiment) (kind name : String) :
    (admits config attributes experiment kind name).value =
      experiment.admits config attributes := by
  cases listed : experiment.audiences? <;> simp [admits, Experiment.admits, listed]

@[simp] theorem events_admits (config : Config) (attributes : Attributes)
    (experiment : Experiment) (kind name : String) :
    (admits config attributes experiment kind name).events = [] := by
  cases listed : experiment.audiences? <;> simp [admits, listed, events_evaluateAudiences]

end Targeting
end FeatureFlags
