import Mathlib.Data.List.Basic
import FeatureFlags.Proofs.Condition.Knowledge

/-!
Audience references stand for conditions. Evaluating a tree of references audience by audience comes
to the same as evaluating the one tree in which every reference is replaced by the conditions of its
audience: the same answer, from the same tests in the same order, with the same reasons for tests
that have no answer.
-/

namespace FeatureFlags

/-- The same evaluation, where each leaf that was looked at stands for further ones. -/
def Evaluation.expand {α β : Type} (result : Evaluation α) (visited : α → List β) :
    Evaluation β :=
  { truth := result.truth, visited := result.visited.flatMap visited }

namespace Condition
variable {α β : Type} (leafValue : β → Truth) (tree : α → Condition β)

theorem bindAll_eq_map (operands : List (Condition α)) :
    bindAll tree operands = operands.map (bind tree) := by
  induction operands with
  | nil => rfl
  | cons operand rest ih => rw [bindAll, ih, List.map_cons]

/-- A leaf is worth what the tree is worth that stands for it. -/
theorem evaluateUntil_bind (stop : Truth) (join : Truth → Truth → Truth) (unit : Truth)
    {operands : List (Condition α)}
    (inlined : ∀ operand ∈ operands, (operand.bind tree).evaluate leafValue =
      (operand.evaluate fun test => ((tree test).evaluate leafValue).truth).expand
        fun test => ((tree test).evaluate leafValue).visited) :
    evaluateUntil leafValue stop join unit (operands.map (bind tree)) =
      (evaluateUntil (fun test => ((tree test).evaluate leafValue).truth) stop join unit
        operands).expand fun test => ((tree test).evaluate leafValue).visited := by
  induction operands with
  | nil => rfl
  | cons operand rest ih =>
      have first := inlined operand List.mem_cons_self
      have later := ih fun other member => inlined other (List.mem_cons_of_mem _ member)
      rw [List.map_cons]
      by_cases stops : (operand.evaluate fun test =>
        ((tree test).evaluate leafValue).truth).truth = stop
      · rw [evaluateUntil_of_stop stops, evaluateUntil_of_stop (by rw [first]; exact stops), first]
      · rw [evaluateUntil_of_ne stops, evaluateUntil_of_ne (by rw [first]; exact stops), first,
          later]
        simp only [Evaluation.expand, List.flatMap_append]

/-- Evaluating a tree of trees is evaluating the outer tree, with the inner ones as its leaves. -/
theorem evaluate_bind (outer : Condition α) :
    (outer.bind tree).evaluate leafValue =
      (outer.evaluate fun test => ((tree test).evaluate leafValue).truth).expand
        fun test => ((tree test).evaluate leafValue).visited := by
  induction outer with
  | leaf test => simp [bind, evaluate, Evaluation.expand]
  | pending => rfl
  | and operands ih =>
      rw [bind, bindAll_eq_map, evaluate, evaluate, evaluateAll_eq_evaluateUntil,
        evaluateAll_eq_evaluateUntil]
      exact evaluateUntil_bind leafValue tree _ _ _ ih
  | or operands ih =>
      rw [bind, bindAll_eq_map, evaluate, evaluate, evaluateAny_eq_evaluateUntil,
        evaluateAny_eq_evaluateUntil]
      exact evaluateUntil_bind leafValue tree _ _ _ ih
  | not operand ih =>
      rw [bind, evaluate, evaluate, ih]
      rfl

end Condition

/-- The tests that a reference stands for: the conditions of its audience. If there is no such
audience, nothing can be said, as by a negation without an operand. -/
def Config.testsFor (config : Config) (audience : AudienceRef) : Condition AttributeTest :=
  (config.audiencesById[audience.id]?).elim (.not none) (·.conditions)

/-- The one tree of tests that a tree of references stands for. -/
def Config.inline (config : Config) (audiences : Condition AudienceRef) :
    Condition AttributeTest :=
  audiences.bind config.testsFor

/-- A note about a test, as opposed to those about audiences. -/
def Reason.isAboutTest (reason : Reason) : Bool :=
  "Condition ".toList.isPrefixOf reason.message.toList

namespace Targeting
variable (config : Config) (attributes : Attributes)

/-- The tests of a tree that are looked at, in order. -/
def testsSeen (tests : Condition AttributeTest) : List AttributeTest :=
  (tests.evaluate fun test => (testAnswer attributes test).value).visited

/-- The references of a tree that are looked at, in order. -/
def audiencesSeen (audiences : Condition AudienceRef) : List AudienceRef :=
  (audiences.evaluate fun audience => (audienceAnswer config attributes audience).value).visited

/-- The note on a test that is in error about the user. -/
def unknownNote? (test : AttributeTest) : Option Reason :=
  match test.evaluate attributes with
  | .ok _ => none
  | .error anomaly =>
    some
      { severity := .info
        message := s!"Condition {test.text} evaluated to UNKNOWN: {anomaly.message}." }

theorem reasons_testAnswer (test : AttributeTest) :
    (testAnswer attributes test).reasons = (unknownNote? attributes test).toList := by
  simp only [testAnswer, unknownNote?]
  cases test.evaluate attributes <;> rfl

/-- Exactly the tests that are looked at and in error leave a note each. -/
theorem reasons_evaluateTests (tests : Condition AttributeTest) :
    (evaluateTests attributes tests).reasons =
      (testsSeen attributes tests).filterMap (unknownNote? attributes) := by
  rw [List.filterMap_eq_flatMap_toList]
  simp only [evaluateTests, Condition.evaluateTraced, reasons_testAnswer]
  rfl

theorem value_audienceAnswer (audience : AudienceRef) :
    (audienceAnswer config attributes audience).value =
      (evaluateTests attributes (config.testsFor audience)).value := by
  cases listed : config.audiencesById[audience.id]? with
  | none => simp [value_audienceAnswer_of_missing listed, Config.testsFor, listed, evaluateTests,
      Condition.evaluateTraced, Condition.evaluate]
  | some found => simp [value_audienceAnswer_of_found listed, Config.testsFor, listed]

theorem evaluate_inline (audiences : Condition AudienceRef) :
    ((config.inline audiences).evaluate fun test => (testAnswer attributes test).value) =
      (audiences.evaluate fun audience =>
        (audienceAnswer config attributes audience).value).expand
          fun audience => testsSeen attributes (config.testsFor audience) := by
  simp only [value_audienceAnswer]
  exact Condition.evaluate_bind _ config.testsFor audiences

theorem value_inline (audiences : Condition AudienceRef) :
    (evaluateAudiences config attributes audiences).value =
      (evaluateTests attributes (config.inline audiences)).value := by
  rw [evaluateTests, Condition.evaluateTraced, evaluate_inline]
  rfl

theorem testsSeen_inline (audiences : Condition AudienceRef) :
    testsSeen attributes (config.inline audiences) =
      (audiencesSeen config attributes audiences).flatMap fun audience =>
        testsSeen attributes (config.testsFor audience) := by
  rw [testsSeen, evaluate_inline]
  rfl

theorem isAboutTest_of_mem_reasons {tests : Condition AttributeTest} {reason : Reason}
    (member : reason ∈ (evaluateTests attributes tests).reasons) : reason.isAboutTest = true := by
  rw [reasons_evaluateTests] at member
  obtain ⟨test, _, noted⟩ := List.mem_filterMap.mp member
  simp only [unknownNote?] at noted
  cases answer : test.evaluate attributes with
  | ok truth => simp [answer] at noted
  | error anomaly =>
      simp only [answer, Option.some.injEq] at noted
      subst noted
      simp [Reason.isAboutTest, toString]

/-- What an audience adds to the notes of its own is the notes on its tests. -/
theorem reasons_audienceAnswer (audience : AudienceRef) :
    (audienceAnswer config attributes audience).reasons.filter Reason.isAboutTest =
      (evaluateTests attributes (config.testsFor audience)).reasons := by
  cases listed : config.audiencesById[audience.id]? with
  | none =>
      simp [audienceAnswer, listed, Config.testsFor, evaluateTests, Condition.evaluateTraced,
        Condition.evaluate, Reason.isAboutTest, toString]
  | some found =>
      have onTests : (evaluateTests attributes found.conditions).reasons.filter
          Reason.isAboutTest = (evaluateTests attributes found.conditions).reasons :=
        List.filter_eq_self.mpr fun _ => isAboutTest_of_mem_reasons attributes
      simp [audienceAnswer, listed, Config.testsFor, onTests, Reason.isAboutTest, toString]

/-- Of the notes on a tree of references, those about tests are the notes on the inlined tree. -/
theorem reasons_inline (audiences : Condition AudienceRef) :
    (evaluateAudiences config attributes audiences).reasons.filter Reason.isAboutTest =
      (evaluateTests attributes (config.inline audiences)).reasons := by
  calc (evaluateAudiences config attributes audiences).reasons.filter Reason.isAboutTest
      = (audiencesSeen config attributes audiences).flatMap fun audience =>
          (audienceAnswer config attributes audience).reasons.filter Reason.isAboutTest :=
        List.filter_flatMap
    _ = (audiencesSeen config attributes audiences).flatMap fun audience =>
          (testsSeen attributes (config.testsFor audience)).filterMap
            (unknownNote? attributes) := by
        simp only [reasons_audienceAnswer, reasons_evaluateTests]
    _ = (evaluateTests attributes (config.inline audiences)).reasons := by
        rw [reasons_evaluateTests, testsSeen_inline, List.filterMap_flatMap]

/-- An audience reference is evaluated as if the conditions of the audience stood in its place: the
answer is that on the inlined tree, the same tests are looked at in the same order, and exactly
those that are in error leave one note each. An experiment admits a user if the answer is definitely
yes, on its condition tree if it has one, else on any of its audience ids; with neither it always
does. -/
theorem audiences_evaluate_inlined (audiences : Condition AudienceRef) :
    (evaluateAudiences config attributes audiences).value =
        (evaluateTests attributes (config.inline audiences)).value ∧
      ((audiencesSeen config attributes audiences).flatMap fun audience =>
          testsSeen attributes (config.testsFor audience)) =
        testsSeen attributes (config.inline audiences) ∧
      (evaluateTests attributes (config.inline audiences)).reasons =
        (testsSeen attributes (config.inline audiences)).filterMap (unknownNote? attributes) ∧
      (evaluateAudiences config attributes audiences).reasons.filter Reason.isAboutTest =
        (testsSeen attributes (config.inline audiences)).filterMap (unknownNote? attributes) ∧
      ∀ (experiment : Experiment) (kind name : String),
        (admits config attributes experiment kind name).value = true ↔
          match experiment.audienceConditions with
          | some conditions => (evaluateAudiences config attributes conditions).value = .yes
          | none =>
            experiment.audienceIds = [] ∨
              (evaluateAudiences config attributes
                (.or (experiment.audienceIds.map fun id => .leaf ⟨id⟩))).value = .yes := by
  have noted := reasons_evaluateTests attributes (config.inline audiences)
  refine ⟨value_inline config attributes audiences,
    (testsSeen_inline config attributes audiences).symm, noted,
    (reasons_inline config attributes audiences).trans noted, ?_⟩
  intro experiment kind name
  rw [value_admits, Experiment.admits]
  cases conditions : experiment.audienceConditions with
  | some audiences => simp [Experiment.audiences?, conditions]
  | none =>
      cases ids : experiment.audienceIds with
      | nil => simp [Experiment.audiences?, conditions, ids]
      | cons id rest => simp [Experiment.audiences?, conditions, ids]

end Targeting
end FeatureFlags
