import FeatureFlags.Condition.AttributeTest
import FeatureFlags.Proofs.Attribute
import FeatureFlags.Proofs.Condition.Kleene

/-!
Reading conditions back from JSON. Whether a string is an operator depends on its place alone: only
the first item of a list is one. Since every list is written with its operator in front, a written
tree is read as itself, whatever its leaves are called.
-/

namespace FeatureFlags

/-- The name of an operator, which has a meaning of its own in front of a list. -/
def Json.IsOperator (value : Json) : Prop :=
  value = .string "and" ∨ value = .string "or" ∨ value = .string "not"

namespace Condition
variable {α : Type} {leaf : Json → Except ConditionError α}

theorem ofJson_nil : ofJson leaf (.array []) = .ok (.and []) := by
  rw [ofJson]

theorem ofJson_and (operands : List Json) :
    ofJson leaf (.array (.string "and" :: operands)) = (listOfJson leaf operands).map .and := by
  rw [ofJson]

theorem ofJson_or (operands : List Json) :
    ofJson leaf (.array (.string "or" :: operands)) = (listOfJson leaf operands).map .or := by
  rw [ofJson]

theorem ofJson_not (operands : List Json) :
    ofJson leaf (.array (.string "not" :: operands)) =
      (listOfJson leaf operands).map fun operands => .not operands.head? := by
  rw [ofJson]

/-- A list without an operator is a disjunction. -/
theorem ofJson_list {first : Json} (plain : ¬ first.IsOperator) (operands : List Json) :
    ofJson leaf (.array (first :: operands)) =
      (listOfJson leaf (first :: operands)).map .or := by
  simp only [Json.IsOperator, not_or] at plain
  obtain ⟨noAnd, noOr, noNot⟩ := plain
  rw [ofJson, listOfJson]
  · cases ofJson leaf first with
    | error _ => rfl
    | ok operand => cases listOfJson leaf operands <;> rfl
  · exact noAnd
  · exact noOr
  · exact noNot

theorem ofJson_leaf {value : Json} (single : ∀ items, value ≠ .array items) :
    ofJson leaf value = (leaf value).map .leaf := by
  rw [ofJson]
  · exact single _
  · exact fun _ => single _
  · exact fun _ => single _
  · exact fun _ => single _
  · exact fun _ _ => single _

theorem listOfJson_listToJson {encode : α → Json} {operands : List (Condition α)}
    (reads : ∀ operand ∈ operands, ofJson leaf (operand.toJson encode) = .ok operand) :
    listOfJson leaf (listToJson encode operands) = .ok operands := by
  induction operands with
  | nil => rw [listToJson, listOfJson]
  | cons operand rest ih =>
      have first := reads operand List.mem_cons_self
      have later := ih fun other member => reads other (List.mem_cons_of_mem _ member)
      rw [listToJson, listOfJson, first, later]
      rfl

/-- A tree is read back from its JSON if its leaves are, and none of them is written as a list. -/
theorem ofJson_toJson {encode : α → Json} (single : ∀ test items, encode test ≠ .array items)
    (tree : Condition α) (reads : ∀ test ∈ tree.leaves, leaf (encode test) = .ok test) :
    ofJson leaf (tree.toJson encode) = .ok tree := by
  induction tree with
  | leaf test =>
      rw [toJson, ofJson_leaf (single test), reads test List.mem_cons_self]
      rfl
  | pending =>
      rw [toJson, ofJson_not, listOfJson]
      rfl
  | and operands ih =>
      rw [leaves, leavesOfAll_eq_flatMap] at reads
      rw [toJson, ofJson_and, listOfJson_listToJson]
      · rfl
      · intro operand member
        exact ih operand member fun test listed =>
          reads test (List.mem_flatMap.mpr ⟨operand, member, listed⟩)
  | or operands ih =>
      rw [leaves, leavesOfAll_eq_flatMap] at reads
      rw [toJson, ofJson_or, listOfJson_listToJson]
      · rfl
      · intro operand member
        exact ih operand member fun test listed =>
          reads test (List.mem_flatMap.mpr ⟨operand, member, listed⟩)
  | not operand ih =>
      rw [toJson, ofJson_not, listOfJson, ih reads, listOfJson]
      rfl

end Condition

theorem MatchKind.kindField_toJson (kind : MatchKind) :
    AttributeTest.kindField (some kind.toJson) = .ok kind := by
  cases kind with
  | number relation | version relation => cases relation <;> rfl
  | exact | present | substring | versionEq | legacy => rfl

namespace AttributeTest

/-- The operand is not one of the numbers that JSON cannot express. -/
def HasFiniteOperand (test : AttributeTest) : Prop :=
  ∀ x, test.operand = .number x → x.isFinite = true

theorem HasFiniteOperand.legible_eq {test : AttributeTest} (finite : test.HasFiniteOperand) :
    test.operand.legible = test.operand := by
  cases written : test.operand with
  | number x => rw [AttributeValue.legible, if_pos (finite x written)]
  | string _ | boolean _ | null => rfl

theorem ofJson_toJson {test : AttributeTest} (finite : test.HasFiniteOperand) :
    ofJson test.toJson = .ok test := by
  have operand : operandField (some test.operand.toJson) = .ok test.operand := by
    rw [operandField, AttributeValue.ofJson?_toJson, finite.legible_eq]
  simp only [toJson, ofJson, List.lookup, String.reduceBEq, beq_self_eq_true,
    MatchKind.kindField_toJson, operand]
  rfl

theorem toJson_ne_array (test : AttributeTest) (items : List Json) :
    test.toJson ≠ .array items := by
  rw [toJson]
  exact Json.noConfusion

end AttributeTest

theorem AudienceRef.toJson_ne_array (audience : AudienceRef) (items : List Json) :
    audience.toJson ≠ .array items := by
  rw [toJson]
  exact Json.noConfusion

namespace Condition

/-- Trees of audiences and trees of tests are read as they were written; a list without an operator
is read as a disjunction, and the empty list as an empty conjunction. -/
theorem written_conditions_read_back :
    (∀ tree : Condition AudienceRef,
      ofJson AudienceRef.ofJson (tree.toJson AudienceRef.toJson) = .ok tree) ∧
    (∀ tree : Condition AttributeTest, (∀ test ∈ tree.leaves, test.HasFiniteOperand) →
      ofJson AttributeTest.ofJson (tree.toJson AttributeTest.toJson) = .ok tree) ∧
    ∀ {α : Type} (leaf : Json → Except ConditionError α),
      ofJson leaf (.array []) = .ok (.and []) ∧
      ∀ (first : Json) (items : List Json), ¬ first.IsOperator →
        ofJson leaf (.array (first :: items)) =
          ofJson leaf (.array (.string "or" :: first :: items)) := by
  refine ⟨?_, ?_, ?_⟩
  · intro tree
    exact ofJson_toJson AudienceRef.toJson_ne_array tree fun _ _ => rfl
  · intro tree finite
    exact ofJson_toJson AttributeTest.toJson_ne_array tree fun test member =>
      AttributeTest.ofJson_toJson (finite test member)
  · intro α leaf
    refine ⟨ofJson_nil, ?_⟩
    intro first items plain
    rw [ofJson_list plain, ofJson_or]

/-- Audiences may be called like operators, and numbers are told from texts. -/
theorem written_conditions_read_back_named_and :
    let names : Condition AudienceRef :=
      .not (some (.and [.leaf ⟨"and"⟩, .or [.leaf ⟨""⟩], .not none]))
    let tests : Condition AttributeTest :=
      .and [.leaf { name := "or", kind := .number .ge, operand := .number 18 },
        .leaf { name := "not", kind := .legacy, operand := .string "18" }]
    let items : List Json := [.string "gold", .string "and"]
    ofJson AudienceRef.ofJson (names.toJson AudienceRef.toJson) = .ok names ∧
      ofJson AttributeTest.ofJson (tests.toJson AttributeTest.toJson) = .ok tests ∧
      ofJson AudienceRef.ofJson (.array items) =
        ofJson AudienceRef.ofJson (.array (.string "or" :: items)) := by
  intro names tests items
  obtain ⟨audiences, conditions, lists⟩ := written_conditions_read_back
  refine ⟨audiences names, conditions tests ?_, (lists AudienceRef.ofJson).2 _ _ ?_⟩
  · intro test member x written
    fin_cases member
    · cases written
      decide
    · cases written
  · simp [Json.IsOperator]

end Condition
end FeatureFlags
