import FeatureFlags.Condition.Match
import FeatureFlags.Proofs.Decimal.Order

/-!
The comparison operators. All operators of a family look at one order, of two numbers or of a
version and a target, and there is such an order exactly if both sides are fit to be compared. So
the operators of a family give definite answers together, and these answers agree.
-/

namespace FeatureFlags

namespace Relation

/-- Answers that are given together or not at all, and do not contradict each other. -/
structure Agree (answer : Relation → Option Bool) : Prop where
  together : (∀ relation, answer relation = none) ∨ ∀ relation, (answer relation).isSome = true
  ge_eq_not_lt : answer .ge = (answer .lt).map (!·)
  le_eq_not_gt : answer .le = (answer .gt).map (!·)
  exclusive : ¬ (answer .gt = some true ∧ answer .lt = some true)

/-- Answers that are read off one order agree. -/
theorem agree_of_order (order : Option Ordering) : Agree fun relation => order.map relation.holds := by
  cases order with
  | none => exact ⟨.inl fun _ => rfl, rfl, rfl, nofun⟩
  | some order =>
      refine ⟨.inr fun _ => rfl, ?_, ?_, ?_⟩ <;> cases order <;> simp [holds]

end Relation

namespace AttributeValue

theorem comparable?_eq_some {value : AttributeValue} {x : Float} :
    value.comparable? = some x ↔ value = .number x ∧ isComparable x = true := by
  cases value with
  | number y =>
      by_cases comparable : isComparable y = true <;> simp [comparable?, comparable]
      · rintro rfl
        exact comparable
      · rintro rfl
        exact eq_false_of_ne_true comparable
  | string _ | boolean _ | null => simp [comparable?]

theorem isFinite_of_isComparable {x : Float} (comparable : isComparable x = true) :
    x.isFinite = true :=
  (Bool.and_eq_true_iff.mp comparable).1

theorem string?_eq_some {value : AttributeValue} {text : String} :
    value.string? = some text ↔ value = .string text := by
  cases value <;> simp [string?]

end AttributeValue

namespace MatchKind

/-- The answer of a match, if it is neither unknown nor an anomaly. -/
def definite? : Except Anomaly Truth → Option Bool
  | .ok .yes => some true
  | .ok .no => some false
  | .ok .unknown | .error _ => none

theorem definite?_eq_some_true {answer : Except Anomaly Truth} :
    definite? answer = some true ↔ answer = .ok .yes := by
  rcases answer with _ | _ | _ | _ <;> simp [definite?]

theorem definite?_ofBool (answer : Except Anomaly Bool) :
    definite? (answer.map Truth.ofBool) = answer.toOption := by
  rcases answer with _ | _ | _ <;> rfl

theorem toOption_bind {α β : Type} (first : Except Anomaly α) (next : α → Except Anomaly β) :
    (first >>= next).toOption = first.toOption.bind fun a => (next a).toOption := by
  cases first <;> rfl

/-- The order of a number and an operand, if both can be compared. -/
def numberOrder? (operand actual : AttributeValue) : Option Ordering := do
  let expected ← operand.comparable?
  compareNumbers? (← actual.comparable?) expected

/-- The order of a version and a target, if both can be read. -/
def versionOrder? (operand actual : AttributeValue) : Option Ordering := do
  let target ← Version.parse (← operand.string?)
  let version ← Version.parse (← actual.string?)
  return version.compareToTarget target

theorem compareNumbers?_eq (x y : Float) : compareNumbers? x y = Double.order? x y := by
  simp only [compareNumbers?, Double.lt_iff, Double.beq_iff, Double.order?_swap x y]
  rcases Double.order? x y with _ | order
  · rfl
  · cases order <;> rfl

theorem toOption_numberOperand (kind : MatchKind) (operand : AttributeValue) :
    (kind.numberOperand operand).toOption = operand.comparable? := by
  cases operand with
  | number x =>
      simp only [numberOperand, AttributeValue.comparable?]
      split <;> rfl
  | string _ | boolean _ | null => rfl

theorem toOption_expectNumber (actual : AttributeValue) :
    actual.expectNumber.toOption = actual.comparable? := by
  cases actual with
  | number x =>
      simp only [AttributeValue.expectNumber, AttributeValue.comparable?]
      split <;> rfl
  | string _ | boolean _ | null => rfl

theorem toOption_stringOperand (kind : MatchKind) (operand : AttributeValue) :
    (kind.stringOperand operand).toOption = operand.string? := by
  cases operand <;> rfl

theorem toOption_expectString (actual : AttributeValue) :
    actual.expectString.toOption = actual.string? := by
  cases actual <;> rfl

theorem toOption_parseVersion (text : String) :
    (parseVersion text).toOption = Version.parse text := by
  simp only [parseVersion]
  cases Version.parse text <;> rfl

theorem toOption_compareNumbers (kind : MatchKind) (operand actual : AttributeValue) :
    (kind.compareNumbers operand actual).toOption = numberOrder? operand actual := by
  simp only [compareNumbers, numberOrder?, toOption_bind, toOption_numberOperand,
    toOption_expectNumber]
  congr 1
  funext expected
  congr 1
  funext x
  cases compareNumbers? x expected <;> rfl

theorem toOption_compareVersions (kind : MatchKind) (operand actual : AttributeValue) :
    (kind.compareVersions operand actual).toOption = versionOrder? operand actual := by
  simp only [compareVersions, versionOrder?, toOption_bind, toOption_stringOperand,
    toOption_expectString, toOption_parseVersion]
  rfl

variable (operand : AttributeValue) (actual : Option AttributeValue)

theorem numberOrder?_null : numberOrder? operand .null = none := by
  simp [numberOrder?, AttributeValue.comparable?]

theorem versionOrder?_null : versionOrder? operand .null = none := by
  simp [versionOrder?, AttributeValue.string?]

/-- A kind that judges an order of attribute and operand gives a definite answer if there is such
an order. -/
theorem definite?_of_order {kind : MatchKind} {order? : AttributeValue → Option Ordering}
    {judge : Ordering → Bool} (compares : kind ≠ .present) (null : order? .null = none)
    (judges : ∀ value, (kind.evaluatePresent operand value).toOption = (order? value).map judge) :
    definite? (kind.evaluate operand actual) = (actual.bind order?).map judge := by
  cases actual with
  | none => simp [evaluate, definite?, compares]
  | some value =>
      cases value with
      | null => simp [evaluate, definite?, compares, null]
      | string _ | number _ | boolean _ => exact (definite?_ofBool _).trans (judges _)

theorem definite?_number (relation : Relation) :
    definite? ((number relation).evaluate operand actual) =
      (actual.bind (numberOrder? operand)).map relation.holds := by
  refine definite?_of_order operand actual nofun (numberOrder?_null operand) fun value => ?_
  rw [evaluatePresent, toOption_bind, toOption_compareNumbers, Option.map_eq_bind]
  rfl

theorem definite?_version (relation : Relation) :
    definite? ((version relation).evaluate operand actual) =
      (actual.bind (versionOrder? operand)).map relation.holds := by
  refine definite?_of_order operand actual nofun (versionOrder?_null operand) fun value => ?_
  rw [evaluatePresent, toOption_bind, toOption_compareVersions, Option.map_eq_bind]
  rfl

theorem definite?_versionEq :
    definite? (versionEq.evaluate operand actual) =
      (actual.bind (versionOrder? operand)).map (· == .eq) := by
  refine definite?_of_order operand actual nofun (versionOrder?_null operand) fun value => ?_
  rw [evaluatePresent, toOption_bind, toOption_compareVersions, Option.map_eq_bind]
  rfl

/-- Numbers that are fit to be compared have an order, for they are finite. -/
theorem exists_numberOrder?_iff :
    (∃ order, actual.bind (numberOrder? operand) = some order) ↔
      ∃ x y, operand = .number x ∧ actual = some (.number y) ∧
        AttributeValue.isComparable x = true ∧ AttributeValue.isComparable y = true := by
  simp only [numberOrder?, Option.bind_eq_some_iff, bind, AttributeValue.comparable?_eq_some]
  constructor
  · rintro ⟨order, value, rfl, x, ⟨rfl, comparable⟩, y, ⟨rfl, comparable'⟩, -⟩
    exact ⟨x, y, rfl, rfl, comparable, comparable'⟩
  · rintro ⟨x, y, rfl, rfl, comparable, comparable'⟩
    obtain ⟨order, ordered⟩ := Double.exists_order? (AttributeValue.isFinite_of_isComparable comparable')
      (AttributeValue.isFinite_of_isComparable comparable)
    exact ⟨order, _, rfl, x, ⟨rfl, comparable⟩, y, ⟨rfl, comparable'⟩,
      (compareNumbers?_eq y x).trans ordered⟩

theorem exists_versionOrder?_iff :
    (∃ order, actual.bind (versionOrder? operand) = some order) ↔
      ∃ targetText text target version, operand = .string targetText ∧
        actual = some (.string text) ∧ Version.parse targetText = some target ∧
        Version.parse text = some version := by
  simp only [versionOrder?, Option.bind_eq_some_iff, bind, AttributeValue.string?_eq_some]
  constructor
  · rintro ⟨order, value, rfl, targetText, rfl, target, targetRead, text, rfl, version, read, -⟩
    exact ⟨targetText, text, target, version, rfl, rfl, targetRead, read⟩
  · rintro ⟨targetText, text, target, version, rfl, rfl, targetRead, read⟩
    exact ⟨_, _, rfl, targetText, rfl, target, targetRead, text, rfl, version, read, rfl⟩

/-- The answers of one family of operators agree, for all operands and attributes, and are definite
exactly if both sides can be compared. Equality of versions goes with the rest of its family. -/
theorem comparisons_agree (operand : AttributeValue) (actual : Option AttributeValue) :
    let numbers relation := definite? ((number relation).evaluate operand actual)
    let versions relation := definite? ((version relation).evaluate operand actual)
    let sameVersion := definite? (versionEq.evaluate operand actual)
    Relation.Agree numbers ∧ Relation.Agree versions ∧
      (∀ relation, sameVersion.isSome = (versions relation).isSome) ∧
      (sameVersion = do return (← versions .ge) && (← versions .le)) ∧
      (∀ relation, (numbers relation).isSome ↔ ∃ x y, operand = .number x ∧
        actual = some (.number y) ∧ AttributeValue.isComparable x ∧ AttributeValue.isComparable y) ∧
      ∀ relation, (versions relation).isSome ↔ ∃ targetText text target version,
        operand = .string targetText ∧ actual = some (.string text) ∧
        Version.parse targetText = some target ∧ Version.parse text = some version := by
  simp only [definite?_number, definite?_version, definite?_versionEq]
  refine ⟨Relation.agree_of_order _, Relation.agree_of_order _, fun _ => ?_, ?_, fun _ => ?_,
    fun _ => ?_⟩
  · simp only [Option.isSome_map]
  · rcases actual.bind (versionOrder? operand) with _ | order
    · rfl
    · cases order <;> rfl
  · rw [← exists_numberOrder?_iff, Option.isSome_map, Option.isSome_iff_exists]
  · rw [← exists_versionOrder?_iff, Option.isSome_map, Option.isSome_iff_exists]

end MatchKind
end FeatureFlags
