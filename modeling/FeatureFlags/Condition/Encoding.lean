import FeatureFlags.Condition.Tree
import FeatureFlags.Json.Printer

/-!
Condition trees as nested JSON lists. A list may begin with the name of an operator; one that does
not is a disjunction, and the empty list is an empty conjunction. The first leaf that cannot be
read decides the error.
-/

namespace FeatureFlags

inductive ConditionError where
  | unknownMatch (name : String)
  | notAnObject (value : Json)
  | notAReference (value : Json)
  | notATruthValue (value : Json)
  | notAString (value : Json)
  | notAnAttributeValue
  | missingName

namespace ConditionError

def describe : Json → String
  | .null => "null"
  | .bool value => s!"boolean `{(Json.bool value).render}`"
  | .number (.integer n) => s!"integer `{n}`"
  | .number (.real x) => s!"floating point `{(Json.Number.real x).render}`"
  | .string value => s!"string {Json.renderString value}"
  | .array _ => "sequence"
  | .object _ => "map"

def reason : ConditionError → String
  | unknownMatch name => name
  | notAnObject value => s!"attribute condition must be an object, got {value.render}"
  | notAReference value => s!"audience reference must be a string id, got {value.render}"
  | notATruthValue value => s!"not a leaf: {value.render}"
  | notAString value => s!"invalid type: {describe value}, expected a string"
  | notAnAttributeValue => "data did not match any variant of untagged enum AttributeValue"
  | missingName => "missing field `name`"

def message : ConditionError → String
  | unknownMatch name => s!"unknown match type: {name}"
  | error => s!"invalid audience condition: {error.reason}"

end ConditionError

structure AudienceRef where
  id : String
  deriving DecidableEq, Repr

namespace AudienceRef

def ofJson : Json → Except ConditionError AudienceRef
  | .string id => .ok ⟨id⟩
  | value => .error (.notAReference value)

def toJson (audience : AudienceRef) : Json := .string audience.id

end AudienceRef

def Truth.ofJson (value : Json) : Except ConditionError Truth :=
  match Truth.ofJson? value with
  | some truth => .ok truth
  | none => .error (.notATruthValue value)

namespace Condition
variable {α : Type}

mutual

/-- The tree that a JSON value encodes. All operands of a negation are read, but only the first one
counts. -/
def ofJson (leaf : Json → Except ConditionError α) : Json → Except ConditionError (Condition α)
  | .array [] => .ok (.and [])
  | .array (.string "and" :: operands) => (listOfJson leaf operands).map .and
  | .array (.string "or" :: operands) => (listOfJson leaf operands).map .or
  | .array (.string "not" :: operands) =>
    (listOfJson leaf operands).map fun operands => .not operands.head?
  | .array (first :: operands) => do
    let operand ← ofJson leaf first
    return .or (operand :: (← listOfJson leaf operands))
  | value => (leaf value).map .leaf

def listOfJson (leaf : Json → Except ConditionError α) :
    List Json → Except ConditionError (List (Condition α))
  | [] => .ok []
  | item :: items => do
    let operand ← ofJson leaf item
    return operand :: (← listOfJson leaf items)

end

mutual

/-- The tree as JSON, with the operator in front of every list. -/
def toJson (leaf : α → Json) : Condition α → Json
  | .leaf test => leaf test
  | .and operands => .array (.string "and" :: listToJson leaf operands)
  | .or operands => .array (.string "or" :: listToJson leaf operands)
  | .not none => .array [.string "not"]
  | .not (some operand) => .array [.string "not", toJson leaf operand]

def listToJson (leaf : α → Json) : List (Condition α) → List Json
  | [] => []
  | operand :: operands => toJson leaf operand :: listToJson leaf operands

end

end Condition
end FeatureFlags
