import FeatureFlags.Dict
import FeatureFlags.Json.Printer

/-!
User attributes: named values that targeting looks at. Numbers are doubles; the ones that take part
in comparisons are finite and at most `2 ^ 53` in magnitude.
-/

namespace FeatureFlags

inductive AttributeType where
  | string
  | number
  | boolean
  | null
  deriving DecidableEq, Repr

def AttributeType.name : AttributeType → String
  | .string => "string"
  | .number => "number"
  | .boolean => "boolean"
  | .null => "null"

inductive AttributeValue where
  | string (value : String)
  | number (value : Float)
  | boolean (value : Bool)
  | null
  deriving DecidableEq

namespace AttributeValue

def type : AttributeValue → AttributeType
  | .string _ => .string
  | .number _ => .number
  | .boolean _ => .boolean
  | .null => .null

/-- Numbers up to `2 ^ 53` in magnitude can be compared; beyond it doubles skip whole numbers. -/
def isComparable (x : Float) : Bool := x.isFinite && x.abs ≤ 9007199254740992

def string? : AttributeValue → Option String
  | .string value => some value
  | _ => none

def comparable? : AttributeValue → Option Float
  | .number value => if isComparable value then some value else none
  | _ => none

/-- A value as JSON. All numbers are doubles; one that is not finite becomes null. -/
def toJson : AttributeValue → Json
  | .string value => .string value
  | .number value => .ofFloat value
  | .boolean value => .bool value
  | .null => .null

def ofJson? : Json → Option AttributeValue
  | .string value => some (.string value)
  | .number value => some (.number value.toFloat)
  | .bool value => some (.boolean value)
  | .null => some .null
  | .array _ | .object _ => none

end AttributeValue

abbrev Attributes := Dict AttributeValue

namespace Attributes

def bucketingId : String := "$opt_bucketing_id"

def toJson (attributes : Attributes) : Json :=
  .object (attributes.toList.map fun (key, value) => (key, value.toJson))

end Attributes
end FeatureFlags
