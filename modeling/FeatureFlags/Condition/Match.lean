import FeatureFlags.Attribute
import FeatureFlags.Version
import FeatureFlags.Condition.Truth
import FeatureFlags.Text.Quoted

/-!
How an attribute is matched against an operand. A missing or null attribute gives no definite
answer, except that presence itself is then denied. Values that cannot be compared are an anomaly,
not an answer.
-/

namespace FeatureFlags

inductive Relation where
  | gt
  | ge
  | lt
  | le
  deriving DecidableEq, Repr

namespace Relation

def holds : Relation → Ordering → Bool
  | gt, order => order = .gt
  | ge, order => order ≠ .lt
  | lt, order => order = .lt
  | le, order => order ≠ .gt

def name : Relation → String
  | gt => "gt"
  | ge => "ge"
  | lt => "lt"
  | le => "le"

end Relation

inductive MatchKind where
  | exact
  /-- The attribute is there and not null. -/
  | present
  | number (relation : Relation)
  | substring
  | versionEq
  | version (relation : Relation)
  /-- Equality of strings, for conditions that name no kind. -/
  | legacy
  deriving DecidableEq, Repr

namespace MatchKind

def all : List MatchKind :=
  [.exact, .present, .number .gt, .number .ge, .number .lt, .number .le, .substring, .versionEq,
    .version .gt, .version .ge, .version .lt, .version .le, .legacy]

def name : MatchKind → String
  | .exact => "exact"
  | .present => "exists"
  | .number relation => relation.name
  | .substring => "substring"
  | .versionEq => "semver_eq"
  | .version relation => "semver_" ++ relation.name
  | .legacy => "legacy"

def ofName? (name : String) : Option MatchKind := all.find? (·.name = name)

/-- The name as JSON. A legacy condition has none. -/
def toJson : MatchKind → Json
  | .legacy => .null
  | kind => .string kind.name

end MatchKind

inductive Anomaly where
  | invalidVersion (text : String)
  | invalidNumber
  | invalidOperand (kind : MatchKind)
  | typeMismatch (expected found : AttributeType)
  | missingAudience (id : String)
  | unknownConditionType (type : String)
  deriving DecidableEq, Repr

def Anomaly.message : Anomaly → String
  | invalidVersion text => s!"invalid semantic version {Text.quoted text}"
  | invalidNumber => "number is not finite or exceeds 2^53 in magnitude"
  | invalidOperand kind => s!"condition value is not valid for match type {Text.quoted kind.name}"
  | typeMismatch expected found => s!"expected a {expected.name} attribute, found {found.name}"
  | missingAudience id => s!"audience {Text.quoted id} is not in configuration"
  | unknownConditionType type => s!"unsupported condition type {Text.quoted type}"

namespace AttributeValue

def expectString : AttributeValue → Except Anomaly String
  | .string value => .ok value
  | value => .error (.typeMismatch .string value.type)

def expectNumber : AttributeValue → Except Anomaly Float
  | .number x => if isComparable x then .ok x else .error .invalidNumber
  | value => .error (.typeMismatch .number value.type)

def expectBoolean : AttributeValue → Except Anomaly Bool
  | .boolean value => .ok value
  | value => .error (.typeMismatch .boolean value.type)

end AttributeValue

namespace MatchKind

/-- The order of two doubles, unless one of them is undefined. -/
def compareNumbers? (x y : Float) : Option Ordering :=
  if x < y then some .lt
  else if x == y then some .eq
  else if y < x then some .gt
  else none

/-- Whether the first list occurs in the second as a contiguous piece. -/
def occursIn (piece : List Char) : List Char → Bool
  | [] => piece.isEmpty
  | c :: text => piece.isPrefixOf (c :: text) || occursIn piece text

def parseVersion (text : String) : Except Anomaly Version :=
  match Version.parse text with
  | some parsed => .ok parsed
  | none => .error (.invalidVersion text)

def stringOperand (kind : MatchKind) : AttributeValue → Except Anomaly String
  | .string value => .ok value
  | _ => .error (.invalidOperand kind)

def numberOperand (kind : MatchKind) : AttributeValue → Except Anomaly Float
  | .number x => if AttributeValue.isComparable x then .ok x else .error .invalidNumber
  | _ => .error (.invalidOperand kind)

/-- The order of the version in an attribute and the target in an operand. The target is looked at
first. -/
def compareVersions (kind : MatchKind) (operand actual : AttributeValue) :
    Except Anomaly Ordering := do
  let target ← parseVersion (← kind.stringOperand operand)
  let parsed ← parseVersion (← actual.expectString)
  return parsed.compareToTarget target

def compareNumbers (kind : MatchKind) (operand actual : AttributeValue) :
    Except Anomaly Ordering := do
  let expected ← kind.numberOperand operand
  match compareNumbers? (← actual.expectNumber) expected with
  | some order => return order
  | none => .error .invalidNumber

def equals (operand actual : AttributeValue) : Except Anomaly Bool :=
  match operand with
  | .string expected => return (← actual.expectString) = expected
  | .number _ => do
    let expected ← numberOperand .exact operand
    return (← actual.expectNumber) == expected
  | .boolean expected => return (← actual.expectBoolean) = expected
  | .null => .error (.invalidOperand .exact)

def evaluatePresent (kind : MatchKind) (operand actual : AttributeValue) :
    Except Anomaly Bool :=
  match kind with
  | .present => return true
  | .exact => equals operand actual
  | .number relation => return relation.holds (← kind.compareNumbers operand actual)
  | .substring => do
    let expected ← kind.stringOperand operand
    return occursIn expected.toList (← actual.expectString).toList
  | .versionEq => return (← kind.compareVersions operand actual) = .eq
  | .version relation => return relation.holds (← kind.compareVersions operand actual)
  | .legacy => do
    let expected ← kind.stringOperand operand
    return (← actual.expectString) = expected

def evaluate (kind : MatchKind) (operand : AttributeValue) (actual : Option AttributeValue) :
    Except Anomaly Truth :=
  match actual with
  | none | some .null => .ok (if kind = .present then .no else .unknown)
  | some value => (kind.evaluatePresent operand value).map Truth.ofBool

end MatchKind
end FeatureFlags
