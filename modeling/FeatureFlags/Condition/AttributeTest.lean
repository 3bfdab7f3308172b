import FeatureFlags.Condition.Encoding
import FeatureFlags.Condition.Match

/-!
Tests of one user attribute, the leaves of audience conditions.
-/

namespace FeatureFlags

/-- The only type of test that has an answer. -/
def AttributeTest.supportedType : String := "custom_attribute"

structure AttributeTest where
  name : String
  type : String := AttributeTest.supportedType
  kind : MatchKind
  operand : AttributeValue
  deriving DecidableEq

namespace AttributeTest

def evaluate (test : AttributeTest) (attributes : Attributes) : Except Anomaly Truth :=
  if test.type ≠ supportedType then .error (.unknownConditionType test.type)
  else test.kind.evaluate test.operand attributes[test.name]?

def text (test : AttributeTest) : String :=
  "\x7b\"name\":" ++ Text.quoted test.name ++ ",\"type\":" ++ Text.quoted test.type ++
    ",\"match\":" ++ Text.quoted test.kind.name ++ ",\"value\":" ++ test.operand.toJson.render ++
    "\x7d"

def stringField (value : Json) : Except ConditionError String :=
  match value with
  | .string text => .ok text
  | other => .error (.notAString other)

/-- The kind that a test names. Without a name, or with null, it is a legacy test. -/
def kindField : Option Json → Except ConditionError MatchKind
  | none | some .null => .ok .legacy
  | some value => do
    let name ← stringField value
    match MatchKind.ofName? name with
    | some kind => .ok kind
    | none => .error (.unknownMatch name)

def operandField : Option Json → Except ConditionError AttributeValue
  | none => .ok .null
  | some value =>
    match AttributeValue.ofJson? value with
    | some operand => .ok operand
    | none => .error .notAnAttributeValue

/-- The test that a JSON object describes. Its fields are checked in the order of their names; a
missing name is only noticed when the others are fine. -/
def ofJson : Json → Except ConditionError AttributeTest
  | .object members => do
    let kind ← kindField (members.lookup "match")
    let name ← (members.lookup "name").mapM stringField
    let type ← (members.lookup "type").mapM stringField
    let operand ← operandField (members.lookup "value")
    match name with
    | some name => .ok { name, type := type.getD supportedType, kind, operand }
    | none => .error .missingName
  | value => .error (.notAnObject value)

def toJson (test : AttributeTest) : Json :=
  .object [("match", test.kind.toJson), ("name", .string test.name), ("type", .string test.type),
    ("value", test.operand.toJson)]

end AttributeTest
end FeatureFlags
