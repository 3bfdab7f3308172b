import FeatureFlags.Decimal.Reading
import FeatureFlags.Json.Document
import FeatureFlags.Project.Model
import FeatureFlags.Traced

/-!
The values of flag variables. A variation that enables the flag may replace defaults; the raw text
of a value has to fit the declared type.
-/

namespace FeatureFlags

namespace FlagVariable

def typedValue? (declared : FlagVariable) (raw : String) : Option Json :=
  match declared.type, declared.subType with
  | "json", _ | "string", some "json" => Json.read raw
  | "string", _ => some (.string raw)
  | "boolean", _ =>
    match raw with
    | "true" => some (.bool true)
    | "false" => some (.bool false)
    | _ => none
  | "integer", _ => (readInteger raw).map fun n => .number (.integer n)
  | "double", _ =>
    match readFloat raw with
    | some x => if x.isFinite then some (.number (.real x)) else none
    | none => none
  | _, _ => none

/-- The raw text of a variable: that of the variation if it enables the flag and has one, else the
default. -/
def rawValue (declared : FlagVariable) (variation : Option Variation) : String :=
  let enabling := variation.filter (·.featureEnabled)
  (enabling.bind (·.variableValue? declared.id)).getD declared.defaultValue

/-- The value of a variable, null if its text does not fit the type. -/
def value (declared : FlagVariable) (variation : Option Variation) : Traced Json :=
  match declared.typedValue? (declared.rawValue variation) with
  | some value => return value
  | none => do
    Traced.warn s!"Variable value for key \"{declared.key}\" is invalid or wrong type."
    return .null

end FlagVariable

namespace Flag

def keyedValues (variation : Option Variation) :
    List FlagVariable → Traced (List (String × Json))
  | [] => return []
  | declared :: rest => do
    let value ← declared.value variation
    return (declared.key, value) :: (← keyedValues variation rest)

/-- The variables of a flag by their keys. Of variables with the same key the last one counts. -/
def variableValues (flag : Flag) (variation : Option Variation) : Traced (Dict Json) := do
  if !variation.any (·.featureEnabled) && !flag.declaredVariables.isEmpty then
    let consequence := "Returning the default variable values."
    Traced.info s!"Flag \"{flag.key}\" is not enabled for this user. {consequence}"
  return Dict.ofPairs (← keyedValues variation flag.declaredVariables)

end Flag
end FeatureFlags
