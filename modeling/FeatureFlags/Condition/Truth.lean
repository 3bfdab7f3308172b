import FeatureFlags.Json.Basic

/-!
Three truth values, ordered `no < unknown < yes`. A conjunction is the least of its parts and a
disjunction the greatest.
-/

namespace FeatureFlags

inductive Truth where
  | no
  | unknown
  | yes
  deriving DecidableEq, Repr

namespace Truth

def ofBool (b : Bool) : Truth := if b then yes else no

def not : Truth → Truth
  | no => yes
  | unknown => unknown
  | yes => no

@[simp] theorem not_not (t : Truth) : t.not.not = t := by cases t <;> rfl

/-- The lesser of two truth values. -/
def and : Truth → Truth → Truth
  | no, _ | _, no => no
  | yes, yes => yes
  | _, _ => unknown

/-- The greater of two truth values. -/
def or : Truth → Truth → Truth
  | yes, _ | _, yes => yes
  | no, no => no
  | _, _ => unknown

def name : Truth → String
  | no => "FALSE"
  | unknown => "UNKNOWN"
  | yes => "TRUE"

def toJson : Truth → Json
  | no => .bool false
  | unknown => .null
  | yes => .bool true

def ofJson? : Json → Option Truth
  | .bool b => some (ofBool b)
  | .null => some unknown
  | _ => none

end Truth
end FeatureFlags
