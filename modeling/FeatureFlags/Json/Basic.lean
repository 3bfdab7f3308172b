/-!
JSON values. An object lists its members by increasing key, each key once; `Json.ofMembers` builds
that list from members in any order, a later member replacing an earlier one with the same key.
-/

namespace FeatureFlags

namespace Json

/-- A JSON number. Whole numbers within 64 bits stay whole; all others are doubles. -/
inductive Number where
  | integer (n : Int)
  | real (x : Float)
  deriving DecidableEq

def Number.toFloat : Number → Float
  | .integer n => if n < 0 then -(Float.ofNat n.natAbs) else Float.ofNat n.natAbs
  | .real x => x

end Json

inductive Json where
  | null
  | bool (value : Bool)
  | number (value : Json.Number)
  | string (value : String)
  | array (items : List Json)
  | object (members : List (String × Json))

namespace Json

/-- Put a member at its place by key, replacing one with the same key. -/
def insertMember (key : String) (value : Json) :
    List (String × Json) → List (String × Json)
  | [] => [(key, value)]
  | (k, v) :: rest =>
    if key < k then (key, value) :: (k, v) :: rest
    else if key = k then (key, value) :: rest
    else (k, v) :: insertMember key value rest

def ofMembers (members : List (String × Json)) : Json :=
  .object (members.foldl (fun sorted member => insertMember member.1 member.2 sorted) [])

def member? (key : String) : Json → Option Json
  | .object members => members.lookup key
  | _ => none

def string? : Json → Option String
  | .string value => some value
  | _ => none

def members? : Json → Option (List (String × Json))
  | .object members => some members
  | _ => none

def ofStrings (texts : List String) : Json := .array (texts.map .string)

def ofString? : Option String → Json
  | some text => .string text
  | none => .null

def ofNat (n : Nat) : Json := .number (.integer n)

/-- A double. One that is not finite is written as null. -/
def ofFloat (x : Float) : Json := if x.isFinite then .number (.real x) else .null

end Json
end FeatureFlags
