import FeatureFlags.Dict
import FeatureFlags.Json.Document

/-!
Reading records out of JSON text. A record is an object, or an array of its fields in the order of
their declaration. An object may have members that the record does not know; they are skipped and
nothing inside them is looked at. A known member may stand there only once.
-/

namespace FeatureFlags.Json

abbrev Decoder (α : Type) := Nat → Document → Option α

namespace Decoder
variable {α : Type}

def json : Decoder Json := Document.toJson?

def text : Decoder String
  | _, .string value => value
  | _, _ => none

def bool : Decoder Bool
  | _, .bool value => some value
  | _, _ => none

def word : Decoder Nat
  | _, .number literal =>
    match literal.value? with
    | some (.integer n) => if 0 ≤ n ∧ n < UInt32.size then some n.toNat else none
    | _ => none
  | _, _ => none

/-- A value, or null for nothing. -/
def optional (decoder : Decoder α) : Decoder (Option α)
  | _, .null => some none
  | room, document => (decoder room document).map some

def list (decoder : Decoder α) : Decoder (List α)
  | room + 1, .array items => items.mapM (decoder room)
  | _, _ => none

/-- An object as a map. Of members with the same key the last one counts. -/
def dict (decoder : Decoder α) : Decoder (Dict α)
  | room + 1, .object members => do
    let pairs ← members.mapM fun (key, value) => do return (← key, ← decoder room value)
    return Dict.ofPairs pairs
  | _, _ => none

end Decoder

/-- The known fields of a record, and how deep their values may be nested. -/
structure Record where
  room : Nat
  fields : List (String × Document)

namespace Record
variable {α : Type}

/-- The members of an object with one of the names. All keys have to be readable. -/
def ofMembers (names : List String) (room : Nat) (members : List (Option String × Document)) :
    Option Record := do
  let fields ← members.mapM fun (key, value) => key.map (·, value)
  let known := fields.filter fun field => names.contains field.1
  guard (known.map (·.1)).Nodup
  return { room, fields := known }

/-- The record with the given field names, from either of its forms. -/
def ofDocument (names : List String) : Nat → Document → Option Record
  | room + 1, .object members => ofMembers names room members
  | room + 1, .array items =>
    if items.length ≤ names.length then some { room, fields := names.zip items } else none
  | _, _ => none

def field (record : Record) (name : String) (decoder : Decoder α) : Option α :=
  (record.fields.lookup name).bind (decoder record.room)

def fieldOr (record : Record) (name : String) (decoder : Decoder α) (default : α) : Option α :=
  match record.fields.lookup name with
  | some value => decoder record.room value
  | none => some default

end Record

def Decoder.record {α : Type} (names : List String) (build : Record → Option α) : Decoder α :=
  fun room document => (Record.ofDocument names room document).bind build

/-- A name of an enumeration: a string, or an object whose only member has that name and the value
null. -/
def Decoder.name {α : Type} (parse : String → Option α) : Decoder α
  | _, .string (some name) => parse name
  | _ + 1, .object [(some name, .null)] => parse name
  | _, _ => none

end FeatureFlags.Json
