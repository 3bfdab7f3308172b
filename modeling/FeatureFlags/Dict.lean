import Std.Data.ExtTreeMap

/-!
Finite maps with text keys. Two maps are equal as soon as every lookup agrees, and their entries
come out in the order of the keys. Indexes over lists of entities are built here too: `index` lets
the last entity with a key win, `indexFirst` the first.
-/

namespace FeatureFlags

abbrev Dict (α : Type) := Std.ExtTreeMap String α

namespace Dict
variable {α : Type}

/-- Add the entities of a list under their keys. A later entity replaces an earlier one. -/
def indexInto (key : α → String) : Dict α → List α → Dict α :=
  List.foldl fun entries entity => entries.insert (key entity) entity

/-- The last entity of each key. -/
def index (key : α → String) (entities : List α) : Dict α :=
  indexInto key ∅ entities

/-- Add the entities whose key is not there yet. -/
def indexFirstInto (key : α → String) : Dict α → List α → Dict α :=
  List.foldl fun entries entity => entries.insertIfNew (key entity) entity

def push (entries : Dict (List α)) (key : String) (value : α) : Dict (List α) :=
  entries.insert key (entries.getD key [] ++ [value])

/-- The map of a list of pairs. A later pair replaces an earlier one with the same key. -/
def ofPairs (pairs : List (String × α)) : Dict α :=
  pairs.foldl (fun entries pair => entries.insert pair.1 pair.2) ∅

end Dict
end FeatureFlags
