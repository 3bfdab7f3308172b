import FeatureFlags.Dict

/-!
Lookups in maps that are built from lists. An entity of an index stands under its own key, and the
entries of a map, written out as pairs, give the map back.
-/

namespace FeatureFlags
namespace Dict
variable {α : Type}

theorem ofPairs_eq_insertMany (pairs : List (String × α)) :
    ofPairs pairs = (∅ : Dict α).insertMany pairs :=
  Std.ExtTreeMap.insertMany_list_eq_foldl.symm

theorem ofPairs_toList (entries : Dict α) : ofPairs entries.toList = entries := by
  rw [ofPairs_eq_insertMany]
  apply Std.ExtTreeMap.ext_getElem?
  intro key
  cases found : entries[key]? with
  | some value =>
      exact Std.ExtTreeMap.getElem?_insertMany_list_of_mem Std.ReflOrd.compare_self
        Std.ExtTreeMap.distinct_keys_toList
        (Std.ExtTreeMap.mem_toList_iff_getElem?_eq_some.mpr found)
  | none =>
      have absent : (entries.toList.map Prod.fst).contains key = false := by
        rw [Std.ExtTreeMap.map_fst_toList_eq_keys]
        simpa using found
      rw [Std.ExtTreeMap.getElem?_insertMany_list_of_contains_eq_false absent]
      exact Std.ExtTreeMap.getElem?_empty

/-- An entry is kept unless another value is put in its place. -/
theorem getElem?_insert_of_found {entries : Dict α} {key other : String} {value : α}
    (found : entries[other]? = some value) (elsewhere : entries[key]? ≠ some value) (added : α) :
    (entries.insert key added)[other]? = some value := by
  have different : key ≠ other := by
    rintro rfl
    exact elsewhere found
  rw [Std.ExtTreeMap.getElem?_insert, if_neg (by simpa using different), found]

/-- Reading the values of pairs before they are put into a map is reading them afterwards, one by
one. -/
theorem getElem?_ofPairs_of_mapM {β : Type} {read : α → Option β} {pairs : List (String × α)}
    {values : List (String × β)}
    (reads : pairs.mapM (fun pair => (read pair.2).bind fun b => pure (pair.1, b)) = some values)
    (key : String) : (ofPairs values)[key]? = (ofPairs pairs)[key]?.bind read := by
  suffices kept : ∀ (entries : Dict α) (entries' : Dict β),
      entries'[key]? = entries[key]?.bind read →
        (values.foldl (fun entries pair => entries.insert pair.1 pair.2) entries')[key]? =
          (pairs.foldl (fun entries pair => entries.insert pair.1 pair.2)
            entries)[key]?.bind read by
    exact kept ∅ ∅ (by simp)
  induction pairs generalizing values with
  | nil =>
      cases reads
      exact fun _ _ same => same
  | cons first rest ih =>
      intro entries entries' same
      rw [List.mapM_cons] at reads
      obtain ⟨pair, here, reads⟩ := Option.bind_eq_some_iff.mp reads
      obtain ⟨values, later, reads⟩ := Option.bind_eq_some_iff.mp reads
      obtain ⟨b, found, here⟩ := Option.bind_eq_some_iff.mp here
      cases reads
      cases here
      refine ih later _ _ ?_
      simp only [Std.ExtTreeMap.getElem?_insert]
      split
      · exact found.symm
      · exact same

/-- What is found under the keys of some entities is made of the entity that an index finds. -/
theorem getElem?_ofPairs_map {β : Type} (key : α → String) (made : α → β) (entities : List α)
    (k : String) :
    (ofPairs (entities.map fun a => (key a, made a)))[k]? = (index key entities)[k]?.map made := by
  suffices kept : ∀ (entries : Dict α) (entries' : Dict β),
      entries'[k]? = entries[k]?.map made →
        ((entities.map fun a => (key a, made a)).foldl
          (fun entries pair => entries.insert pair.1 pair.2) entries')[k]? =
            (indexInto key entries entities)[k]?.map made by
    exact kept ∅ ∅ (by simp)
  induction entities with
  | nil => exact fun _ _ same => same
  | cons first rest ih =>
      intro entries entries' same
      refine ih _ _ ?_
      simp only [Std.ExtTreeMap.getElem?_insert]
      split
      · rfl
      · exact same

theorem getD_push (entries : Dict (List α)) (key k : String) (value : α) :
    (entries.push key value).getD k [] =
      entries.getD k [] ++ if key = k then [value] else [] := by
  rw [push, Std.ExtTreeMap.getD_insert]
  by_cases same : key = k <;> simp [same]

theorem findRev?_some {key : α → String} {entities : List α} {k : String} {a : α}
    (found : entities.findRev? (key · = k) = some a) : a ∈ entities ∧ key a = k := by
  rw [List.findRev?_eq_find?_reverse] at found
  exact ⟨List.mem_reverse.mp (List.mem_of_find?_eq_some found),
    by simpa using List.find?_some found⟩

/-- An entity is the last one with its key if no later one has the key. -/
theorem findRev?_of_last {key : α → String} {entities before after : List α} {a : α}
    (split : entities = before ++ a :: after) (last : ∀ b ∈ after, key b ≠ key a) :
    entities.findRev? (key · = key a) = some a := by
  rw [List.findRev?_eq_find?_reverse, split, List.reverse_append, List.reverse_cons,
    List.append_assoc, List.find?_append, List.find?_eq_none.mpr (by simpa using last)]
  simp

theorem findRev?_append {p : α → Bool} (first second : List α) :
    (first ++ second).findRev? p = (second.findRev? p).or (first.findRev? p) := by
  simp only [List.findRev?_eq_find?_reverse, List.reverse_append, List.find?_append]

/-- The last entity with a key is found, or else what was there before. -/
theorem getElem?_indexInto_eq (key : α → String) (entries : Dict α) (entities : List α)
    (k : String) :
    (indexInto key entries entities)[k]? = (entities.findRev? (key · = k)).or entries[k]? := by
  induction entities generalizing entries with
  | nil => rfl
  | cons first rest ih =>
      refine (ih (entries.insert (key first) first)).trans ?_
      rw [Std.ExtTreeMap.getElem?_insert, List.findRev?]
      cases rest.findRev? (key · = k) with
      | some later => rfl
      | none => by_cases same : key first = k <;> simp [same]

/-- What was there before is found, or else the first entity with a key. -/
theorem getElem?_indexFirstInto_eq (key : α → String) (entries : Dict α) (entities : List α)
    (k : String) :
    (indexFirstInto key entries entities)[k]? = entries[k]?.or (entities.find? (key · = k)) := by
  induction entities generalizing entries with
  | nil => simp [indexFirstInto]
  | cons first rest ih =>
      refine (ih (entries.insertIfNew (key first) first)).trans ?_
      rw [Std.ExtTreeMap.getElem?_insertIfNew, List.find?_cons]
      by_cases same : key first = k
      · cases found : entries[k]? <;> simp [same, found, ← Std.ExtTreeMap.isSome_getElem?_iff_mem]
      · simp [same]

theorem getElem?_index_eq (key : α → String) (entities : List α) (k : String) :
    (index key entities)[k]? = entities.findRev? (key · = k) := by
  rw [index, getElem?_indexInto_eq, Std.ExtTreeMap.getElem?_empty, Option.or_none]

/-- What is found in an index was there before or is an entity with that key. -/
theorem getElem?_indexFirstInto {key : α → String} {entries : Dict α} {entities : List α}
    {k : String} {a : α} (found : (indexFirstInto key entries entities)[k]? = some a) :
    (a ∈ entities ∧ key a = k) ∨ entries[k]? = some a := by
  rw [getElem?_indexFirstInto_eq, Option.or_eq_some_iff] at found
  rcases found with earlier | ⟨-, added⟩
  · exact .inr earlier
  · exact .inl ⟨List.mem_of_find?_eq_some added, by simpa using List.find?_some added⟩

theorem getElem?_index {key : α → String} {entities : List α} {k : String} {a : α}
    (found : (index key entities)[k]? = some a) : a ∈ entities ∧ key a = k := by
  rw [getElem?_index_eq] at found
  exact findRev?_some found

/-- An index has no entry exactly for the keys that no entity has. -/
theorem getElem?_index_eq_none {key : α → String} {entities : List α} {k : String} :
    (index key entities)[k]? = none ↔ ∀ a ∈ entities, key a ≠ k := by
  rw [getElem?_index_eq, List.findRev?_eq_find?_reverse]
  simp

/-- Each entity stands under its own key. -/
def Carries (entries : Dict α) (key : α → String) : Prop :=
  ∀ {k : String} {a : α}, entries[k]? = some a → key a = k

/-- Under every key the map has the last entity with that key. -/
def HoldsLast (entries : Dict α) (key : α → String) (entities : List α) : Prop :=
  ∀ k : String, entries[k]? = entities.findRev? (key · = k)

theorem holdsLast_index (key : α → String) (entities : List α) :
    (index key entities).HoldsLast key entities :=
  getElem?_index_eq key entities

theorem HoldsLast.carries {key : α → String} {entries : Dict α} {entities : List α}
    (holds : entries.HoldsLast key entities) : entries.Carries key :=
  fun found => (findRev?_some ((holds _).symm.trans found)).2

/-- If what is seen of an entity depends on its key alone, an index shows it under every key that
some entity has. -/
theorem map_getElem?_index {β : Type} {key : α → String} {entities : List α} {seen : α → β}
    {shown : String → β} (uniform : ∀ a ∈ entities, seen a = shown (key a)) (k : String) :
    (index key entities)[k]?.map seen = if k ∈ entities.map key then some (shown k) else none := by
  cases found : (index key entities)[k]? with
  | some a =>
      obtain ⟨member, rfl⟩ := getElem?_index found
      rw [if_pos (List.mem_map_of_mem member), Option.map_some, uniform a member]
  | none =>
      have absent : k ∉ entities.map key := by
        intro member
        obtain ⟨a, listed, own⟩ := List.mem_map.mp member
        exact getElem?_index_eq_none.mp found a listed own
      rw [if_neg absent, Option.map_none]

theorem getElem?_ofPairs (pairs : List (String × α)) (key : String) :
    (ofPairs pairs)[key]? = (index Prod.fst pairs)[key]?.map Prod.snd := by
  have listed := getElem?_ofPairs_map Prod.fst Prod.snd pairs key
  rwa [List.map_id'] at listed

theorem mem_of_getElem?_ofPairs {pairs : List (String × α)} {key : String} {a : α}
    (found : (ofPairs pairs)[key]? = some a) : (key, a) ∈ pairs := by
  rw [getElem?_ofPairs] at found
  obtain ⟨pair, indexed, rfl⟩ := Option.map_eq_some_iff.mp found
  obtain ⟨member, rfl⟩ := getElem?_index indexed
  exact member

/-- In a map of pairs whose values depend on their keys alone, each pair is found. -/
theorem getElem?_ofPairs_of_uniform {pairs : List (String × α)} (value : String → Option α)
    (uniform : ∀ pair ∈ pairs, value pair.1 = some pair.2) (key : String) (a : α) :
    (ofPairs pairs)[key]? = some a ↔ (key, a) ∈ pairs := by
  refine ⟨mem_of_getElem?_ofPairs, fun member => ?_⟩
  rw [getElem?_ofPairs]
  cases found : (index Prod.fst pairs)[key]? with
  | some pair =>
      obtain ⟨member', rfl⟩ := getElem?_index found
      exact (uniform pair member').symm.trans (uniform _ member)
  | none => exact absurd rfl (getElem?_index_eq_none.mp found _ member)

/-- Pairs that stand by increasing key are the entries of the map that is made of them. -/
theorem toList_ofPairs {pairs : List (String × α)}
    (ordered : pairs.Pairwise fun first second => compare first.1 second.1 = .lt) :
    (ofPairs pairs).toList = pairs := by
  have asymmetric (first second : String × α) (before : compare first.1 second.1 = .lt)
      (behind : compare second.1 first.1 = .lt) : first = second := by
    rw [Std.OrientedCmp.gt_of_lt before] at behind
    cases behind
  have nodup {pairs : List (String × α)}
      (ordered : pairs.Pairwise fun first second => compare first.1 second.1 = .lt) :
      pairs.Nodup := ordered.imp fun before same => by simp [same] at before
  have distinct : pairs.Pairwise fun first second => ¬ compare first.1 second.1 = .eq :=
    ordered.imp fun before same => by simp [same] at before
  refine List.Perm.eq_of_pairwise (fun first second _ _ => asymmetric first second)
    Std.ExtTreeMap.ordered_keys_toList ordered ?_
  rw [List.perm_ext_iff_of_nodup (nodup Std.ExtTreeMap.ordered_keys_toList) (nodup ordered)]
  rintro ⟨key, a⟩
  rw [Std.ExtTreeMap.mem_toList_iff_getElem?_eq_some]
  refine ⟨mem_of_getElem?_ofPairs, fun member => ?_⟩
  rw [ofPairs_eq_insertMany]
  exact Std.ExtTreeMap.getElem?_insertMany_list_of_mem Std.ReflOrd.compare_self distinct member

end Dict
end FeatureFlags
