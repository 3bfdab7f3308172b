import FeatureFlags.Proofs.Json.Proper
import FeatureFlags.Proofs.Profile.Codec
import Mathlib.Data.List.Forall2

/-!
The shape of stored profiles. A profile is read exactly if it has the user id and names a variation
in every single entry; what is read is what is stored, and written again it is the stored profile
without the fields that are not read.
-/

namespace FeatureFlags

namespace Json

/-- Of an object just the member with this key. -/
def only (key : String) : Json → Json
  | .object members => .object (members.filter (·.1 = key))
  | other => other

/-- Change the value of each member of an object. -/
def mapMembers (f : Json → Json) : Json → Json
  | .object members => .object (members.map fun member => (member.1, f member.2))
  | other => other

theorem string?_eq_some_iff {json : Json} {text : String} :
    json.string? = some text ↔ json = .string text := by
  cases json <;> simp [string?]

theorem members?_eq_some_iff {json : Json} {members : List (String × Json)} :
    json.members? = some members ↔ json = .object members := by
  cases json <;> simp [members?]

theorem member?_eq_some_iff {json value : Json} {key : String} :
    json.member? key = some value ↔
      ∃ members, json = .object members ∧ members.lookup key = some value := by
  cases json <;> simp [member?]

/-- In an ordered object no second member has the key. -/
theorem Ordered.filter_of_lookup {members : List (String × Json)} (ordered : Ordered members)
    {key : String} {value : Json} (found : members.lookup key = some value) :
    members.filter (·.1 = key) = [(key, value)] := by
  induction members with
  | nil => cases found
  | cons first rest ih =>
      obtain ⟨least, later⟩ := List.pairwise_cons.mp ordered
      rw [List.lookup_cons] at found
      by_cases same : first.1 = key
      · have others : rest.filter (·.1 = key) = [] :=
          List.filter_eq_nil_iff.mpr fun other member equal =>
            (least other member).ne (same.trans (of_decide_eq_true equal).symm)
        rw [same, beq_self_eq_true] at found
        cases found
        rw [List.filter_cons_of_pos (by simpa using same), others, ← same]
      · rw [beq_false_of_ne (Ne.symm same)] at found
        rw [List.filter_cons_of_neg (by simpa using same), ih later found]

end Json

/-- The stored entry is an object that names the variation. -/
def Json.NamesVariation (entry : Json) (variationId : String) : Prop :=
  ∃ members, entry = .object members ∧ members.lookup "variation_id" = some (.string variationId)

namespace StoredProfile

/-- There is a user id, and every entry names a variation. -/
structure WellShaped (stored : StoredProfile) : Prop where
  user : ∃ userId, stored["user_id"]? = some (.string userId)
  entries : ∃ entries, stored["experiment_bucket_map"]? = some (.object entries) ∧
    ∀ entry ∈ entries, ∃ variationId, entry.2.NamesVariation variationId

/-- The profile has the user id that is stored, and for the experiments of the entries, and for no
others, the variations that they name. -/
structure Tells (stored : StoredProfile) (profile : UserProfile) : Prop where
  user : stored["user_id"]? = some (.string profile.userId)
  entries : ∃ entries, stored["experiment_bucket_map"]? = some (.object entries) ∧
    (∀ experimentId, experimentId ∈ profile.variations ↔ experimentId ∈ entries.map (·.1)) ∧
    ∀ experimentId variationId, profile.variations[experimentId]? = some variationId ↔
      ∃ entry, (experimentId, entry) ∈ entries ∧ entry.NamesVariation variationId

/-- The stored profile without the fields that are not read: beside the user id and the entries, and
in each entry beside the variation id. -/
def trimmed (stored : StoredProfile) : StoredProfile :=
  (stored.filter fun field _ => field = "user_id" || field = "experiment_bucket_map").map
    fun field value =>
      if field = "experiment_bucket_map" then value.mapMembers (·.only "variation_id") else value

end StoredProfile

namespace UserProfile

theorem storedVariation?_eq_some_iff {entry : Json} {variationId : String} :
    storedVariation? entry = some variationId ↔ entry.NamesVariation variationId := by
  simp only [storedVariation?, Option.bind_eq_bind, Option.bind_eq_some_iff,
    Json.member?_eq_some_iff, Json.string?_eq_some_iff, Json.NamesVariation]
  constructor
  · rintro ⟨_, ⟨members, rfl, found⟩, rfl⟩
    exact ⟨members, rfl, found⟩
  · rintro ⟨members, rfl, found⟩
    exact ⟨_, ⟨members, rfl, found⟩, rfl⟩

/-- What is read of an entry: the id of the experiment, and that of the variation it names. -/
def Reads (entry : String × Json) (pair : String × String) : Prop :=
  entry.1 = pair.1 ∧ entry.2.NamesVariation pair.2

theorem readEntries_iff {entries : List (String × Json)} {pairs : List (String × String)} :
    entries.mapM (fun entry => (storedVariation? entry.2).bind fun id => pure (entry.1, id)) =
      some pairs ↔ List.Forall₂ Reads entries pairs := by
  have readEntry (entry : String × Json) (pair : String × String) :
      ((storedVariation? entry.2).bind fun id => pure (entry.1, id)) = some pair ↔
        Reads entry pair := by
    simp [Option.bind_eq_some_iff, storedVariation?_eq_some_iff, Reads, Prod.ext_iff, and_comm]
  induction entries generalizing pairs with
  | nil => cases pairs <;> simp
  | cons first rest ih =>
      simp only [List.mapM_cons, Option.bind_eq_bind, Option.bind_eq_some_iff, readEntry, ih,
        List.forall₂_cons_left_iff]
      constructor
      · rintro ⟨pair, here, others, later, same⟩
        exact ⟨pair, others, here, later, (Option.some.inj same).symm⟩
      · rintro ⟨pair, others, here, later, rfl⟩
        exact ⟨pair, here, others, later, rfl⟩

/-- A profile is read of the user id and of all the entries. -/
theorem ofStored?_eq_some_iff {stored : StoredProfile} {profile : UserProfile} :
    ofStored? stored = some profile ↔
      stored["user_id"]? = some (.string profile.userId) ∧
      ∃ entries pairs, stored["experiment_bucket_map"]? = some (.object entries) ∧
        List.Forall₂ Reads entries pairs ∧ profile.variations = Dict.ofPairs pairs := by
  simp only [ofStored?, Option.bind_eq_bind, Option.bind_eq_some_iff, Json.string?_eq_some_iff,
    Json.members?_eq_some_iff]
  constructor
  · rintro ⟨_, user, userId, rfl, _, listed, entries, rfl, pairs, read, same⟩
    cases same
    exact ⟨user, entries, pairs, listed, readEntries_iff.mp read, rfl⟩
  · obtain ⟨userId, variations⟩ := profile
    rintro ⟨user, entries, pairs, listed, read, rfl⟩
    exact ⟨_, user, userId, rfl, _, listed, entries, rfl, pairs, readEntries_iff.mpr read, rfl⟩

theorem exists_reads_iff {entries : List (String × Json)} :
    (∃ pairs, List.Forall₂ Reads entries pairs) ↔
      ∀ entry ∈ entries, ∃ variationId, entry.2.NamesVariation variationId := by
  induction entries with
  | nil => simp
  | cons first rest ih =>
      rw [List.forall_mem_cons, ← ih]
      constructor
      · rintro ⟨_, _ | ⟨⟨_, here⟩, later⟩⟩
        exact ⟨⟨_, here⟩, _, later⟩
      · rintro ⟨⟨variationId, here⟩, pairs, later⟩
        exact ⟨(first.1, variationId) :: pairs, .cons ⟨rfl, here⟩ later⟩

section Read
variable {entries : List (String × Json)} {pairs : List (String × String)}
  (read : List.Forall₂ Reads entries pairs)
include read

theorem map_fst_of_reads : entries.map (·.1) = pairs.map (·.1) := by
  induction read with
  | nil => rfl
  | cons here _ ih => rw [List.map_cons, List.map_cons, here.1, ih]

theorem mem_iff_of_reads (experimentId variationId : String) :
    (experimentId, variationId) ∈ pairs ↔
      ∃ entry, (experimentId, entry) ∈ entries ∧ entry.NamesVariation variationId := by
  induction read with
  | nil => simp
  | @cons first pair rest others here _ ih =>
      rw [List.mem_cons, ih]
      constructor
      · rintro (rfl | ⟨entry, member, names⟩)
        · exact ⟨first.2, List.mem_cons.mpr (.inl (Prod.ext here.1.symm rfl)), here.2⟩
        · exact ⟨entry, List.mem_cons_of_mem _ member, names⟩
      · rintro ⟨entry, member, names⟩
        rcases List.mem_cons.mp member with rfl | later
        · have same : some variationId = some pair.2 :=
            (storedVariation?_eq_some_iff.mpr names).symm.trans
              (storedVariation?_eq_some_iff.mpr here.2)
          exact .inl (Prod.ext here.1 (Option.some.inj same))
        · exact .inr ⟨entry, later, names⟩

/-- The entries of an ordered object give the pairs in order. -/
theorem toList_ofPairs_of_reads (ordered : Json.Ordered entries) :
    (Dict.ofPairs pairs).toList = pairs := by
  have keys : (entries.map (·.1)).Pairwise (· < ·) := List.pairwise_map.mpr ordered
  rw [map_fst_of_reads read] at keys
  exact Dict.toList_ofPairs ((List.pairwise_map.mp keys).imp compare_lt_iff_lt.mpr)

/-- Of a proper entry the variation is kept. -/
theorem map_only_of_reads (proper : ∀ entry ∈ entries, entry.2.Proper) :
    entries.map (fun entry => (entry.1, entry.2.only "variation_id")) =
      pairs.map fun pair => (pair.1, storeVariation pair.2) := by
  induction read with
  | nil => rfl
  | @cons first pair _ _ here _ ih =>
      obtain ⟨own, others⟩ := List.forall_mem_cons.mp proper
      obtain ⟨same, members, object, found⟩ := here
      have only : first.2.only "variation_id" = storeVariation pair.2 := by
        rw [object] at own ⊢
        exact congrArg Json.object (own.ordered.filter_of_lookup found)
      rw [List.map_cons, List.map_cons, only, same, ih others]

end Read

theorem isSome_ofStored? (stored : StoredProfile) :
    (ofStored? stored).isSome = true ↔ stored.WellShaped := by
  rw [Option.isSome_iff_exists]
  constructor
  · rintro ⟨profile, reads⟩
    obtain ⟨user, entries, pairs, listed, read, _⟩ := ofStored?_eq_some_iff.mp reads
    exact ⟨⟨_, user⟩, entries, listed, exists_reads_iff.mp ⟨pairs, read⟩⟩
  · rintro ⟨⟨userId, user⟩, entries, listed, each⟩
    obtain ⟨pairs, read⟩ := exists_reads_iff.mpr each
    exact ⟨{ userId, variations := Dict.ofPairs pairs },
      ofStored?_eq_some_iff.mpr ⟨user, entries, pairs, listed, read, rfl⟩⟩

theorem toStored_of_ne (profile : UserProfile) {field : String} (notUser : field ≠ "user_id")
    (notEntries : field ≠ "experiment_bucket_map") : profile.toStored[field]? = none := by
  simp [toStored, Dict.ofPairs, Ne.symm notUser, Ne.symm notEntries]

end UserProfile

namespace StoredProfile
open UserProfile

theorem getElem?_trimmed (stored : StoredProfile) (field : String) :
    stored.trimmed[field]? =
      if field = "experiment_bucket_map" then
        stored[field]?.map (·.mapMembers (·.only "variation_id"))
      else if field = "user_id" then stored[field]?
      else none := by
  rw [trimmed, Std.ExtTreeMap.getElem?_map, Std.ExtTreeMap.getElem?_filter']
  by_cases entries : field = "experiment_bucket_map"
  · cases stored[field]? <;> simp [entries]
  · by_cases user : field = "user_id" <;> cases stored[field]? <;> simp [entries, user]

variable {stored : StoredProfile} {profile : UserProfile}

/-- The fields themselves stand in order. -/
theorem proper_toJson (each : ∀ field ∈ stored.toList, field.2.Proper) : stored.toJson.Proper :=
  .object (Std.ExtTreeMap.ordered_keys_toList.imp compare_lt_iff_lt.mp) each

theorem tells_of_ofStored? (reads : ofStored? stored = some profile)
    (proper : stored.toJson.Proper) : stored.Tells profile := by
  obtain ⟨user, entries, pairs, listed, read, variations⟩ := ofStored?_eq_some_iff.mp reads
  have object : (Json.object entries).Proper :=
    proper.of_mem (Std.ExtTreeMap.mem_toList_iff_getElem?_eq_some.mpr listed)
  have found (experimentId variationId : String) :
      profile.variations[experimentId]? = some variationId ↔
        (experimentId, variationId) ∈ pairs := by
    rw [variations, ← Std.ExtTreeMap.mem_toList_iff_getElem?_eq_some,
      toList_ofPairs_of_reads read object.ordered]
  refine ⟨user, entries, listed, fun experimentId => ?_, fun experimentId variationId => ?_⟩
  · rw [← Std.ExtTreeMap.isSome_getElem?_iff_mem, Option.isSome_iff_exists, map_fst_of_reads read]
    simp only [found, List.mem_map, Prod.exists, exists_and_right, exists_eq_right]
  · rw [found, mem_iff_of_reads read]

theorem toStored_eq_trimmed (reads : ofStored? stored = some profile)
    (proper : stored.toJson.Proper) : profile.toStored = stored.trimmed := by
  obtain ⟨user, entries, pairs, listed, read, variations⟩ := ofStored?_eq_some_iff.mp reads
  have object : (Json.object entries).Proper :=
    proper.of_mem (Std.ExtTreeMap.mem_toList_iff_getElem?_eq_some.mpr listed)
  apply Std.ExtTreeMap.ext_getElem?
  intro field
  rw [getElem?_trimmed]
  by_cases isEntries : field = "experiment_bucket_map"
  · subst isEntries
    rw [if_pos rfl, toStored_variations, listed, variations,
      toList_ofPairs_of_reads read object.ordered,
      ← map_only_of_reads read fun _ member => object.of_mem member]
    rfl
  · by_cases isUser : field = "user_id"
    · subst isUser
      rw [if_neg isEntries, if_pos rfl, toStored_userId, user]
    · rw [if_neg isEntries, if_neg isUser, toStored_of_ne profile isUser isEntries]

end StoredProfile

namespace UserProfile

/-- Every profile is read back as it was written. A stored profile is read just if it is well
shaped, so that a single entry that names no variation spoils it; what is read of a proper object,
as any text gives, is what the object tells, and it is written as the same object without the fields
that are not read. -/
theorem profiles_read_as_stored :
    (∀ profile : UserProfile, ofStored? profile.toStored = some profile) ∧
    ∀ stored : StoredProfile,
      ((ofStored? stored).isSome = true ↔ stored.WellShaped) ∧
      (∀ entries, stored["experiment_bucket_map"]? = some (.object entries) →
        ∀ entry ∈ entries, (∀ variationId, ¬ entry.2.NamesVariation variationId) →
          ofStored? stored = none) ∧
      ∀ profile, ofStored? stored = some profile → stored.toJson.Proper →
        stored.Tells profile ∧ profile.toStored = stored.trimmed := by
  refine ⟨ofStored?_toStored, fun stored => ⟨isSome_ofStored? stored, ?_, ?_⟩⟩
  · intro entries listed entry member malformed
    rw [← Option.not_isSome_iff_eq_none, isSome_ofStored?]
    rintro ⟨-, entries', listed', each⟩
    cases listed.symm.trans listed'
    obtain ⟨variationId, names⟩ := each entry member
    exact malformed variationId names
  · intro profile reads proper
    exact ⟨StoredProfile.tells_of_ofStored? reads proper,
      StoredProfile.toStored_eq_trimmed reads proper⟩

namespace Sample

/-- An entry with more in it than is read. -/
def entry : Json := .object [("at", .null), ("variation_id", .string "1")]

def stored (entries : List (String × Json)) : StoredProfile :=
  Dict.ofPairs [("experiment_bucket_map", .object entries), ("plan", .string "free"),
    ("user_id", .string "user")]

def profile : UserProfile := { userId := "user", variations := Dict.ofPairs [("10", "1")] }

theorem proper_stored : (stored [("10", entry)]).toJson.Proper := by
  have own : entry.Proper := by
    refine .object (List.pairwise_pair.mpr (by decide)) ?_
    exact List.forall_mem_cons.mpr ⟨.null, List.forall_mem_singleton.mpr (.string "1")⟩
  have entries : (Json.object [("10", entry)]).Proper :=
    .object (List.pairwise_singleton _ _) (List.forall_mem_singleton.mpr own)
  have fields : (stored [("10", entry)]).toList =
      [("experiment_bucket_map", .object [("10", entry)]), ("plan", .string "free"),
        ("user_id", .string "user")] := rfl
  apply StoredProfile.proper_toJson
  rw [fields]
  exact List.forall_mem_cons.mpr ⟨entries, List.forall_mem_cons.mpr
    ⟨.string "free", List.forall_mem_singleton.mpr (.string "user")⟩⟩

end Sample

/-- A visitor with one entry, read and written again; and one with a further entry that is none. -/
theorem profiles_read_as_stored_of_visitor :
    Sample.profile.toStored = (Sample.stored [("10", Sample.entry)]).trimmed ∧
      (Sample.stored [("10", Sample.entry)]).Tells Sample.profile ∧
      ofStored? (Sample.stored [("10", Sample.entry), ("20", .null)]) = none := by
  obtain ⟨told, written⟩ := (profiles_read_as_stored.2 (Sample.stored [("10", Sample.entry)])).2.2
    Sample.profile rfl Sample.proper_stored
  have spoiled := (profiles_read_as_stored.2
    (Sample.stored [("10", Sample.entry), ("20", .null)])).2.1 _ rfl ("20", .null)
    (List.mem_cons_of_mem _ List.mem_cons_self) (by rintro _ ⟨_, object, _⟩; cases object)
  exact ⟨written, told, spoiled⟩

end UserProfile
end FeatureFlags
