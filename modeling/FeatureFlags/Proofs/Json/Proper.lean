import FeatureFlags.Json.Document
import Mathlib.Data.String.Basic

/-!
Proper JSON values: in every object the members stand by increasing key, each key once. Whatever is
read from a text is proper.
-/

namespace FeatureFlags.Json

/-- The members stand by increasing key, each key once. -/
def Ordered (members : List (String × Json)) : Prop :=
  members.Pairwise fun first second => first.1 < second.1

/-- All objects in the value are ordered. -/
inductive Proper : Json → Prop
  | null : Proper .null
  | bool (value : Bool) : Proper (.bool value)
  | number (value : Number) : Proper (.number value)
  | string (value : String) : Proper (.string value)
  | array {items : List Json} (each : ∀ item ∈ items, Proper item) : Proper (.array items)
  | object {members : List (String × Json)} (ordered : Ordered members)
      (each : ∀ member ∈ members, Proper member.2) : Proper (.object members)

theorem Proper.ordered {members : List (String × Json)} (proper : Proper (.object members)) :
    Ordered members := by
  cases proper
  assumption

theorem Proper.of_mem {members : List (String × Json)} (proper : Proper (.object members))
    {member : String × Json} (listed : member ∈ members) : Proper member.2 := by
  cases proper with
  | object _ each => exact each member listed

section Members
variable {key : String} {value : Json} {member : String × Json} {members : List (String × Json)}

theorem mem_of_mem_insertMember (inserted : member ∈ insertMember key value members) :
    member = (key, value) ∨ member ∈ members := by
  induction members with
  | nil => exact .inl (List.mem_singleton.mp inserted)
  | cons first rest ih =>
      rw [insertMember] at inserted
      split at inserted
      · exact List.mem_cons.mp inserted
      · split at inserted
        · exact (List.mem_cons.mp inserted).imp_right (List.mem_cons_of_mem _)
        · rcases List.mem_cons.mp inserted with rfl | later
          · exact .inr List.mem_cons_self
          · exact (ih later).imp_right (List.mem_cons_of_mem _)

theorem Ordered.insertMember (ordered : Ordered members) (key : String) (value : Json) :
    Ordered (insertMember key value members) := by
  induction members with
  | nil => exact List.pairwise_singleton _ _
  | cons first rest ih =>
      obtain ⟨least, later⟩ := List.pairwise_cons.mp ordered
      rw [Json.insertMember]
      split
      · rename_i before
        refine List.pairwise_cons.mpr ⟨List.forall_mem_cons.mpr ⟨before, fun other member => ?_⟩,
          ordered⟩
        exact before.trans (least other member)
      · rename_i notBefore
        split
        · rename_i same
          exact List.pairwise_cons.mpr ⟨same ▸ least, later⟩
        · rename_i different
          have behind : first.1 < key := lt_of_le_of_ne (not_lt.mp notBefore) (Ne.symm different)
          refine List.pairwise_cons.mpr ⟨fun other member => ?_, ih later⟩
          rcases mem_of_mem_insertMember member with rfl | old
          · exact behind
          · exact least other old

theorem proper_ofMembers (each : ∀ member ∈ members, member.2.Proper) :
    (ofMembers members).Proper := by
  suffices kept : ∀ sorted : List (String × Json), Proper (.object sorted) →
      Proper (.object (members.foldl
        (fun sorted member => insertMember member.1 member.2 sorted) sorted)) by
    exact kept [] (.object .nil nofun)
  induction members with
  | nil => exact fun _ proper => proper
  | cons first rest ih =>
      obtain ⟨here, others⟩ := List.forall_mem_cons.mp each
      intro sorted proper
      refine ih others _ (.object (proper.ordered.insertMember _ _) fun member inserted => ?_)
      rcases mem_of_mem_insertMember inserted with rfl | old
      · exact here
      · exact proper.of_mem old

end Members

namespace Document

mutual

theorem proper_toJson? (room : Nat) (document : Document) {value : Json}
    (reads : document.toJson? room = some value) : value.Proper :=
  match document with
  | .null => by
      cases reads
      exact .null
  | .bool _ => by
      cases reads
      exact .bool _
  | .number literal => by
      obtain ⟨number, _, rfl⟩ := Option.map_eq_some_iff.mp reads
      exact .number number
  | .string text => by
      obtain ⟨text, _, rfl⟩ := Option.map_eq_some_iff.mp reads
      exact .string text
  | .array items => by
      cases room with
      | zero => cases reads
      | succ room =>
          obtain ⟨values, read, rfl⟩ := Option.map_eq_some_iff.mp reads
          exact .array (proper_itemsToJson? room items read)
  | .object members => by
      cases room with
      | zero => cases reads
      | succ room =>
          obtain ⟨values, read, rfl⟩ := Option.map_eq_some_iff.mp reads
          exact proper_ofMembers (proper_membersToJson? room members read)

theorem proper_itemsToJson? (room : Nat) (items : List Document) {values : List Json}
    (reads : itemsToJson? room items = some values) : ∀ value ∈ values, value.Proper :=
  match items with
  | [] => by
      cases reads
      exact nofun
  | item :: items => by
      obtain ⟨value, here, reads⟩ := Option.bind_eq_some_iff.mp reads
      obtain ⟨values, later, reads⟩ := Option.bind_eq_some_iff.mp reads
      cases reads
      exact List.forall_mem_cons.mpr
        ⟨proper_toJson? room item here, proper_itemsToJson? room items later⟩

theorem proper_membersToJson? (room : Nat) (members : List (Option String × Document))
    {values : List (String × Json)} (reads : membersToJson? room members = some values) :
    ∀ member ∈ values, member.2.Proper :=
  match members with
  | [] => by
      cases reads
      exact nofun
  | (key, document) :: members => by
      obtain ⟨key, _, reads⟩ := Option.bind_eq_some_iff.mp reads
      obtain ⟨value, here, reads⟩ := Option.bind_eq_some_iff.mp reads
      obtain ⟨values, later, reads⟩ := Option.bind_eq_some_iff.mp reads
      cases reads
      exact List.forall_mem_cons.mpr
        ⟨proper_toJson? room document here, proper_membersToJson? room members later⟩

end

end Document

/-- Whatever is read from a text is proper. -/
theorem proper_read {text : String} {value : Json} (reads : read text = some value) :
    value.Proper := by
  obtain ⟨document, _, reads⟩ := Option.bind_eq_some_iff.mp reads
  exact Document.proper_toJson? maxDepth document reads

end FeatureFlags.Json
