import FeatureFlags.Proofs.Json.Numerals
import FeatureFlags.Proofs.Json.Proper
import FeatureFlags.Proofs.Json.Reading
import Mathlib.Data.List.Induction
import Mathlib.Data.List.Sort

/-!
The values that JSON texts stand for. Numbers and strings that have no value spoil the whole text,
and of members with the same key the last one counts.
-/

namespace FeatureFlags.Json

/-- The members that count: of those with the same key the last one, by increasing key. -/
structure Collects (members sorted : List (String × Json)) : Prop where
  ordered : Ordered sorted
  last : ∀ key value, (key, value) ∈ sorted ↔ ∃ before after,
    members = before ++ (key, value) :: after ∧ ∀ later ∈ after, later.1 ≠ key

section Members
variable {members : List (String × Json)}

theorem mem_insertMember_iff (ordered : Ordered members) (key : String) (value : Json)
    (member : String × Json) :
    member ∈ insertMember key value members ↔
      member = (key, value) ∨ member.1 ≠ key ∧ member ∈ members := by
  induction members with
  | nil => simp [insertMember]
  | cons first rest ih =>
      obtain ⟨least, later⟩ := List.pairwise_cons.mp ordered
      rw [insertMember]
      split
      · rename_i before
        have behind : ∀ other ∈ first :: rest, other.1 ≠ key :=
          List.forall_mem_cons.mpr ⟨before.ne', fun other listed =>
            (before.trans (least other listed)).ne'⟩
        rw [List.mem_cons]
        exact or_congr_right ⟨fun listed => ⟨behind member listed, listed⟩, And.right⟩
      · split
        · rename_i same
          have behind : ∀ other ∈ rest, other.1 ≠ key := fun other listed =>
            same ▸ (least other listed).ne'
          rw [List.mem_cons, List.mem_cons]
          constructor
          · rintro (rfl | listed)
            · exact .inl rfl
            · exact .inr ⟨behind member listed, .inr listed⟩
          · rintro (rfl | ⟨other, rfl | listed⟩)
            · exact .inl rfl
            · exact absurd same.symm other
            · exact .inr listed
        · rename_i different
          rw [List.mem_cons, ih later, List.mem_cons]
          constructor
          · rintro (rfl | new | ⟨other, listed⟩)
            · exact .inr ⟨Ne.symm different, .inl rfl⟩
            · exact .inl new
            · exact .inr ⟨other, .inr listed⟩
          · rintro (new | ⟨other, rfl | listed⟩)
            · exact .inr (.inl new)
            · exact .inl rfl
            · exact .inr (.inr ⟨other, listed⟩)

/-- One more member takes the place of those with the same key. -/
theorem Collects.insertMember {sorted : List (String × Json)} (collects : Collects members sorted)
    (key : String) (value : Json) :
    Collects (members ++ [(key, value)]) (insertMember key value sorted) := by
  refine ⟨collects.ordered.insertMember key value, fun key' value' => ?_⟩
  rw [mem_insertMember_iff collects.ordered, collects.last]
  constructor
  · rintro (⟨⟨⟩⟩ | ⟨different, before, after, rfl, last⟩)
    · exact ⟨members, [], rfl, by simp⟩
    · refine ⟨before, after ++ [(key, value)], by simp, ?_⟩
      exact List.forall_mem_append.mpr ⟨last, by simpa using Ne.symm different⟩
  · rintro ⟨before, after, split, last⟩
    rcases List.eq_nil_or_concat after with rfl | ⟨after, newest, rfl⟩
    · obtain ⟨-, same⟩ := List.append_inj' split rfl
      exact .inl (List.cons.inj same).1.symm
    · rw [List.concat_eq_append, ← List.cons_append, ← List.append_assoc] at split
      obtain ⟨rfl, same⟩ := List.append_inj' split rfl
      obtain rfl := (List.cons.inj same).1
      refine .inr ⟨(last (key, value) (by simp)).symm, before, after, rfl, fun later listed => ?_⟩
      exact last later (by simp [listed])

theorem Collects.unique {sorted sorted' : List (String × Json)} (collects : Collects members sorted)
    (collects' : Collects members sorted') : sorted = sorted' := by
  have irreflexive : Std.Irrefl fun first second : String × Json => first.1 < second.1 :=
    ⟨fun member => lt_irrefl member.1⟩
  refine collects.ordered.eq_of_mem_iff collects'.ordered fun member => ?_
  exact (collects.last member.1 member.2).trans (collects'.last member.1 member.2).symm

theorem ofMembers_eq_object_iff {sorted : List (String × Json)} :
    ofMembers members = .object sorted ↔ Collects members sorted := by
  have collects : Collects members (members.foldl
      (fun sorted member => Json.insertMember member.1 member.2 sorted) []) := by
    induction members using List.reverseRecOn with
    | nil => exact ⟨.nil, by simp⟩
    | append_singleton members member ih =>
        rw [List.foldl_append]
        exact ih.insertMember member.1 member.2
  rw [ofMembers, Json.object.injEq]
  constructor
  · rintro rfl
    exact collects
  · exact collects.unique

end Members

namespace Document

mutual

/-- The value of a document with at most `room` levels of arrays and objects. -/
inductive Denotes : Nat → Document → Json → Prop
  | null {room : Nat} : Denotes room .null .null
  | bool {room : Nat} {b : Bool} : Denotes room (.bool b) (.bool b)
  | number {room : Nat} {literal : Numeral} {number : Number} (own : literal.Denotes number) :
      Denotes room (.number literal) (.number number)
  | string {room : Nat} {text : String} : Denotes room (.string (some text)) (.string text)
  | array {room : Nat} {items : List Document} {values : List Json}
      (each : ItemsDenote room items values) : Denotes (room + 1) (.array items) (.array values)
  | object {room : Nat} {members : List (Option String × Document)}
      {values sorted : List (String × Json)} (each : MembersDenote room members values)
      (collects : Collects values sorted) : Denotes (room + 1) (.object members) (.object sorted)

inductive ItemsDenote : Nat → List Document → List Json → Prop
  | nil {room : Nat} : ItemsDenote room [] []
  | cons {room : Nat} {item : Document} {value : Json} {items : List Document} {values : List Json}
      (first : Denotes room item value) (others : ItemsDenote room items values) :
      ItemsDenote room (item :: items) (value :: values)

inductive MembersDenote : Nat → List (Option String × Document) → List (String × Json) → Prop
  | nil {room : Nat} : MembersDenote room [] []
  | cons {room : Nat} {key : String} {member : Document} {value : Json}
      {members : List (Option String × Document)} {values : List (String × Json)}
      (first : Denotes room member value) (others : MembersDenote room members values) :
      MembersDenote room ((some key, member) :: members) ((key, value) :: values)

end
mutual

theorem toJson?_eq_some_iff (room : Nat) (document : Document) (value : Json) :
    document.toJson? room = some value ↔ Denotes room document value :=
  match document with
  | .null => by
      constructor
      · rintro ⟨⟩
        exact .null
      · rintro ⟨⟩
        rfl
  | .bool b => by
      constructor
      · rintro ⟨⟩
        exact .bool
      · rintro ⟨⟩
        rfl
  | .number literal => by
      simp only [toJson?, Option.map_eq_some_iff, Numeral.value?_eq_some_iff]
      constructor
      · rintro ⟨number, own, rfl⟩
        exact .number own
      · rintro (_ | _ | own)
        exact ⟨_, own, rfl⟩
  | .string text => by
      simp only [toJson?, Option.map_eq_some_iff]
      constructor
      · rintro ⟨text, rfl, rfl⟩
        exact .string
      · rintro ⟨⟩
        exact ⟨_, rfl, rfl⟩
  | .array items => by
      cases room with
      | zero =>
          constructor
          · rintro ⟨⟩
          · rintro ⟨⟩
      | succ room =>
          have reads := itemsToJson?_eq_some_iff room items
          simp only [toJson?, Option.map_eq_some_iff, reads]
          constructor
          · rintro ⟨values, each, rfl⟩
            exact .array each
          · rintro ⟨⟩
            exact ⟨_, ‹_›, rfl⟩
  | .object members => by
      cases room with
      | zero =>
          constructor
          · rintro ⟨⟩
          · rintro ⟨⟩
      | succ room =>
          have reads := membersToJson?_eq_some_iff room members
          simp only [toJson?, Option.map_eq_some_iff, reads]
          constructor
          · rintro ⟨values, each, rfl⟩
            exact .object each (ofMembers_eq_object_iff.mp rfl)
          · rintro ⟨⟩
            exact ⟨_, ‹_›, ofMembers_eq_object_iff.mpr ‹_›⟩

theorem itemsToJson?_eq_some_iff (room : Nat) (items : List Document) (values : List Json) :
    itemsToJson? room items = some values ↔ ItemsDenote room items values :=
  match items with
  | [] => by
      constructor
      · rintro ⟨⟩
        exact .nil
      · rintro ⟨⟩
        rfl
  | item :: items => by
      have first := toJson?_eq_some_iff room item
      have others := itemsToJson?_eq_some_iff room items
      simp only [itemsToJson?, Option.bind_eq_bind, Option.bind_eq_some_iff, first, others]
      constructor
      · rintro ⟨value, own, values, more, ⟨⟩⟩
        exact .cons own more
      · rintro (_ | ⟨own, more⟩)
        exact ⟨_, own, _, more, rfl⟩

theorem membersToJson?_eq_some_iff (room : Nat) (members : List (Option String × Document))
    (values : List (String × Json)) :
    membersToJson? room members = some values ↔ MembersDenote room members values :=
  match members with
  | [] => by
      constructor
      · rintro ⟨⟩
        exact .nil
      · rintro ⟨⟩
        rfl
  | (key, document) :: members => by
      have first := toJson?_eq_some_iff room document
      have others := membersToJson?_eq_some_iff room members
      simp only [membersToJson?, Option.bind_eq_bind, Option.bind_eq_some_iff, first, others]
      constructor
      · rintro ⟨key, rfl, value, own, values, more, ⟨⟩⟩
        exact .cons own more
      · rintro (_ | ⟨own, more⟩)
        exact ⟨_, rfl, _, own, _, more, rfl⟩

end

end Document

/-- A JSON text, with the value that it stands for. -/
def Writes (text : String) (value : Json) : Prop :=
  ∃ document, Grammar.Text text.toList document ∧ document.Denotes 127 value

theorem read_eq_some_iff {text : String} {value : Json} :
    read text = some value ↔ Writes text value := by
  simp only [read, Option.bind_eq_some_iff, Document.read_eq_some_iff, Document.toJson?_eq_some_iff]
  rfl

end FeatureFlags.Json
