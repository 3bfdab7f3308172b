import FeatureFlags.Proofs.Condition.Encoding

/-!
Which JSON values are conditions. A value is read as a tree exactly if every operand in it can be
read, at any depth and also where the tree has no use for it; otherwise the error is that of the
first operand that cannot. A test can be read exactly if its fields have the right types and its
kind is known, and a kind that is unknown is reported whatever else is wrong.
-/

namespace FeatureFlags

namespace Reading
variable {α β ε : Type} {f : α → Except ε β}

/-- Whether something is read, and with what error it is not. -/
def outcome (read : Except ε α) : Except ε Unit := read.map fun _ => ()

theorem outcome_eq_error {read : Except ε α} {error : ε} :
    outcome read = .error error ↔ read = .error error := by
  cases read <;> simp [outcome, Except.map]

theorem outcome_eq_ok {read : Except ε α} : outcome read = .ok () ↔ ∃ a, read = .ok a := by
  cases read <;> simp [outcome, Except.map]

theorem outcome_map (read : Except ε α) (g : α → β) : outcome (read.map g) = outcome read := by
  cases read <;> rfl

theorem bind_eq_ok {read : Except ε α} {next : α → Except ε β} {b : β} :
    (read >>= next) = .ok b ↔ ∃ a, read = .ok a ∧ next a = .ok b := by
  cases read <;> simp [bind, Except.bind]

theorem bind_ne_error {read : Except ε α} {next : α → Except ε β} {error : ε}
    (first : read ≠ .error error) (later : ∀ a, next a ≠ .error error) :
    (read >>= next) ≠ .error error := by
  cases read with
  | error _ => exact fun same => first (congrArg Except.error (Except.error.inj same))
  | ok a => exact later a

/-- A list is read if each of its items is. -/
theorem outcome_mapM_eq_ok {items : List α} :
    outcome (items.mapM f) = .ok () ↔ ∀ item ∈ items, ∃ b, f item = .ok b := by
  induction items with
  | nil => simp [outcome, Except.map, pure, Except.pure]
  | cons first rest ih =>
      rw [List.mapM_cons, List.forall_mem_cons, ← ih]
      cases f first with
      | error _ => simp [outcome, Except.map, bind, Except.bind]
      | ok _ =>
          cases rest.mapM f <;> simp [outcome, Except.map, bind, Except.bind, pure, Except.pure]

/-- The error of a list is that of the first item that cannot be read. -/
theorem outcome_mapM_eq_error {items : List α} {error : ε} :
    outcome (items.mapM f) = .error error ↔
      ∃ before offending after, items = before ++ offending :: after ∧
        (∀ earlier ∈ before, ∃ b, f earlier = .ok b) ∧ f offending = .error error := by
  induction items with
  | nil => simp [outcome, Except.map, pure, Except.pure]
  | cons first rest ih =>
      rw [List.mapM_cons]
      cases read : f first with
      | error other =>
          constructor
          · rintro ⟨⟩
            exact ⟨[], first, rest, rfl, nofun, read⟩
          · rintro ⟨_ | ⟨earlier, before⟩, offending, after, split, readable, refused⟩
            · cases split
              cases read.symm.trans refused
              rfl
            · cases split
              obtain ⟨b, fine⟩ := readable first List.mem_cons_self
              cases read.symm.trans fine
      | ok b =>
          have later : outcome (Except.ok b >>= fun b => rest.mapM f >>= fun bs => pure (b :: bs)) =
              outcome (rest.mapM f) := by
            cases rest.mapM f <;> rfl
          rw [later, ih]
          constructor
          · rintro ⟨before, offending, after, rfl, readable, refused⟩
            exact ⟨first :: before, offending, after, rfl,
              List.forall_mem_cons.mpr ⟨⟨b, read⟩, readable⟩, refused⟩
          · rintro ⟨_ | ⟨earlier, before⟩, offending, after, split, readable, refused⟩
            · cases split
              cases read.symm.trans refused
            · cases split
              exact ⟨before, offending, after, rfl, (List.forall_mem_cons.mp readable).2, refused⟩

theorem outcome_mapM_append (front back : List α) :
    outcome ((front ++ back).mapM f) =
      outcome (front.mapM f) >>= fun _ => outcome (back.mapM f) := by
  rw [List.mapM_append]
  cases front.mapM f with
  | error _ => rfl
  | ok _ => cases back.mapM f <;> rfl

end Reading

namespace Json

instance : DecidablePred IsOperator
  | .string text =>
    decidable_of_iff (text = "and" ∨ text = "or" ∨ text = "not") (by simp [IsOperator])
  | .null | .bool _ | .number _ | .array _ | .object _ => isFalse (by simp [IsOperator])

/-- Induction over the lists that a value is nested in. -/
@[elab_as_elim]
theorem listInduct {motive : Json → Prop}
    (list : ∀ items, (∀ item ∈ items, motive item) → motive (.array items))
    (single : ∀ value, (∀ items, value ≠ .array items) → motive value) : ∀ value, motive value
  | .array items => list items fun item _ => listInduct list single item
  | .null | .bool _ | .number _ | .string _ | .object _ => single _ nofun

mutual

/-- The values in the place of operands, at any depth, in the order of the document. Only the first
item of a list can be an operator. -/
def operands : Json → List Json
  | .array [] => []
  | .array (first :: rest) =>
    if first.IsOperator then operandsOfAll rest else operands first ++ operandsOfAll rest
  | value => [value]

def operandsOfAll : List Json → List Json
  | [] => []
  | item :: items => operands item ++ operandsOfAll items

end

theorem operandsOfAll_eq_flatMap (items : List Json) :
    operandsOfAll items = items.flatMap operands := by
  induction items with
  | nil => rfl
  | cons item rest ih => rw [operandsOfAll, ih, List.flatMap_cons]

theorem operands_of_operator {first : Json} (operator : first.IsOperator) (rest : List Json) :
    (Json.array (first :: rest)).operands = rest.flatMap operands := by
  rw [operands, if_pos operator, operandsOfAll_eq_flatMap]

theorem operands_of_plain {first : Json} (plain : ¬ first.IsOperator) (rest : List Json) :
    (Json.array (first :: rest)).operands = (first :: rest).flatMap operands := by
  rw [operands, if_neg plain, operandsOfAll_eq_flatMap, List.flatMap_cons]

theorem operands_of_single {value : Json} (single : ∀ items, value ≠ .array items) :
    value.operands = [value] := by
  rw [operands]
  · exact single _
  · exact fun _ _ => single _

/-- Behind the first item of a list there are no operators. -/
theorem mem_operands_of_tail {item : Json} (single : ∀ items, item ≠ .array items) (first : Json)
    {rest : List Json} (member : item ∈ rest) : item ∈ (Json.array (first :: rest)).operands := by
  have listed : item ∈ rest.flatMap operands :=
    List.mem_flatMap.mpr ⟨item, member, operands_of_single single ▸ List.mem_singleton_self item⟩
  by_cases operator : first.IsOperator
  · exact operands_of_operator operator rest ▸ listed
  · rw [operands_of_plain operator, List.flatMap_cons]
    exact List.mem_append_right _ listed

end Json

namespace Condition
open Reading (outcome)
variable {α : Type} {leaf : Json → Except ConditionError α}

theorem outcome_listOfJson {items : List Json}
    (each : ∀ item ∈ items, outcome (ofJson leaf item) = outcome (item.operands.mapM leaf)) :
    outcome (listOfJson leaf items) = outcome ((items.flatMap Json.operands).mapM leaf) := by
  induction items with
  | nil => rfl
  | cons item rest ih =>
      have first := each item List.mem_cons_self
      have later := ih fun other member => each other (List.mem_cons_of_mem _ member)
      rw [List.flatMap_cons, Reading.outcome_mapM_append, ← first, ← later, listOfJson]
      cases ofJson leaf item with
      | error _ => rfl
      | ok _ => cases listOfJson leaf rest <;> rfl

/-- A tree is read like its operands, one after another. -/
theorem outcome_ofJson (value : Json) :
    outcome (ofJson leaf value) = outcome (value.operands.mapM leaf) := by
  induction value using Json.listInduct with
  | single value single =>
      rw [ofJson_leaf single, Json.operands_of_single single, Reading.outcome_map, List.mapM_cons]
      cases leaf value <;> rfl
  | list items each =>
      cases items with
      | nil => rw [ofJson_nil, Json.operands]; rfl
      | cons first rest =>
          by_cases operator : first.IsOperator
          · have later := outcome_listOfJson fun item member =>
              each item (List.mem_cons_of_mem _ member)
            rw [Json.operands_of_operator operator, ← later]
            obtain rfl | rfl | rfl := operator
            · rw [ofJson_and, Reading.outcome_map]
            · rw [ofJson_or, Reading.outcome_map]
            · rw [ofJson_not, Reading.outcome_map]
          · rw [Json.operands_of_plain operator, ofJson_list operator, Reading.outcome_map,
              outcome_listOfJson each]

end Condition

/-- A value that is neither a list nor an object. -/
def Json.IsAtom : Json → Prop
  | .null | .bool _ | .number _ | .string _ => True
  | .array _ | .object _ => False

/-- The members of an object that describes a test. -/
structure DescribesTest (members : List (String × Json)) : Prop where
  name : ∃ name, members.lookup "name" = some (.string name)
  type : members.lookup "type" = none ∨ ∃ type, members.lookup "type" = some (.string type)
  kind : members.lookup "match" = none ∨ members.lookup "match" = some .null ∨
    ∃ kind : MatchKind, members.lookup "match" = some (.string kind.name)
  operand : members.lookup "value" = none ∨
    ∃ operand, members.lookup "value" = some operand ∧ operand.IsAtom

namespace Json

def IsTest (value : Json) : Prop := ∃ members, value = .object members ∧ DescribesTest members

/-- An object whose kind of match is a name, but not one of the known names. -/
def NamesUnknownMatch (value : Json) (name : String) : Prop :=
  ∃ members, value = .object members ∧ members.lookup "match" = some (.string name) ∧
    ∀ kind : MatchKind, kind.name ≠ name

end Json

namespace MatchKind

theorem mem_all (kind : MatchKind) : kind ∈ all := by
  cases kind with
  | number relation | version relation => cases relation <;> decide
  | exact | present | substring | versionEq | legacy => decide

theorem ofName?_eq_none {name : String} :
    ofName? name = none ↔ ∀ kind : MatchKind, kind.name ≠ name := by
  rw [ofName?, List.find?_eq_none]
  exact ⟨fun unknown kind => by simpa using unknown kind kind.mem_all,
    fun unknown kind _ => by simpa using unknown kind⟩

end MatchKind

namespace AttributeTest
variable {members : List (String × Json)}

theorem optionalField_eq_ok {field : Option Json} {text : Option String} :
    field.mapM stringField = .ok text ↔ field = text.map .string := by
  cases field with
  | none => cases text <;> simp [pure, Except.pure]
  | some value =>
      cases value <;> cases text <;>
        simp [stringField, Functor.map, Except.map]

theorem kindField_string (name : String) :
    kindField (some (.string name)) =
      match MatchKind.ofName? name with
      | some kind => .ok kind
      | none => .error (.unknownMatch name) := rfl

theorem kindField_isOk {field : Option Json} :
    (∃ kind, kindField field = .ok kind) ↔
      field = none ∨ field = some .null ∨ ∃ kind : MatchKind, field = some (.string kind.name) := by
  rcases field with _ | _ | _ | _ | name | _ | _
  case some.string =>
    rw [kindField_string]
    cases known : MatchKind.ofName? name with
    | some kind =>
        have own : kind.name = name := by simpa using List.find?_some known
        simp [← own]
    | none =>
        have unknown := MatchKind.ofName?_eq_none.mp known
        simpa using fun kind same => unknown kind same.symm
  all_goals simp [kindField, stringField, bind, Except.bind]

theorem kindField_unknown {field : Option Json} {name : String} :
    kindField field = .error (.unknownMatch name) ↔
      field = some (.string name) ∧ ∀ kind : MatchKind, kind.name ≠ name := by
  rcases field with _ | _ | _ | _ | named | _ | _
  case some.string =>
    rw [kindField_string, ← MatchKind.ofName?_eq_none]
    cases known : MatchKind.ofName? named with
    | some kind =>
        refine ⟨nofun, ?_⟩
        rintro ⟨⟨⟩, unknown⟩
        cases known.symm.trans unknown
    | none =>
        constructor
        · rintro ⟨⟩
          exact ⟨rfl, known⟩
        · rintro ⟨⟨⟩, -⟩
          rfl
  all_goals simp [kindField, stringField, bind, Except.bind]

theorem operandField_isOk {field : Option Json} :
    (∃ operand, operandField field = .ok operand) ↔
      field = none ∨ ∃ value, field = some value ∧ value.IsAtom := by
  cases field with
  | none => simp [operandField]
  | some value => cases value <;> simp [operandField, AttributeValue.ofJson?, Json.IsAtom]

theorem optionalField_ne_unknown (field : Option Json) (name : String) :
    field.mapM stringField ≠ .error (.unknownMatch name) := by
  rcases field with _ | _ | _ | _ | _ | _ | _ <;>
    simp [stringField, pure, Except.pure, Functor.map, Except.map]

theorem operandField_ne_unknown (field : Option Json) (name : String) :
    operandField field ≠ .error (.unknownMatch name) := by
  rcases field with _ | _ | _ | _ | _ | _ | _ <;> simp [operandField, AttributeValue.ofJson?]

/-- An object is a test exactly if its members describe one. -/
theorem ofJson_object_isOk : (∃ test, ofJson (.object members) = .ok test) ↔
    DescribesTest members := by
  constructor
  · rintro ⟨test, read⟩
    obtain ⟨kind, kindRead, read⟩ := Reading.bind_eq_ok.mp read
    obtain ⟨name, nameRead, read⟩ := Reading.bind_eq_ok.mp read
    obtain ⟨type, typeRead, read⟩ := Reading.bind_eq_ok.mp read
    obtain ⟨operand, operandRead, read⟩ := Reading.bind_eq_ok.mp read
    cases name with
    | none => cases read
    | some name =>
        refine ⟨⟨name, optionalField_eq_ok.mp nameRead⟩, ?_, kindField_isOk.mp ⟨kind, kindRead⟩,
          operandField_isOk.mp ⟨operand, operandRead⟩⟩
        have declared := optionalField_eq_ok.mp typeRead
        cases type with
        | none => exact .inl declared
        | some type => exact .inr ⟨type, declared⟩
  · rintro ⟨⟨name, named⟩, typed, kind, operand⟩
    obtain ⟨kind, kindRead⟩ := kindField_isOk.mpr kind
    obtain ⟨operand, operandRead⟩ := operandField_isOk.mpr operand
    obtain ⟨type, typeRead⟩ : ∃ type, (members.lookup "type").mapM stringField = .ok type := by
      rcases typed with absent | ⟨type, declared⟩
      · exact ⟨none, optionalField_eq_ok.mpr absent⟩
      · exact ⟨some type, optionalField_eq_ok.mpr declared⟩
    have nameRead : (members.lookup "name").mapM stringField = .ok (some name) :=
      optionalField_eq_ok.mpr named
    exact ⟨_, by rw [ofJson, kindRead, nameRead, typeRead, operandRead]; rfl⟩

theorem ofJson_isOk {value : Json} : (∃ test, ofJson value = .ok test) ↔ value.IsTest := by
  cases value with
  | object members => simp [ofJson_object_isOk, Json.IsTest]
  | null | bool _ | number _ | string _ | array _ => simp [ofJson, Json.IsTest]

/-- An unknown kind is reported whatever else is wrong. -/
theorem ofJson_unknown {value : Json} {name : String} :
    ofJson value = .error (.unknownMatch name) ↔ value.NamesUnknownMatch name := by
  cases value with
  | object members =>
      simp only [Json.NamesUnknownMatch, Json.object.injEq, exists_eq_left', ← kindField_unknown]
      cases kindRead : kindField (members.lookup "match") with
      | error other => simp [ofJson, kindRead, bind, Except.bind]
      | ok kind =>
          -- Nothing that is read behind the kind complains about it.
          refine iff_of_false ?_ (by simp)
          refine Reading.bind_ne_error (by simp [kindRead]) fun _ => ?_
          refine Reading.bind_ne_error (optionalField_ne_unknown _ name) fun named => ?_
          refine Reading.bind_ne_error (optionalField_ne_unknown _ name) fun _ => ?_
          refine Reading.bind_ne_error (operandField_ne_unknown _ name) fun _ => ?_
          cases named <;> simp
  | null | bool _ | number _ | string _ | array _ => simp [ofJson, Json.NamesUnknownMatch]

end AttributeTest

/-- What a value that is no test is refused with: the name of its kind if that is unknown, whatever
else is wrong, and otherwise a complaint about the condition. -/
structure Json.RefusedWith (value : Json) (error : ConditionError) : Prop where
  refused : AttributeTest.ofJson value = .error error
  noTest : ¬ value.IsTest
  unknown : ∀ name, error = .unknownMatch name ↔ value.NamesUnknownMatch name
  invalid : (∀ name, ¬ value.NamesUnknownMatch name) →
    error.message = "invalid audience condition: " ++ error.reason

theorem AttributeTest.refusedWith_iff {value : Json} {error : ConditionError} :
    value.RefusedWith error ↔ ofJson value = .error error := by
  refine ⟨fun refusedWith => refusedWith.refused, fun refused => ⟨refused, ?_, ?_, ?_⟩⟩
  · rw [← ofJson_isOk, refused]
    exact nofun
  · intro name
    rw [← ofJson_unknown, refused, Except.error.injEq]
  · intro known
    cases error with
    | unknownMatch name => exact absurd (ofJson_unknown.mp refused) (known name)
    | _ => rfl

namespace Condition

/-- A value is read as a tree of tests exactly if all its operands are tests, also those that the
tree has no use for. Otherwise the error is that of the first operand that is no test. A string
behind the first item of a list is such an operand, even if it is called like an operator. -/
theorem read_iff_operands_are_tests :
    (∀ value : Json, (∃ tree, ofJson AttributeTest.ofJson value = .ok tree) ↔
      ∀ operand ∈ value.operands, operand.IsTest) ∧
    (∀ (value : Json) (error : ConditionError), ofJson AttributeTest.ofJson value = .error error ↔
      ∃ before offending after, value.operands = before ++ offending :: after ∧
        (∀ earlier ∈ before, earlier.IsTest) ∧ offending.RefusedWith error) ∧
    ∀ (first : Json) (rest : List Json) (text : String), .string text ∈ rest →
      ¬ ∃ tree, ofJson AttributeTest.ofJson (.array (first :: rest)) = .ok tree := by
  have accepted (value : Json) : (∃ tree, ofJson AttributeTest.ofJson value = .ok tree) ↔
      ∀ operand ∈ value.operands, operand.IsTest := by
    rw [← Reading.outcome_eq_ok, outcome_ofJson, Reading.outcome_mapM_eq_ok]
    simp only [AttributeTest.ofJson_isOk]
  refine ⟨accepted, fun value error => ?_, fun first rest text member => ?_⟩
  · rw [← Reading.outcome_eq_error, outcome_ofJson, Reading.outcome_mapM_eq_error]
    simp only [AttributeTest.ofJson_isOk, AttributeTest.refusedWith_iff]
  · rw [accepted]
    intro tests
    obtain ⟨_, ⟨⟩, _⟩ := tests _ (Json.mem_operands_of_tail (by simp) first member)

/-- The second operand of a negation is dropped, and its unknown kind still tells more than its
missing name and its list of values. -/
theorem read_refuses_dropped_operand :
    let newer : Json := .object [("match", .string "newer"), ("value", .array [])]
    let adult : Json := .object [("match", .string "ge"), ("name", .string "age")]
    ofJson AttributeTest.ofJson (.array [.string "not", .array [adult], newer, .string "and"]) =
        .error (.unknownMatch "newer") ∧
      ¬ ∃ tree, ofJson AttributeTest.ofJson (.array [adult, .string "and", adult]) = .ok tree := by
  intro newer adult
  obtain ⟨_, refused, misplaced⟩ := read_iff_operands_are_tests
  refine ⟨(refused _ _).mpr ⟨[adult], newer, [.string "and"], rfl, ?_, ?_⟩,
    misplaced _ _ "and" (by simp)⟩
  · rintro earlier member
    cases List.mem_singleton.mp member
    exact AttributeTest.ofJson_isOk.mp ⟨_, rfl⟩
  · exact AttributeTest.refusedWith_iff.mpr rfl

end Condition
end FeatureFlags
