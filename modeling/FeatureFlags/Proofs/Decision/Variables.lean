import FeatureFlags.Decision.Variables
import FeatureFlags.Proofs.Decimal.DoubleTexts
import FeatureFlags.Proofs.Dict
import FeatureFlags.Proofs.Json.Values

/-!
The values of the variables of a flag. A declared type admits certain texts, each of which stands for
a value of that type; any other text counts as null. The text of a variable is the default, unless a
variation that enables the flag gives another one.
-/

namespace FeatureFlags

namespace FlagVariable

def IsJson (declared : FlagVariable) : Prop :=
  declared.type = "json" ∨ declared.type = "string" ∧ declared.subType = some "json"

/-- The texts that are valid for the declared type, with the values they stand for. -/
inductive Denotes (declared : FlagVariable) : String → Json → Prop
  | json {raw : String} {value : Json} (type : declared.IsJson) (written : Json.Writes raw value) :
      Denotes declared raw value
  | string {raw : String} (type : declared.type = "string")
      (plain : declared.subType ≠ some "json") : Denotes declared raw (.string raw)
  | boolean {raw : String} {b : Bool} (type : declared.type = "boolean")
      (named : raw = if b then "true" else "false") : Denotes declared raw (.bool b)
  | integer {raw : String} {n : Int} (type : declared.type = "integer")
      (written : WritesInteger raw n)
      (range : Int64.minValue.toInt ≤ n ∧ n ≤ Int64.maxValue.toInt) :
      Denotes declared raw (.number (.integer n))
  | double {raw : String} {x : Float} (type : declared.type = "double")
      (written : WritesDouble raw x) : Denotes declared raw (.number (.real x))

theorem typedValue?_eq_some_iff {declared : FlagVariable} {raw : String} {value : Json} :
    declared.typedValue? raw = some value ↔ declared.Denotes raw value := by
  constructor
  · intro given
    simp only [typedValue?] at given
    split at given
    · rename_i type
      exact .json (.inl type) (Json.read_eq_some_iff.mp given)
    · rename_i type subType
      exact .json (.inr ⟨type, subType⟩) (Json.read_eq_some_iff.mp given)
    · rename_i type plain
      cases given
      exact .string type plain
    · rename_i type
      split at given
      · cases given
        exact .boolean type rfl
      · cases given
        exact .boolean type rfl
      · cases given
    · rename_i type
      obtain ⟨n, read, rfl⟩ := Option.map_eq_some_iff.mp given
      obtain ⟨written, range⟩ := readInteger_eq_some_iff.mp read
      exact .integer type written range
    · rename_i type
      split at given
      · rename_i x read
        rw [Option.ite_none_right_eq_some, Option.some.injEq] at given
        obtain ⟨finite, rfl⟩ := given
        exact .double type (readFloat_eq_some_iff.mp ⟨read, finite⟩)
      · cases given
    · cases given
  · intro denotes
    cases denotes with
    | json type written =>
        have read := Json.read_eq_some_iff.mpr written
        rcases type with type | ⟨type, subType⟩
        · simp [typedValue?, type, read]
        · simp [typedValue?, type, subType, read]
    | string type _ => simp [typedValue?, type]
    | @boolean b type named =>
        subst named
        cases b <;> simp [typedValue?, type]
    | integer type written range =>
        simp [typedValue?, type, readInteger_eq_some_iff.mpr ⟨written, range⟩]
    | double type written =>
        obtain ⟨read, finite⟩ := readFloat_eq_some_iff.mpr written
        simp [typedValue?, type, read, finite]

/-- The values of the declared type. A type that is not known has none. -/
inductive HasType (declared : FlagVariable) : Json → Prop
  | json (type : declared.IsJson) (value : Json) : HasType declared value
  | string (type : declared.type = "string") (text : String) : HasType declared (.string text)
  | boolean (type : declared.type = "boolean") (b : Bool) : HasType declared (.bool b)
  | integer (type : declared.type = "integer") (n : Int)
      (range : Int64.minValue.toInt ≤ n ∧ n ≤ Int64.maxValue.toInt) :
      HasType declared (.number (.integer n))
  | double (type : declared.type = "double") (x : Float) (finite : x.isFinite = true) :
      HasType declared (.number (.real x))

theorem Denotes.hasType {declared : FlagVariable} {raw : String} {value : Json}
    (denotes : declared.Denotes raw value) : declared.HasType value := by
  cases denotes with
  | json type _ => exact .json type value
  | string type _ => exact .string type raw
  | boolean type _ => exact .boolean type _
  | integer type _ range => exact .integer type _ range
  | double type written => exact .double type _ written.finite

/-- The usages that count: those of a variation that enables its flag. -/
def countedUsages : Option Variation → List VariableUsage
  | some variation => if variation.featureEnabled then variation.usages else []
  | none => []

theorem rawValue_eq (declared : FlagVariable) (variation : Option Variation) :
    declared.rawValue variation = (((countedUsages variation).find? (·.id = declared.id)).map
      (·.value)).getD declared.defaultValue := by
  cases variation with
  | none => rfl
  | some variation =>
      by_cases enables : variation.featureEnabled = true
      · simp [rawValue, countedUsages, enables, Variation.variableValue?, Option.filter_some]
      · simp [rawValue, countedUsages, enables, Option.filter_some]

def knownTypes : List String := ["json", "string", "boolean", "integer", "double"]

theorem HasType.mem_knownTypes {declared : FlagVariable} {value : Json}
    (typed : declared.HasType value) : declared.type ∈ knownTypes := by
  cases typed with
  | json type _ => rcases type with type | ⟨type, _⟩ <;> simp [knownTypes, type]
  | string type _ | boolean type _ | integer type _ _ | double type _ _ =>
      simp [knownTypes, type]

/-- The raw text of a variable: that of the first usage of its id in a variation that enables the
flag, and the default if there is none. -/
inductive RawText (declared : FlagVariable) : Option Variation → String → Prop
  | used {variation : Variation} {before after : List VariableUsage} {usage : VariableUsage}
      (enables : variation.featureEnabled = true)
      (split : variation.usages = before ++ usage :: after)
      (first : ∀ other ∈ before, other.id ≠ declared.id) (own : usage.id = declared.id) :
      RawText declared (some variation) usage.value
  | default {variation : Option Variation}
      (unused : ∀ enabling, variation = some enabling → enabling.featureEnabled = true →
        ∀ usage ∈ enabling.usages, usage.id ≠ declared.id) :
      RawText declared variation declared.defaultValue

theorem rawText_rawValue (declared : FlagVariable) (variation : Option Variation) :
    declared.RawText variation (declared.rawValue variation) := by
  rw [rawValue_eq]
  cases found : (countedUsages variation).find? (·.id = declared.id) with
  | some usage =>
      obtain ⟨own, before, after, split, first⟩ := List.find?_eq_some_iff_append.mp found
      cases variation with
      | none => cases before <;> cases split
      | some variation =>
          by_cases enables : variation.featureEnabled = true
          · rw [countedUsages, if_pos enables] at split
            exact .used enables split (by simpa using first) (by simpa using own)
          · rw [countedUsages, if_neg enables] at split
            cases before <;> cases split
  | none =>
      refine .default ?_
      rintro enabling rfl enables
      rw [countedUsages, if_pos enables] at found
      simpa using found

/-- The value of a variable: what its text stands for, or null for a text that is not valid. -/
inductive ValueOf (declared : FlagVariable) (raw : String) : Json → Prop
  | valid {value : Json} (denotes : declared.Denotes raw value) : ValueOf declared raw value
  | invalid (nothing : ∀ value, ¬ declared.Denotes raw value) : ValueOf declared raw .null

theorem valueOf_value (declared : FlagVariable) (variation : Option Variation) :
    declared.ValueOf (declared.rawValue variation) (declared.value variation).value := by
  rw [value]
  split
  · rename_i found
    exact .valid (typedValue?_eq_some_iff.mp found)
  · rename_i nothing
    refine .invalid fun value denotes => ?_
    cases nothing.symm.trans (typedValue?_eq_some_iff.mpr denotes)

/-- A valid text has the value that it stands for, and no other. -/
theorem ValueOf.eq_of_denotes {declared : FlagVariable} {raw : String} {value value' : Json}
    (valueOf : declared.ValueOf raw value) (denotes : declared.Denotes raw value') :
    value = value' := by
  cases valueOf with
  | valid denotes' =>
      exact Option.some.inj ((typedValue?_eq_some_iff.mpr denotes').symm.trans
        (typedValue?_eq_some_iff.mpr denotes))
  | invalid nothing => exact absurd denotes (nothing value')

theorem ValueOf.null_or_hasType {declared : FlagVariable} {raw : String} {value : Json}
    (valueOf : declared.ValueOf raw value) : value = .null ∨ declared.HasType value := by
  cases valueOf with
  | valid denotes => exact .inr denotes.hasType
  | invalid _ => exact .inl rfl

end FlagVariable

namespace Flag

/-- The usages that show: of those that count, those of variables that the flag declares. -/
def shownUsages (flag : Flag) (variation : Option Variation) : List VariableUsage :=
  (FlagVariable.countedUsages variation).filter fun usage =>
    flag.declaredVariables.any (·.id = usage.id)

/-- The text of a declared variable is among what shows. -/
theorem rawValue_eq_of_shown {flag : Flag} {declared : FlagVariable}
    (member : declared ∈ flag.declaredVariables) (variation : Option Variation) :
    declared.rawValue variation = (((flag.shownUsages variation).find? (·.id = declared.id)).map
      (·.value)).getD declared.defaultValue := by
  have shows (usage : VariableUsage) :
      (flag.declaredVariables.any (·.id = usage.id) = true ∧
        decide (usage.id = declared.id) = true) ↔ usage.id = declared.id := by
    rw [decide_eq_true_eq]
    refine and_iff_right_of_imp fun same => ?_
    exact List.any_eq_true.mpr ⟨declared, member, decide_eq_true same.symm⟩
  simp only [FlagVariable.rawValue_eq, shownUsages, List.find?_filter, shows]

theorem value_keyedValues (variation : Option Variation) (listed : List FlagVariable) :
    (keyedValues variation listed).value =
      listed.map fun declared => (declared.key, (declared.value variation).value) := by
  induction listed with
  | nil => rfl
  | cons first rest ih => simp [keyedValues, ih]

theorem value_variableValues (flag : Flag) (variation : Option Variation) :
    (flag.variableValues variation).value =
      Dict.ofPairs (flag.declaredVariables.map fun declared =>
        (declared.key, (declared.value variation).value)) := by
  rw [← value_keyedValues, variableValues]
  split <;> rfl

/-- Of variables with the same key the last one counts. -/
theorem getElem?_variableValues (flag : Flag) (variation : Option Variation) (key : String) :
    (flag.variableValues variation).value[key]? =
      (flag.declaredVariables.findRev? (·.key = key)).map fun declared =>
        (declared.value variation).value := by
  rw [value_variableValues, ← Dict.getElem?_index_eq]
  exact Dict.getElem?_ofPairs_map FlagVariable.key (fun declared => (declared.value variation).value)
    flag.declaredVariables key

/-- Two variations that show the same give the same values. -/
theorem variableValues_congr {flag : Flag} {variation variation' : Option Variation}
    (same : flag.shownUsages variation = flag.shownUsages variation') :
    (flag.variableValues variation).value = (flag.variableValues variation').value := by
  rw [value_variableValues, value_variableValues]
  refine congrArg Dict.ofPairs (List.map_congr_left fun declared member => ?_)
  have texts : declared.rawValue variation = declared.rawValue variation' := by
    rw [rawValue_eq_of_shown member, rawValue_eq_of_shown member, same]
  simp only [FlagVariable.value, texts]

/-- The values that a flag has for a variation: one for each declared key, of the type of the last
variable with that key. -/
structure Resolves (flag : Flag) (variation : Option Variation) (values : Dict Json) : Prop where
  keys : ∀ key : String, key ∈ values ↔ ∃ declared ∈ flag.declaredVariables, declared.key = key
  value : ∀ before declared after, flag.declaredVariables = before ++ declared :: after →
    (∀ later ∈ after, later.key ≠ declared.key) →
      ∃ raw value, values[declared.key]? = some value ∧ declared.RawText variation raw ∧
        declared.ValueOf raw value ∧ (value = .null ∨ declared.HasType value) ∧
        (declared.type ∉ FlagVariable.knownTypes → value = .null)

theorem resolves_variableValues (flag : Flag) (variation : Option Variation) :
    flag.Resolves variation (flag.variableValues variation).value where
  keys key := by
    rw [← Std.ExtTreeMap.isSome_getElem?_iff_mem, getElem?_variableValues, Option.isSome_map,
      List.findRev?_eq_find?_reverse]
    simp
  value before declared after split last := by
    have found : (flag.variableValues variation).value[declared.key]? =
        some (declared.value variation).value := by
      rw [getElem?_variableValues, Dict.findRev?_of_last split last]
      rfl
    have valueOf := declared.valueOf_value variation
    exact ⟨_, _, found, declared.rawText_rawValue variation, valueOf, valueOf.null_or_hasType,
      fun unknown => valueOf.null_or_hasType.resolve_right fun typed =>
        unknown typed.mem_knownTypes⟩

end Flag
end FeatureFlags
