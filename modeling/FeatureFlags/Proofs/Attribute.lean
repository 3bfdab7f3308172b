import FeatureFlags.Attribute
import FeatureFlags.Proofs.Json.Objects

/-!
The JSON text of attributes tells every attribute with its value, but for numbers that are not
finite: they are written like a missing value.
-/

namespace FeatureFlags
namespace AttributeValue

/-- What the text of the value tells. -/
def legible : AttributeValue → AttributeValue
  | .number x => if x.isFinite then .number x else .null
  | value => value

theorem toJson_isScalar (value : AttributeValue) : value.toJson.IsScalar := by
  cases value with
  | number x =>
      change (Json.ofFloat x).IsScalar
      unfold Json.ofFloat
      split
      · exact .real x
      · exact .null
  | string text => exact .string text
  | boolean value => exact .bool value
  | null => exact .null

/-- Reading a value back gives what its text tells. -/
theorem ofJson?_toJson (value : AttributeValue) : ofJson? value.toJson = some value.legible := by
  cases value with
  | number x =>
      change ofJson? (Json.ofFloat x) = some (if x.isFinite then .number x else .null)
      unfold Json.ofFloat
      split <;> rfl
  | string _ | boolean _ | null => rfl

end AttributeValue

namespace Attributes

/-- The same attributes with the same values, as far as their text tells them. -/
def Alike (first second : Attributes) : Prop :=
  ∀ key : String,
    (first[key]?).map AttributeValue.legible = (second[key]?).map AttributeValue.legible

private theorem mem_members {attributes : Attributes} {key : String} {value : Json} :
    (key, value) ∈ attributes.toList.map (fun (key, value) => (key, value.toJson)) ↔
      (attributes[key]?).map AttributeValue.toJson = some value := by
  simp only [List.mem_map, Prod.exists, Prod.mk.injEq, Option.map_eq_some_iff,
    ← Std.ExtTreeMap.mem_toList_iff_getElem?_eq_some]
  constructor
  · rintro ⟨_, own, member, rfl, same⟩
    exact ⟨own, member, same⟩
  · rintro ⟨own, member, same⟩
    exact ⟨key, own, member, rfl, same⟩

/-- Attributes that are written alike are alike. -/
theorem alike_of_render {first second : Attributes}
    (same : first.toJson.render = second.toJson.render) : first.Alike second := by
  have scalars (attributes : Attributes) :
      ∀ member ∈ attributes.toList.map (fun (key, value) => (key, value.toJson)),
        Json.IsScalar member.2 := by
    intro member listed
    obtain ⟨⟨key, value⟩, -, rfl⟩ := List.mem_map.mp listed
    exact value.toJson_isScalar
  have members := Json.render_object_inj (scalars first) (scalars second) same
  intro key
  have values :
      (first[key]?).map AttributeValue.toJson = (second[key]?).map AttributeValue.toJson := by
    apply Option.ext
    intro value
    rw [← mem_members, ← mem_members, members]
  have read := congrArg (·.bind AttributeValue.ofJson?) values
  simp only [Option.bind_map, Function.comp_def, AttributeValue.ofJson?_toJson] at read
  simpa only [Option.map_eq_bind, Function.comp_def] using read

end Attributes
end FeatureFlags
