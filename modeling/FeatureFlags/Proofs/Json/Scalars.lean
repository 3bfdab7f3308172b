import FeatureFlags.Proofs.Decimal.Writing
import FeatureFlags.Proofs.Json.Strings

/-!
The text of a value without parts tells the value and where it ends, if something follows that
cannot belong to a number.
-/

namespace FeatureFlags.Json

/-- A value without parts, with a double if it is a number. -/
inductive IsScalar : Json → Prop where
  | null : IsScalar .null
  | bool (value : Bool) : IsScalar (.bool value)
  | string (value : String) : IsScalar (.string value)
  | real (x : Float) : IsScalar (.number (.real x))

/-- The characters a value can begin with. -/
def Begins : Json → Char → Prop
  | .null, c => c = 'n'
  | .bool true, c => c = 't'
  | .bool false, c => c = 'f'
  | .string _, c => c = '"'
  | .number _, c => c = '-' ∨ c.isDigit = true
  | .array _, c => c = '['
  | .object _, c => c = '\x7b'

theorem IsScalar.begins {a : Json} (scalar : IsScalar a) :
    ∃ c rest, a.render.toList = c :: rest ∧ a.Begins c := by
  cases scalar with
  | null => exact ⟨'n', ['u', 'l', 'l'], rfl, rfl⟩
  | bool value =>
      cases value
      · exact ⟨'f', ['a', 'l', 's', 'e'], rfl, rfl⟩
      · exact ⟨'t', ['r', 'u', 'e'], rfl, rfl⟩
  | string value => exact ⟨'"', _, String.toList_ofList, rfl⟩
  | real x =>
      obtain ⟨⟨c, rest, begins, lead⟩, -⟩ := DecimalFormat.write_chars decimalFormat x
      exact ⟨c, rest, begins, lead⟩

/-- The first characters tell values of different kinds apart. -/
private theorem begins_same {a b : Json} (scalar : IsScalar a) (scalar' : IsScalar b)
    {rest rest' : List Char} (same : a.render.toList ++ rest = b.render.toList ++ rest') :
    ∃ c, a.Begins c ∧ b.Begins c := by
  obtain ⟨c, tail, text, begins⟩ := scalar.begins
  obtain ⟨c', tail', text', begins'⟩ := scalar'.begins
  rw [text, text'] at same
  obtain ⟨rfl, -⟩ := List.cons.inj same
  exact ⟨c, begins, begins'⟩

/-- The text of a value tells the value, and the mark behind it. -/
theorem render_append_inj {a b : Json} (scalar : IsScalar a) (scalar' : IsScalar b)
    {mark mark' : Char} {rest rest' : List Char} (outside : ¬ IsNumberChar mark)
    (outside' : ¬ IsNumberChar mark')
    (same : a.render.toList ++ mark :: rest = b.render.toList ++ mark' :: rest') :
    a = b ∧ mark = mark' ∧ rest = rest' := by
  obtain ⟨c, begins, begins'⟩ := begins_same scalar scalar' same
  cases scalar with
  | null =>
      cases scalar' with
      | null => exact ⟨rfl, List.cons.inj (List.append_cancel_left same)⟩
      | bool value => cases value <;> simp_all [Begins]
      | string _ | real _ => simp_all [Begins]
  | bool value =>
      cases scalar' with
      | null => cases value <;> simp_all [Begins]
      | bool value' =>
          have values : value = value' := by cases value <;> cases value' <;> simp_all [Begins]
          subst values
          exact ⟨rfl, List.cons.inj (List.append_cancel_left same)⟩
      | string _ | real _ => cases value <;> simp_all [Begins]
  | string text =>
      cases scalar' with
      | null | real _ => simp_all [Begins]
      | bool value => cases value <;> simp_all [Begins]
      | string text' =>
          obtain ⟨texts, marked⟩ := renderString_append_inj same
          exact ⟨congrArg string texts, List.cons.inj marked⟩
  | real x =>
      cases scalar' with
      | null | string _ => simp_all [Begins]
      | bool value => cases value <;> simp_all [Begins]
      | real y =>
          obtain ⟨texts, marked⟩ := Text.append_cons_inj IsNumberChar
            (DecimalFormat.write_chars decimalFormat x).2
            (DecimalFormat.write_chars decimalFormat y).2 outside outside' same
          cases DecimalFormat.write_inj (String.toList_inj.mp texts)
          exact ⟨rfl, marked⟩

end FeatureFlags.Json
