import FeatureFlags.Decimal.Reading

/-!
Which texts are whole numbers. No blank is skipped, leading zeros do not matter, and a number that
does not fit into 64 bits is none.
-/

namespace FeatureFlags

/-- Digits behind an optional sign, with the number that they stand for. -/
def WritesInteger (text : String) (n : Int) : Prop :=
  ∃ digits : List Char, digits ≠ [] ∧ (∀ c ∈ digits, c.isDigit = true) ∧
    (text.toList = '-' :: digits ∧ n = -(ofDigits digits : Int) ∨
      (text.toList = '+' :: digits ∨ text.toList = digits) ∧ n = ofDigits digits)

theorem eq_of_spanSign {text digits : List Char} {negative : Bool}
    (sign : spanSign text = (negative, digits)) :
    if negative then text = '-' :: digits else text = '+' :: digits ∨ text = digits := by
  unfold spanSign at sign
  split at sign <;> cases sign <;> simp

theorem spanSign_of_head {text : List Char} (unsigned : ∀ c ∈ text.head?, c ≠ '-' ∧ c ≠ '+') :
    spanSign text = (false, text) := by
  unfold spanSign
  split
  · exact absurd rfl (unsigned '-' rfl).1
  · exact absurd rfl (unsigned '+' rfl).2
  · rfl

theorem ne_sign_of_isDigit {c : Char} (digit : c.isDigit = true) : c ≠ '-' ∧ c ≠ '+' := by
  constructor <;> (rintro rfl; cases digit)

theorem spanSign_of_digits {digits : List Char} (isDigit : ∀ c ∈ digits, c.isDigit = true) :
    spanSign digits = (false, digits) :=
  spanSign_of_head fun c first => ne_sign_of_isDigit (isDigit c (List.mem_of_mem_head? first))

theorem readInteger_of_sign {text : String} {digits : List Char} {negative : Bool}
    (sign : spanSign text.toList = (negative, digits)) {n : Int} :
    readInteger text = some n ↔ (digits ≠ [] ∧ (∀ c ∈ digits, c.isDigit = true) ∧
      n = if negative then -(ofDigits digits : Int) else ofDigits digits) ∧
      Int64.minValue.toInt ≤ n ∧ n ≤ Int64.maxValue.toInt := by
  simp only [readInteger, sign]
  rw [Option.ite_none_left_eq_some, Option.ite_none_right_eq_some, Option.some.injEq,
    Bool.or_eq_true, not_or, List.isEmpty_iff, Bool.not_eq_true', Bool.not_eq_false,
    List.all_eq_true]
  constructor
  · rintro ⟨⟨nonempty, isDigit⟩, range, rfl⟩
    exact ⟨⟨nonempty, isDigit, rfl⟩, range⟩
  · rintro ⟨⟨nonempty, isDigit, rfl⟩, range⟩
    exact ⟨⟨nonempty, isDigit⟩, range, rfl⟩

theorem writesInteger_iff_of_sign {text : String} {digits : List Char} {negative : Bool}
    (sign : spanSign text.toList = (negative, digits)) {n : Int} :
    WritesInteger text n ↔ digits ≠ [] ∧ (∀ c ∈ digits, c.isDigit = true) ∧
      n = if negative then -(ofDigits digits : Int) else ofDigits digits := by
  constructor
  · rintro ⟨digits', nonempty, isDigit, ⟨minus, signed⟩ | ⟨plus | plain, signed⟩⟩
    · rw [minus] at sign
      cases sign
      exact ⟨nonempty, isDigit, signed⟩
    · rw [plus] at sign
      cases sign
      exact ⟨nonempty, isDigit, signed⟩
    · rw [plain, spanSign_of_digits isDigit] at sign
      cases sign
      exact ⟨nonempty, isDigit, signed⟩
  · rintro ⟨nonempty, isDigit, signed⟩
    have split := eq_of_spanSign sign
    cases negative with
    | true => exact ⟨digits, nonempty, isDigit, .inl ⟨split, signed⟩⟩
    | false => exact ⟨digits, nonempty, isDigit, .inr ⟨split, signed⟩⟩

/-- Whole numbers are read from their digits, with a sign or without, if they fit into 64 bits. -/
theorem readInteger_eq_some_iff {text : String} {n : Int} :
    readInteger text = some n ↔
      WritesInteger text n ∧ Int64.minValue.toInt ≤ n ∧ n ≤ Int64.maxValue.toInt := by
  obtain ⟨negative, digits, sign⟩ : ∃ negative digits, spanSign text.toList = (negative, digits) :=
    ⟨_, _, rfl⟩
  rw [readInteger_of_sign sign, writesInteger_iff_of_sign sign]

end FeatureFlags
