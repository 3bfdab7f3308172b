import FeatureFlags.Decimal.Reading

/-!
Whole numbers by their digits. Digits without leading zeros are the ones that the number they stand
for is written with.
-/

namespace FeatureFlags

/-- Digits that no zero stands in front of, unless it is all there is. -/
structure IsNumeral (digits : List Char) : Prop where
  nonempty : digits ≠ []
  isDigit : ∀ c ∈ digits, c.isDigit = true
  leading : digits.head? = some '0' → digits = ['0']

theorem leading_iff {digits : List Char} :
    (digits.head? = some '0' → digits = ['0']) ↔ ∀ c rest, digits ≠ '0' :: c :: rest := by
  constructor
  · rintro leading c rest rfl
    cases leading rfl
  · intro single zero
    obtain ⟨rest, rfl⟩ := List.head?_eq_some_iff.mp zero
    cases rest with
    | nil => rfl
    | cons c rest => exact absurd rfl (single c rest)

theorem ofDigits_concat (digits : List Char) (c : Char) :
    ofDigits (digits ++ [c]) = ofDigits digits * 10 + digitValue c := by
  simp [ofDigits, List.foldl_append]

theorem ofDigits_le_append (digits more : List Char) :
    ofDigits digits ≤ ofDigits (digits ++ more) := by
  induction more generalizing digits with
  | nil => simp
  | cons c more ih =>
      calc ofDigits digits ≤ ofDigits (digits ++ [c]) := by rw [ofDigits_concat]; omega
        _ ≤ ofDigits (digits ++ [c] ++ more) := ih (digits ++ [c])
        _ = ofDigits (digits ++ c :: more) := by simp

theorem digitValue_lt {c : Char} (digit : c.isDigit = true) : digitValue c < 10 := by
  have range : '0'.toNat ≤ c.toNat ∧ c.toNat ≤ '9'.toNat := Char.isDigit_iff_toNat.mp digit
  have zero : '0'.toNat = 48 := rfl
  have nine : '9'.toNat = 57 := rfl
  simp only [digitValue]
  omega

theorem digitChar_digitValue {c : Char} (digit : c.isDigit = true) :
    Nat.digitChar (digitValue c) = c := by
  have range : '0'.toNat ≤ c.toNat ∧ c.toNat ≤ '9'.toNat := Char.isDigit_iff_toNat.mp digit
  have zero : '0'.toNat = 48 := rfl
  apply Char.toNat_inj.mp
  rw [Nat.toNat_digitChar_of_lt_ten (digitValue_lt digit), digitValue]
  omega

theorem toDigits_digitValue {c : Char} (digit : c.isDigit = true) :
    Nat.toDigits 10 (digitValue c) = [c] := by
  rw [Nat.toDigits_of_lt_base (digitValue_lt digit), digitChar_digitValue digit]

/-- More digits behind those of a positive number. -/
theorem toDigits_append {digits : List Char} (isDigit : ∀ c ∈ digits, c.isDigit = true) {n : Nat}
    (positive : 0 < n) :
    Nat.toDigits 10 n ++ digits =
      Nat.toDigits 10 (digits.foldl (fun n c => n * 10 + digitValue c) n) := by
  induction digits generalizing n with
  | nil => simp
  | cons c digits ih =>
      obtain ⟨digit, rest⟩ := List.forall_mem_cons.mp isDigit
      rw [List.foldl_cons, ← ih rest (by omega), Nat.mul_comm n,
        ← Nat.toDigits_append_toDigits (by decide) positive (digitValue_lt digit),
        toDigits_digitValue digit, List.append_assoc, List.singleton_append]

theorem IsNumeral.toDigits_ofDigits {digits : List Char} (numeral : IsNumeral digits) :
    Nat.toDigits 10 (ofDigits digits) = digits := by
  cases digits with
  | nil => exact absurd rfl numeral.nonempty
  | cons c rest =>
      obtain ⟨digit, more⟩ := List.forall_mem_cons.mp numeral.isDigit
      rw [ofDigits, List.foldl_cons, Nat.zero_mul, Nat.zero_add]
      by_cases zero : c = '0'
      · have alone : rest = [] := (List.cons.inj (numeral.leading (by rw [zero]; rfl))).2
        rw [alone, List.foldl_nil, toDigits_digitValue digit]
      · have positive : 0 < digitValue c := by
          apply Nat.pos_of_ne_zero
          intro nothing
          apply zero
          rw [← digitChar_digitValue digit, nothing]
          rfl
        rw [← toDigits_append more positive, toDigits_digitValue digit, List.singleton_append]

end FeatureFlags
