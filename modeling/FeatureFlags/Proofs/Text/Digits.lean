/-!
The digits of a number tell the number, in every base up to sixteen.
-/

namespace FeatureFlags.Text

private def digitValue (c : Char) : Nat := (List.range 16).findIdx (Nat.digitChar · = c)

private theorem digitValue_digitChar : ∀ digit < 16, digitValue (Nat.digitChar digit) = digit := by
  decide

private def ofDigits (base : Nat) (digits : List Char) : Nat :=
  digits.foldl (fun n c => base * n + digitValue c) 0

section Base
variable {base : Nat} (positional : 1 < base) (few : base ≤ 16)
include positional few

private theorem ofDigits_toDigits (n : Nat) : ofDigits base (Nat.toDigits base n) = n := by
  induction n using Nat.base_induction base positional with
  | single m small =>
      rw [Nat.toDigits_of_lt_base small]
      simp [ofDigits, digitValue_digitChar m (by omega)]
  | digit m k small some ih =>
      rw [← Nat.toDigits_append_toDigits positional some small, Nat.toDigits_of_lt_base small]
      simp only [ofDigits, List.foldl_append] at ih ⊢
      simp [ih, digitValue_digitChar k (by omega)]

theorem toDigits_inj {m n : Nat} (same : Nat.toDigits base m = Nat.toDigits base n) : m = n := by
  rw [← ofDigits_toDigits positional few m, same, ofDigits_toDigits positional few]

end Base

theorem exists_digit_of_mem {base n : Nat} {c : Char} (positional : 1 < base)
    (member : c ∈ Nat.toDigits base n) : ∃ digit < base, c = Nat.digitChar digit := by
  induction n using Nat.base_induction base positional with
  | single m small =>
      rw [Nat.toDigits_of_lt_base small] at member
      exact ⟨m, small, List.mem_singleton.mp member⟩
  | digit m k small some ih =>
      rw [← Nat.toDigits_append_toDigits positional some small] at member
      rcases List.mem_append.mp member with front | last
      · exact ih front
      · rw [Nat.toDigits_of_lt_base small] at last
        exact ⟨k, small, List.mem_singleton.mp last⟩

end FeatureFlags.Text
