import FeatureFlags.Proofs.Decimal.Shortest
import FeatureFlags.Proofs.Text.Digits
import FeatureFlags.Proofs.Text.Splitting

/-!
Decimal text tells the double it stands for. A decimal without zeros at its ends can be read off its
text, whether it is written positionally or not, and no two doubles have the same shortest decimal.
-/

namespace FeatureFlags
namespace Decimal

/-- Digits that neither begin nor end with a zero. -/
structure IsNormal (d : Decimal) : Prop where
  digits : ∀ c ∈ d.digits, c.isDigit = true
  leading : ∃ c rest, d.digits = c :: rest ∧ c ≠ '0'
  trailing : ∃ c rest, d.digits = rest ++ [c] ∧ c ≠ '0'

def value (d : Decimal) : ℚ :=
  Nat.ofDigitChars 10 d.digits 0 * 10 ^ (d.exponent - d.digits.length + 1)

private theorem eq_of_parts {d d' : Decimal} (digits : d.digits = d'.digits)
    (exponents : d.exponent = d'.exponent) : d = d' := by
  cases d
  cases d'
  cases digits
  cases exponents
  rfl

section Coefficient

private theorem leading_toDigits {c : Nat} (positive : 0 < c) :
    ∃ d rest, Nat.toDigits 10 c = d :: rest ∧ d ≠ '0' := by
  induction c using Nat.base_induction 10 (by decide) with
  | single m small =>
      rw [Nat.toDigits_of_lt_base small]
      exact ⟨_, [], rfl, by simpa using positive.ne'⟩
  | digit m k small some ih =>
      obtain ⟨d, rest, digits, nonzero⟩ := ih some
      rw [← Nat.toDigits_append_toDigits (by decide) some small, digits]
      exact ⟨d, rest ++ Nat.toDigits 10 k, rfl, nonzero⟩

/-- The zeros at the end of some digits. -/
private theorem exists_zeros (digits : List Char) : ∃ zeros,
    digits = (digits.reverse.dropWhile (· = '0')).reverse ++ List.replicate zeros '0' := by
  have zeros : digits.reverse.takeWhile (· = '0') =
      List.replicate (digits.reverse.takeWhile (· = '0')).length '0' := by
    apply List.eq_replicate_of_mem
    intro c member
    simpa using List.all_eq_true.mp List.all_takeWhile c member
  refine ⟨(digits.reverse.takeWhile (· = '0')).length, ?_⟩
  rw [← List.reverse_replicate, ← zeros, ← List.reverse_append, List.takeWhile_append_dropWhile,
    List.reverse_reverse]

private theorem trailing_stripped {digits : List Char}
    (some : (digits.reverse.dropWhile (· = '0')).reverse ≠ []) :
    ∃ c rest, (digits.reverse.dropWhile (· = '0')).reverse = rest ++ [c] ∧ c ≠ '0' := by
  have last := List.head?_dropWhile_not (· = '0') digits.reverse
  cases stripped : digits.reverse.dropWhile (· = '0') with
  | nil => simp [stripped] at some
  | cons c rest =>
      rw [stripped] at last
      exact ⟨c, rest.reverse, List.reverse_cons, by simpa using last⟩

/-- A whole number of units of `10 ^ place`, with its digits at their places. -/
theorem ofCoefficient_isNormal {c : Nat} (positive : 0 < c) (place : Int) :
    (ofCoefficient c place).IsNormal ∧ (ofCoefficient c place).value = c * 10 ^ place := by
  obtain ⟨d, rest, digits, nonzero⟩ := leading_toDigits positive
  obtain ⟨zeros, split⟩ := exists_zeros (Nat.toDigits 10 c)
  simp only [ofCoefficient]
  have last := @trailing_stripped (Nat.toDigits 10 c)
  generalize ((Nat.toDigits 10 c).reverse.dropWhile (· = '0')).reverse = stripped at *
  have begins : ∃ rest, stripped = d :: rest := by
    cases stripped with
    | nil =>
        have member : d ∈ List.replicate zeros '0' := by
          rw [← List.nil_append (List.replicate _ _), ← split, digits]
          exact List.mem_cons_self
        exact absurd (List.eq_of_mem_replicate member) nonzero
    | cons d' rest' =>
        rw [digits, List.cons_append] at split
        exact ⟨rest', by rw [(List.cons.inj split).1]⟩
  obtain ⟨rest', begins⟩ := begins
  refine ⟨⟨fun digit member => ?_, ⟨d, rest', begins, nonzero⟩, last (by simp [begins])⟩, ?_⟩
  · apply Nat.isDigit_of_mem_toDigits (b := 10) (n := c) (by decide) (by decide)
    rw [split]
    exact List.mem_append_left _ member
  · have coefficient : c = 10 ^ zeros * Nat.ofDigitChars 10 stripped 0 := by
      rw [← Nat.ofDigitChars_replicate_zero, ← Nat.ofDigitChars_append, ← split,
        Nat.ofDigitChars_ten_toDigits]
    have places : (Nat.toDigits 10 c).length = stripped.length + zeros := by
      rw [split]
      simp
    have exponent : place + (Nat.toDigits 10 c).length - 1 - stripped.length + 1 =
        zeros + place := by
      rw [places]
      push_cast
      ring
    rw [value, exponent, zpow_add₀ (by norm_num), zpow_natCast]
    nth_rewrite 2 [coefficient]
    push_cast
    ring

end Coefficient

section Positional

/-- The digits before the point. -/
def wholePart (d : Decimal) : List Char :=
  if d.exponent < 0 then ['0']
  else d.digits.take (d.exponent.toNat + 1) ++
    List.replicate (d.exponent.toNat + 1 - d.digits.length) '0'

/-- The digits behind the point. -/
def fractionPart (d : Decimal) : List Char :=
  if d.exponent < 0 then List.replicate (d.exponent.natAbs - 1) '0' ++ d.digits
  else if (d.digits.drop (d.exponent.toNat + 1)).isEmpty then ['0']
  else d.digits.drop (d.exponent.toNat + 1)

theorem positionalText_eq (d : Decimal) :
    d.positionalText = d.wholePart ++ '.' :: d.fractionPart := by
  unfold positionalText wholePart fractionPart
  split <;> rfl

variable {d d' : Decimal}

theorem IsNormal.wholePart_digits (normal : d.IsNormal) : ∀ c ∈ d.wholePart, c.isDigit = true := by
  intro c member
  unfold wholePart at member
  split at member
  · cases List.mem_singleton.mp member
    decide
  · rcases List.mem_append.mp member with own | zero
    · exact normal.digits c (List.mem_of_mem_take own)
    · cases List.eq_of_mem_replicate zero
      decide

theorem IsNormal.fractionPart_digits (normal : d.IsNormal) :
    ∀ c ∈ d.fractionPart, c.isDigit = true := by
  intro c member
  unfold fractionPart at member
  split at member
  · rcases List.mem_append.mp member with zero | own
    · cases List.eq_of_mem_replicate zero
      decide
    · exact normal.digits c own
  · split at member
    · cases List.mem_singleton.mp member
      decide
    · exact normal.digits c (List.mem_of_mem_drop member)

/-- Before the point of a number that is at least one stand as many digits as its exponent says,
and no zero comes first. -/
private theorem IsNormal.wholePart_of_nonneg (normal : d.IsNormal) (whole : ¬ d.exponent < 0) :
    d.wholePart.length = d.exponent.toNat + 1 ∧ ∃ c rest, d.wholePart = c :: rest ∧ c ≠ '0' := by
  obtain ⟨c, rest, digits, nonzero⟩ := normal.leading
  rw [wholePart, if_neg whole]
  constructor
  · rw [List.length_append, List.length_take, List.length_replicate]
    omega
  · rw [digits, List.take_succ_cons, List.cons_append]
    exact ⟨c, _, rfl, nonzero⟩

private theorem parts_of_nonneg (whole : ¬ d.exponent < 0) :
    ∃ zeros, d.wholePart ++ d.fractionPart = d.digits ++ List.replicate zeros '0' := by
  rw [wholePart, fractionPart, if_neg whole, if_neg whole]
  split
  · next short =>
      have short : d.digits.length ≤ d.exponent.toNat + 1 := by simpa using short
      refine ⟨d.exponent.toNat + 1 - d.digits.length + 1, ?_⟩
      rw [List.take_of_length_le short, List.append_assoc, List.replicate_succ']
  · next long =>
      have long : d.exponent.toNat + 1 < d.digits.length := by simpa using long
      have unfilled : d.exponent.toNat + 1 - d.digits.length = 0 := by omega
      exact ⟨0, by simp [unfilled]⟩

/-- Digits that do not end with a zero are told by what they are filled up to. -/
private theorem digits_eq_of_filled {zeros zeros' : Nat} (normal : d.IsNormal)
    (normal' : d'.IsNormal) (same : d.digits ++ List.replicate zeros '0' =
      d'.digits ++ List.replicate zeros' '0') : d.digits = d'.digits := by
  obtain ⟨c, rest, digits, nonzero⟩ := normal.trailing
  obtain ⟨c', rest', digits', nonzero'⟩ := normal'.trailing
  have reversed := congrArg List.reverse same
  simp only [digits, digits', List.reverse_append, List.reverse_replicate, List.reverse_singleton,
    List.singleton_append] at reversed
  obtain ⟨-, last, front⟩ := Text.append_cons_inj (· = '0')
    (fun _ => List.eq_of_mem_replicate) (fun _ => List.eq_of_mem_replicate) nonzero nonzero' reversed
  rw [digits, digits', last, List.reverse_inj.mp front]

private theorem eq_of_small (normal : d.IsNormal) (normal' : d'.IsNormal) (small : d.exponent < 0)
    (small' : d'.exponent < 0) (same : d.fractionPart = d'.fractionPart) : d = d' := by
  obtain ⟨c, rest, digits, nonzero⟩ := normal.leading
  obtain ⟨c', rest', digits', nonzero'⟩ := normal'.leading
  rw [fractionPart, fractionPart, if_pos small, if_pos small', digits, digits'] at same
  obtain ⟨zeros, first, others⟩ := Text.append_cons_inj (· = '0')
    (fun _ => List.eq_of_mem_replicate) (fun _ => List.eq_of_mem_replicate) nonzero nonzero' same
  have places := congrArg List.length zeros
  rw [List.length_replicate, List.length_replicate] at places
  have exponents : d.exponent = d'.exponent := by omega
  have digits : d.digits = d'.digits := by rw [digits, digits', first, others]
  exact eq_of_parts digits exponents

private theorem eq_of_whole (normal : d.IsNormal) (normal' : d'.IsNormal)
    (whole : ¬ d.exponent < 0) (whole' : ¬ d'.exponent < 0) (same : d.wholePart = d'.wholePart)
    (sameFraction : d.fractionPart = d'.fractionPart) : d = d' := by
  have length := (normal.wholePart_of_nonneg whole).1
  have length' := (normal'.wholePart_of_nonneg whole').1
  rw [same] at length
  have exponents : d.exponent = d'.exponent := by omega
  obtain ⟨zeros, filled⟩ := parts_of_nonneg whole
  obtain ⟨zeros', filled'⟩ := parts_of_nonneg whole'
  rw [same, sameFraction, filled'] at filled
  exact eq_of_parts (digits_eq_of_filled normal' normal filled).symm exponents

private theorem wholePart_ne (normal : d.IsNormal) (whole : ¬ d.exponent < 0)
    (small : d'.exponent < 0) : d.wholePart ≠ d'.wholePart := by
  obtain ⟨-, c, rest, begins, nonzero⟩ := normal.wholePart_of_nonneg whole
  rw [begins, wholePart, if_pos small]
  exact fun same => nonzero (List.cons.inj same).1

/-- Positional text tells the number. -/
theorem positionalText_inj (normal : d.IsNormal) (normal' : d'.IsNormal)
    (same : d.positionalText = d'.positionalText) : d = d' := by
  rw [positionalText_eq, positionalText_eq] at same
  obtain ⟨wholes, -, fractions⟩ := Text.append_cons_inj (·.isDigit = true)
    normal.wholePart_digits normal'.wholePart_digits (by decide) (by decide) same
  by_cases small : d.exponent < 0 <;> by_cases small' : d'.exponent < 0
  · exact eq_of_small normal normal' small small' fractions
  · exact absurd wholes.symm (wholePart_ne normal' small' small)
  · exact absurd wholes (wholePart_ne normal small small')
  · exact eq_of_whole normal normal' small small' wholes fractions

end Positional

section Scientific
variable {d d' : Decimal}

/-- The digits, with a point behind the first one if there are others. -/
def mantissa (d : Decimal) : List Char :=
  d.digits.take 1 ++ (if (d.digits.drop 1).isEmpty then [] else '.' :: d.digits.drop 1)

theorem scientificText_eq (d : Decimal) :
    d.scientificText = d.mantissa ++
      'e' :: (if d.exponent < 0 then '-' else '+') :: Nat.toDigits 10 d.exponent.natAbs := rfl

theorem IsNormal.mantissa_chars (normal : d.IsNormal) :
    ∀ c ∈ d.mantissa, c.isDigit = true ∨ c = '.' := by
  intro c member
  rcases List.mem_append.mp member with first | others
  · exact .inl (normal.digits c (List.mem_of_mem_take first))
  · split at others
    · cases others
    · rcases List.mem_cons.mp others with point | other
      · exact .inr point
      · exact .inl (normal.digits c (List.mem_of_mem_drop other))

private theorem digits_eq_of_mantissa (normal : d.IsNormal) (normal' : d'.IsNormal)
    (same : d.mantissa = d'.mantissa) : d.digits = d'.digits := by
  obtain ⟨c, rest, digits, -⟩ := normal.leading
  obtain ⟨c', rest', digits', -⟩ := normal'.leading
  simp only [mantissa, digits, digits', List.take_succ_cons, List.take_zero, List.drop_succ_cons,
    List.drop_zero, List.singleton_append, List.cons.injEq] at same
  rw [digits, digits', same.1]
  cases rest <;> cases rest' <;> simp_all

/-- Scientific text tells the number. -/
theorem scientificText_inj (normal : d.IsNormal) (normal' : d'.IsNormal)
    (same : d.scientificText = d'.scientificText) : d = d' := by
  rw [scientificText_eq, scientificText_eq] at same
  obtain ⟨mantissas, -, exponents⟩ := Text.append_cons_inj (fun c => c.isDigit = true ∨ c = '.')
    normal.mantissa_chars normal'.mantissa_chars (by decide) (by decide) same
  have digits := digits_eq_of_mantissa normal normal' mantissas
  obtain ⟨signs, sizes⟩ := List.cons.inj exponents
  have size : d.exponent.natAbs = d'.exponent.natAbs :=
    Text.toDigits_inj (by decide) (by decide) sizes
  have exponent : d.exponent = d'.exponent := by
    split at signs <;> split at signs
    · omega
    · cases signs
    · cases signs
    · omega
  exact eq_of_parts digits exponent

end Scientific
end Decimal
end FeatureFlags
