import FeatureFlags.Proofs.Decimal.Layout

/-!
No two doubles are written alike, whatever the format: the text tells the sign and the shortest
decimal, and the decimal rounds to one magnitude only.
-/

namespace FeatureFlags

/-- The characters of numbers. -/
def IsNumberChar (c : Char) : Prop := c.isDigit = true ∨ c = '.' ∨ c = 'e' ∨ c = '+' ∨ c = '-'

instance (c : Char) : Decidable (IsNumberChar c) :=
  inferInstanceAs (Decidable (c.isDigit = true ∨ c = '.' ∨ c = 'e' ∨ c = '+' ∨ c = '-'))

namespace DecimalFormat
open Double Decimal

def decimalText (format : DecimalFormat) (d : Decimal) : List Char :=
  if format.positional d.exponent then d.positionalText else d.scientificText

def magnitudeText (format : DecimalFormat) (x : Float) : List Char :=
  if x == 0 then ['0', '.', '0'] else format.decimalText (shortest x)

theorem toList_write (format : DecimalFormat) (x : Float) :
    (format.write x).toList =
      if IsNegative x then '-' :: format.magnitudeText x else format.magnitudeText x := by
  unfold write IsNegative
  rw [String.toList_ofList]
  rfl

section DecimalText
variable {format : DecimalFormat} {d d' : Decimal}

/-- Positional text is made of digits and a point, scientific text has a mark. -/
private theorem decimalText_cases (format : DecimalFormat) (normal : d.IsNormal) :
    (format.decimalText d = d.positionalText ∧
      ∀ c ∈ d.positionalText, c.isDigit = true ∨ c = '.') ∨
    (format.decimalText d = d.scientificText ∧ 'e' ∈ d.scientificText) := by
  unfold decimalText
  split
  · refine .inl ⟨rfl, fun c member => ?_⟩
    rw [positionalText_eq] at member
    rcases List.mem_append.mp member with whole | behind
    · exact .inl (normal.wholePart_digits c whole)
    · rcases List.mem_cons.mp behind with point | fraction
      · exact .inr point
      · exact .inl (normal.fractionPart_digits c fraction)
  · refine .inr ⟨rfl, ?_⟩
    rw [scientificText_eq]
    exact List.mem_append_right _ List.mem_cons_self

theorem decimalText_inj (normal : d.IsNormal) (normal' : d'.IsNormal)
    (same : format.decimalText d = format.decimalText d') : d = d' := by
  rcases decimalText_cases format normal with ⟨text, chars⟩ | ⟨text, mark⟩ <;>
    rcases decimalText_cases format normal' with ⟨text', chars'⟩ | ⟨text', mark'⟩ <;>
    rw [text, text'] at same
  · exact positionalText_inj normal normal' same
  · exact absurd (chars _ (same ▸ mark')) (by decide)
  · exact absurd (chars' _ (same ▸ mark)) (by decide)
  · exact scientificText_inj normal normal' same

theorem decimalText_chars (normal : d.IsNormal) : ∀ c ∈ format.decimalText d, IsNumberChar c := by
  intro c member
  rcases decimalText_cases format normal with ⟨text, chars⟩ | ⟨text, -⟩
  · rw [text] at member
    rcases chars c member with digit | point
    · exact .inl digit
    · exact .inr (.inl point)
  · rw [text, scientificText_eq] at member
    rcases List.mem_append.mp member with front | behind
    · rcases normal.mantissa_chars c front with digit | point
      · exact .inl digit
      · exact .inr (.inl point)
    · rcases List.mem_cons.mp behind with mark | exponent
      · exact .inr (.inr (.inl mark))
      · rcases List.mem_cons.mp exponent with sign | digit
        · split at sign
          · exact .inr (.inr (.inr (.inr sign)))
          · exact .inr (.inr (.inr (.inl sign)))
        · exact .inl (Nat.isDigit_of_mem_toDigits (by decide) (by decide) digit)

/-- Text begins with a digit, and one of its digits is not zero. -/
theorem decimalText_digits (format : DecimalFormat) (normal : d.IsNormal) :
    (∃ c rest, format.decimalText d = c :: rest ∧ c.isDigit = true) ∧
      ∃ c ∈ format.decimalText d, c.isDigit = true ∧ c ≠ '0' := by
  obtain ⟨c, rest, digits, nonzero⟩ := normal.leading
  have digit : c.isDigit = true := normal.digits c (digits ▸ List.mem_cons_self)
  unfold decimalText
  split
  · rw [positionalText_eq]
    by_cases small : d.exponent < 0
    · refine ⟨⟨'0', _, by rw [wholePart, if_pos small]; rfl, by decide⟩, c, ?_, digit, nonzero⟩
      rw [fractionPart, if_pos small, digits]
      simp
    · have begins : d.wholePart = c :: (rest.take d.exponent.toNat ++
          List.replicate (d.exponent.toNat + 1 - d.digits.length) '0') := by
        rw [wholePart, if_neg small, digits]
        rfl
      rw [begins]
      exact ⟨⟨c, _, rfl, digit⟩, c, List.mem_cons_self, digit, nonzero⟩
  · have begins : d.mantissa = c :: (if rest.isEmpty then [] else '.' :: rest) := by
      rw [mantissa, digits]
      rfl
    rw [scientificText_eq, begins]
    exact ⟨⟨c, _, rfl, digit⟩, c, List.mem_cons_self, digit, nonzero⟩

end DecimalText

section Write
variable {format : DecimalFormat} {x y : Float}

/-- The text of a double other than zero is that of a decimal that rounds to it. -/
theorem exists_decimal (format : DecimalFormat) (nonzero : ¬ (x == 0) = true) :
    ∃ d : Decimal, d.IsNormal ∧ Rounds (magnitude x) d.value ∧
      format.magnitudeText x = format.decimalText d := by
  obtain ⟨c, place, positive, shortest, rounds⟩ :=
    exists_shortest (fun zero => nonzero ((beq_zero_iff x).mpr zero))
  obtain ⟨normal, value⟩ := ofCoefficient_isNormal positive place
  refine ⟨ofCoefficient c place, normal, value ▸ rounds, ?_⟩
  rw [magnitudeText, if_neg nonzero, shortest]

private theorem magnitudeText_ne (zero : (x == 0) = true) (nonzero : ¬ (y == 0) = true) :
    format.magnitudeText x ≠ format.magnitudeText y := by
  intro same
  obtain ⟨d, normal, -, text⟩ := exists_decimal format nonzero
  obtain ⟨-, c, member, digit, significant⟩ := decimalText_digits format normal
  rw [← text, ← same, magnitudeText, if_pos zero] at member
  simp only [List.mem_cons, List.not_mem_nil, or_false] at member
  rcases member with rfl | rfl | rfl
  · exact significant rfl
  · cases digit
  · exact significant rfl

theorem magnitudeText_inj (same : format.magnitudeText x = format.magnitudeText y) :
    magnitude x = magnitude y := by
  by_cases zero : (x == 0) = true <;> by_cases zero' : (y == 0) = true
  · rw [(beq_zero_iff x).mp zero, (beq_zero_iff y).mp zero']
  · exact absurd same (magnitudeText_ne zero zero')
  · exact absurd same.symm (magnitudeText_ne zero' zero)
  · obtain ⟨d, normal, rounds, text⟩ := exists_decimal format zero
    obtain ⟨d', normal', rounds', text'⟩ := exists_decimal format zero'
    rw [text, text'] at same
    cases decimalText_inj normal normal' same
    exact rounds.unique rounds'

theorem magnitudeText_chars : (∃ c rest, format.magnitudeText x = c :: rest ∧ c.isDigit = true) ∧
    ∀ c ∈ format.magnitudeText x, IsNumberChar c := by
  by_cases zero : (x == 0) = true
  · rw [magnitudeText, if_pos zero]
    refine ⟨⟨'0', _, rfl, by decide⟩, fun c member => ?_⟩
    simp only [List.mem_cons, List.not_mem_nil, or_false] at member
    rcases member with rfl | rfl | rfl
    · exact .inl (by decide)
    · exact .inr (.inl rfl)
    · exact .inl (by decide)
  · obtain ⟨d, normal, -, text⟩ := exists_decimal format zero
    rw [text]
    exact ⟨(decimalText_digits format normal).1, decimalText_chars normal⟩

/-- The text of a double tells the double, zeros of either sign included. -/
theorem write_inj (same : format.write x = format.write y) : x = y := by
  have lists := congrArg String.toList same
  rw [toList_write, toList_write] at lists
  obtain ⟨⟨c, rest, begins, digit⟩, -⟩ := @magnitudeText_chars format x
  obtain ⟨⟨c', rest', begins', digit'⟩, -⟩ := @magnitudeText_chars format y
  by_cases negative : IsNegative x <;> by_cases negative' : IsNegative y <;>
    simp only [negative, negative', if_true, if_false] at lists
  · exact eq_of_magnitude (by simp [negative, negative'])
      (magnitudeText_inj (List.cons.inj lists).2)
  · rw [begins'] at lists
    rw [← (List.cons.inj lists).1] at digit'
    cases digit'
  · rw [begins] at lists
    rw [(List.cons.inj lists).1] at digit
    cases digit
  · exact eq_of_magnitude (by simp [negative, negative']) (magnitudeText_inj lists)

/-- The text of a double begins with a minus sign or a digit. -/
theorem write_chars (format : DecimalFormat) (x : Float) :
    (∃ c rest, (format.write x).toList = c :: rest ∧ (c = '-' ∨ c.isDigit = true)) ∧
      ∀ c ∈ (format.write x).toList, IsNumberChar c := by
  obtain ⟨⟨c, rest, begins, digit⟩, chars⟩ := @magnitudeText_chars format x
  rw [toList_write]
  split
  · refine ⟨⟨'-', _, rfl, .inl rfl⟩, fun c member => ?_⟩
    rcases List.mem_cons.mp member with sign | other
    · exact .inr (.inr (.inr (.inr sign)))
    · exact chars c other
  · exact ⟨⟨c, rest, begins, .inr digit⟩, chars⟩

end Write
end DecimalFormat
end FeatureFlags
