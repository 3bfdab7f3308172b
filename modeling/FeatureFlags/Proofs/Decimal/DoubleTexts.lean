import FeatureFlags.Proofs.Decimal.NearestMagnitude
import FeatureFlags.Proofs.Decimal.Reading
import FeatureFlags.Proofs.Text.Readers

/-!
Which texts are doubles. Digits may have a point among them and an exponent behind them, and they
stand for the double that is nearest to the number they write. A number beyond all doubles is none,
and the names of infinity and of the undefined value are none either.
-/

namespace FeatureFlags
open Text

/-- An exponent mark with a whole number, or nothing at all. -/
inductive WritesExponent : List Char → Int → Prop
  | none : WritesExponent [] 0
  | marked {mark : Char} {text : List Char} {exponent : Int} (isMark : mark = 'e' ∨ mark = 'E')
      (written : WritesInteger (String.ofList text) exponent) :
      WritesExponent (mark :: text) exponent

/-- Digits, as a coefficient and a power of ten. The digits behind a point lower the power. -/
inductive WritesDecimal : List Char → Nat → Int → Prop
  | whole {digits rest : List Char} {exponent : Int} (nonempty : digits ≠ [])
      (isDigit : ∀ c ∈ digits, c.isDigit = true) (written : WritesExponent rest exponent) :
      WritesDecimal (digits ++ rest) (ofDigits digits) exponent
  | point {whole fraction rest : List Char} {exponent : Int} (nonempty : whole ++ fraction ≠ [])
      (isDigit : ∀ c ∈ whole ++ fraction, c.isDigit = true)
      (written : WritesExponent rest exponent) :
      WritesDecimal (whole ++ '.' :: (fraction ++ rest)) (ofDigits (whole ++ fraction))
        (exponent - fraction.length)

/-- A decimal behind an optional sign, with the double nearest to it. -/
def WritesDouble (text : String) (x : Float) : Prop :=
  ∃ negative digits coefficient exponent,
    (text.toList = '-' :: digits ∧ negative = true ∨
      (text.toList = '+' :: digits ∨ text.toList = digits) ∧ negative = false) ∧
    WritesDecimal digits coefficient exponent ∧
    Double.IsRounding negative (coefficient * 10 ^ exponent) x

theorem WritesDouble.finite {text : String} {x : Float} (written : WritesDouble text x) :
    x.isFinite = true := by
  obtain ⟨_, _, _, _, _, _, rounding⟩ := written
  exact rounding.finite

namespace FloatText

theorem readExponent_eq_some_iff {text : List Char} {exponent : Int} :
    readExponent text = some exponent ↔ WritesExponent text exponent := by
  cases text with
  | nil =>
    constructor
    · rintro ⟨⟩
      exact .none
    · rintro ⟨⟩
      rfl
  | cons mark rest =>
    obtain ⟨negative, digits, sign⟩ : ∃ negative digits, spanSign rest = (negative, digits) :=
      ⟨_, _, rfl⟩
    have sign' : spanSign (String.ofList rest).toList = (negative, digits) := by
      rw [String.toList_ofList, sign]
    simp only [readExponent, sign]
    rw [Option.ite_none_right_eq_some, Option.some.injEq]
    constructor
    · rintro ⟨⟨isMark, nonempty, isDigit⟩, value⟩
      refine .marked isMark ((writesInteger_iff_of_sign sign').mpr ⟨?_, ?_, value.symm⟩)
      · simpa using nonempty
      · simpa using isDigit
    · rintro (_ | ⟨isMark, written⟩)
      obtain ⟨nonempty, isDigit, value⟩ := (writesInteger_iff_of_sign sign').mp written
      exact ⟨⟨isMark, by simpa using nonempty, by simpa using isDigit⟩, value.symm⟩

end FloatText

/-- No digit and no point starts an exponent. -/
theorem WritesExponent.head {text : List Char} {exponent : Int}
    (written : WritesExponent text exponent) : ∀ c ∈ text.head?, c.isDigit = false ∧ c ≠ '.' := by
  cases written with
  | none => simp
  | marked isMark _ =>
    rintro c ⟨⟩
    rcases isMark with rfl | rfl <;> decide

/-- A decimal starts with a digit or the point. -/
theorem WritesDecimal.head {text : List Char} {coefficient : Nat} {exponent : Int}
    (written : WritesDecimal text coefficient exponent) :
    ∃ c rest, text = c :: rest ∧ (c.isDigit = true ∨ c = '.') := by
  cases written with
  | @whole digits _ _ nonempty isDigit _ =>
    obtain ⟨c, digits, rfl⟩ := List.exists_cons_of_ne_nil nonempty
    exact ⟨c, _, rfl, .inl (isDigit c List.mem_cons_self)⟩
  | @point whole _ _ _ _ isDigit _ =>
    cases whole with
    | nil => exact ⟨'.', _, rfl, .inr rfl⟩
    | cons c _ => exact ⟨c, _, rfl, .inl (isDigit c List.mem_cons_self)⟩

namespace FloatText

theorem writesDecimal_of_readDecimal {text : List Char} {m : Nat}
    (given : readDecimal text = some m) :
    ∃ coefficient exponent, WritesDecimal text coefficient exponent ∧
      m = nearest coefficient exponent := by
  obtain ⟨whole, rest, span⟩ : ∃ whole rest, spanDigits text = (whole, rest) := ⟨_, _, rfl⟩
  obtain ⟨rfl, isDigit, -⟩ := span_eq_iff.mp span
  simp only [readDecimal, span] at given
  split at given
  · rename_i behind
    obtain ⟨fraction, rest, span'⟩ : ∃ fraction rest, spanDigits behind = (fraction, rest) :=
      ⟨_, _, rfl⟩
    obtain ⟨rfl, isDigit', -⟩ := span_eq_iff.mp span'
    simp only [span', Option.ite_none_left_eq_some, Option.map_eq_some_iff] at given
    obtain ⟨nonempty, exponent, read, rfl⟩ := given
    refine ⟨_, _, .point ?_ ?_ (readExponent_eq_some_iff.mp read), rfl⟩
    · simpa using nonempty
    · exact List.forall_mem_append.mpr ⟨isDigit, isDigit'⟩
  · simp only [Option.ite_none_left_eq_some, Option.map_eq_some_iff] at given
    obtain ⟨nonempty, exponent, read, rfl⟩ := given
    refine ⟨_, _, .whole ?_ isDigit (readExponent_eq_some_iff.mp read), by simp⟩
    simpa using nonempty

/-- What the grammar calls a decimal is read as the nearest magnitude. -/
theorem readDecimal_of_writesDecimal {text : List Char} {coefficient : Nat} {exponent : Int}
    (written : WritesDecimal text coefficient exponent) :
    readDecimal text = some (nearest coefficient exponent) := by
  cases written with
  | @whole digits rest exponent nonempty isDigit written =>
    have span : spanDigits (digits ++ rest) = (digits, rest) :=
      span_eq_iff.mpr ⟨rfl, isDigit, fun c first => (written.head c first).1⟩
    have read := readExponent_eq_some_iff.mpr written
    simp only [readDecimal, span]
    split
    · exact absurd rfl (written.head '.' rfl).2
    · simp [nonempty, read]
  | @point whole fraction rest exponent nonempty isDigit written =>
    obtain ⟨wholeDigits, fractionDigits⟩ := List.forall_mem_append.mp isDigit
    have span : spanDigits (whole ++ '.' :: (fraction ++ rest)) =
        (whole, '.' :: (fraction ++ rest)) :=
      span_eq_iff.mpr ⟨rfl, wholeDigits, by simp⟩
    have span' : spanDigits (fraction ++ rest) = (fraction, rest) :=
      span_eq_iff.mpr ⟨rfl, fractionDigits, fun c first => (written.head c first).1⟩
    have read := readExponent_eq_some_iff.mpr written
    have some : (whole.isEmpty && fraction.isEmpty) = false := by
      simpa using nonempty
    simp [readDecimal, span, span', some, read]

private theorem toLower_of_digit {c : Char} (digit : c.isDigit = true) : c.toLower = c := by
  have range := (Char.isDigit_iff_toNat.mp digit).2
  have places : '9'.toNat = 57 ∧ 'A'.toNat = 65 := ⟨rfl, rfl⟩
  apply dif_neg
  rintro ⟨upper, -⟩
  rw [ge_iff_le, UInt32.le_iff_toNat_le] at upper
  change 'A'.toNat ≤ c.toNat at upper
  omega

/-- No name is a decimal. -/
theorem name_ne_of_writesDecimal {text : List Char} {coefficient : Nat} {exponent : Int}
    (written : WritesDecimal text coefficient exponent) (name : String) {first : Char}
    {letters : List Char} (spelled : name.toList = first :: letters)
    (letter : first.isDigit = false ∧ first ≠ '.') :
    String.ofList (text.map Char.toLower) ≠ name := by
  rintro rfl
  obtain ⟨c, rest, rfl, digit | rfl⟩ := written.head
  · rw [String.toList_ofList, List.map_cons, toLower_of_digit digit] at spelled
    cases spelled
    rw [digit] at letter
    cases letter.1
  · rw [String.toList_ofList] at spelled
    cases spelled
    exact letter.2 rfl

theorem readMagnitude_of_writesDecimal {text : List Char} {coefficient : Nat} {exponent : Int}
    (written : WritesDecimal text coefficient exponent) :
    readMagnitude text = some (nearest coefficient exponent) := by
  have inf := name_ne_of_writesDecimal written "inf" rfl (by decide)
  have infinity := name_ne_of_writesDecimal written "infinity" rfl (by decide)
  have nan := name_ne_of_writesDecimal written "nan" rfl (by decide)
  simp [readMagnitude, inf, infinity, nan, readDecimal_of_writesDecimal written]

/-- A magnitude that makes a number comes from a decimal, as no name makes one. -/
theorem writesDecimal_of_readMagnitude {text : List Char} {m : Nat} {negative : Bool}
    (given : readMagnitude text = some m) (finite : (signed negative m).isFinite = true) :
    m < infinity ∧ ∃ coefficient exponent, WritesDecimal text coefficient exponent ∧
      m = nearest coefficient exponent := by
  simp only [readMagnitude] at given
  split_ifs at given
  · cases given
    rw [Double.isFinite_iff, Double.magnitude_signed le_rfl] at finite
    exact absurd finite (Nat.lt_irrefl _)
  · cases given
    exact absurd finite (by cases negative <;> decide)
  · obtain ⟨coefficient, exponent, written, rfl⟩ := writesDecimal_of_readDecimal given
    rw [Double.isFinite_iff, Double.magnitude_signed (nearest_le _ _)] at finite
    exact ⟨finite, coefficient, exponent, written, rfl⟩

end FloatText

theorem spanSign_of_writesDecimal {text : List Char} {coefficient : Nat} {exponent : Int}
    (written : WritesDecimal text coefficient exponent) : spanSign text = (false, text) := by
  obtain ⟨c, rest, rfl, first⟩ := written.head
  apply spanSign_of_head
  rintro c ⟨⟩
  rcases first with digit | rfl
  · exact ne_sign_of_isDigit digit
  · decide

/-- The doubles that are read are the ones that the grammar gives to a text. -/
theorem readFloat_eq_some_iff {text : String} {x : Float} :
    readFloat text = some x ∧ x.isFinite = true ↔ WritesDouble text x := by
  obtain ⟨negative, digits, sign⟩ : ∃ negative digits, spanSign text.toList = (negative, digits) :=
    ⟨_, _, rfl⟩
  simp only [readFloat, sign, Option.map_eq_some_iff]
  constructor
  · rintro ⟨⟨m, read, rfl⟩, finite⟩
    obtain ⟨below, coefficient, exponent, written, rfl⟩ :=
      FloatText.writesDecimal_of_readMagnitude read finite
    have split := eq_of_spanSign sign
    refine ⟨negative, digits, coefficient, exponent, ?_, written,
      FloatText.isRounding_iff.mpr ⟨below, rfl⟩⟩
    cases negative with
    | true => exact .inl ⟨split, rfl⟩
    | false => exact .inr ⟨split, rfl⟩
  · rintro ⟨negative', digits', coefficient, exponent, signs, written, rounding⟩
    have sign' : spanSign text.toList = (negative', digits') := by
      rcases signs with ⟨minus, rfl⟩ | ⟨plus | plain, rfl⟩
      · rw [minus]
        rfl
      · rw [plus]
        rfl
      · rw [plain, spanSign_of_writesDecimal written]
    cases sign.symm.trans sign'
    obtain ⟨-, same⟩ := FloatText.isRounding_iff.mp rounding
    exact ⟨⟨_, FloatText.readMagnitude_of_writesDecimal written, same.symm⟩, rounding.finite⟩

example : readFloat "-2.5e-1" = some (-0.25) := by decide +kernel

end FeatureFlags
