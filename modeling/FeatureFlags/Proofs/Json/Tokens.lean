import FeatureFlags.Proofs.Json.Grammar
import FeatureFlags.Proofs.Text.Readers

/-!
Blanks, number literals and strings are read as the grammar has them. A reader of digits goes as far
as they go, so a literal is read up to its end only if nothing follows that could belong to it.
-/

namespace FeatureFlags.Json
open Text Grammar Document

section Blanks
variable {text rest : List Char}

theorem isBlank_iff {c : Char} : isBlank c = true ↔ c ∈ blanks := by
  simp [isBlank, blanks, or_assoc]

theorem blanks_skipBlanks (text : List Char) : Blanks text (skipBlanks text) :=
  ⟨text.takeWhile isBlank, fun _ listed => isBlank_iff.mp (List.mem_takeWhile_imp listed),
    List.takeWhile_append_dropWhile.symm⟩

theorem skipBlanks_of_blanks (skipped : Blanks text rest) (ends : ∀ c ∈ rest.head?, c ∉ blanks) :
    skipBlanks text = rest := by
  obtain ⟨blank, each, rfl⟩ := skipped
  rw [skipBlanks, List.dropWhile_append_of_pos fun c listed => isBlank_iff.mpr (each c listed)]
  cases rest with
  | nil => rfl
  | cons c rest => exact List.dropWhile_cons_of_neg (mt isBlank_iff.mp (ends c rfl))

end Blanks

/-- Nothing follows that could belong to a number. -/
def Ends (rest : List Char) : Prop :=
  ∀ c ∈ rest.head?, c.isDigit = false ∧ c ≠ '.' ∧ c ≠ 'e' ∧ c ≠ 'E'

section Numerals
variable {text rest : List Char}

theorem fraction_of_readFraction {fraction : List Char}
    (read : readFraction text = some (fraction, rest)) : Fraction text fraction rest := by
  unfold readFraction at read
  split at read
  · rename_i behind
    obtain ⟨digits, rest, span⟩ : ∃ digits rest, spanDigits behind = (digits, rest) := ⟨_, _, rfl⟩
    obtain ⟨rfl, isDigit, -⟩ := span_eq_iff.mp span
    simp only [span, Option.ite_none_left_eq_some] at read
    obtain ⟨nonempty, ⟨⟩⟩ := read
    exact .digits (by simpa using nonempty) isDigit
  · cases read
    exact .none

theorem readFraction_of_fraction {fraction : List Char} (written : Fraction text fraction rest)
    (ends : ∀ c ∈ rest.head?, c.isDigit = false ∧ c ≠ '.') :
    readFraction text = some (fraction, rest) := by
  cases written with
  | none =>
      unfold readFraction
      split
      · exact absurd rfl (ends '.' rfl).2
      · rfl
  | digits nonempty isDigit =>
      have span : spanDigits (fraction ++ rest) = (fraction, rest) :=
        span_eq_iff.mpr ⟨rfl, isDigit, fun c first => (ends c first).1⟩
      simp [readFraction, span, nonempty]

/-- The sign of a whole number is taken apart from its digits, whatever follows. -/
theorem spanSign_append {own : List Char} {n : Int}
    (written : WritesInteger (String.ofList own) n) (rest : List Char) :
    ∃ negative digits, spanSign (own ++ rest) = (negative, digits ++ rest) ∧ digits ≠ [] ∧
      (∀ c ∈ digits, c.isDigit = true) ∧
        n = if negative then -(ofDigits digits : Int) else ofDigits digits := by
  obtain ⟨digits, nonempty, isDigit, ⟨minus, value⟩ | ⟨plus | plain, value⟩⟩ := written
  · rw [String.toList_ofList] at minus
    exact ⟨true, digits, by rw [minus]; rfl, nonempty, isDigit, value⟩
  · rw [String.toList_ofList] at plus
    exact ⟨false, digits, by rw [plus]; rfl, nonempty, isDigit, value⟩
  · rw [String.toList_ofList] at plain
    refine ⟨false, digits, ?_, nonempty, isDigit, value⟩
    obtain ⟨c, digits, rfl⟩ := List.exists_cons_of_ne_nil nonempty
    rw [plain]
    apply spanSign_of_head
    rintro c ⟨⟩
    exact ne_sign_of_isDigit (isDigit c List.mem_cons_self)

theorem writesInteger_of_spanSign {digits : List Char} {negative : Bool}
    (sign : spanSign text = (negative, digits ++ rest)) (nonempty : digits ≠ [])
    (isDigit : ∀ c ∈ digits, c.isDigit = true) :
    ∃ own, text = own ++ rest ∧ WritesInteger (String.ofList own)
      (if negative then -(ofDigits digits : Int) else ofDigits digits) := by
  have split := eq_of_spanSign sign
  cases negative with
  | true => exact ⟨'-' :: digits, split, digits, nonempty, isDigit, .inl ⟨by simp, rfl⟩⟩
  | false =>
      rcases split with plus | plain
      · exact ⟨'+' :: digits, plus, digits, nonempty, isDigit, .inr ⟨.inl (by simp), rfl⟩⟩
      · exact ⟨digits, plain, digits, nonempty, isDigit, .inr ⟨.inr (by simp), rfl⟩⟩

theorem exponent_of_readExponent {exponent : Option Int}
    (read : Document.readExponent text = some (exponent, rest)) : Exponent text exponent rest := by
  unfold Document.readExponent at read
  split at read
  · cases read
    exact .none
  · rename_i mark behind
    split at read
    · rename_i isMark
      obtain ⟨negative, behind', sign⟩ :
          ∃ negative behind', spanSign behind = (negative, behind') := ⟨_, _, rfl⟩
      obtain ⟨digits, rest', span⟩ : ∃ digits rest', spanDigits behind' = (digits, rest') :=
        ⟨_, _, rfl⟩
      obtain ⟨rfl, isDigit, -⟩ := span_eq_iff.mp span
      simp only [sign, span, Option.ite_none_left_eq_some] at read
      obtain ⟨nonempty, ⟨⟩⟩ := read
      obtain ⟨own, rfl, written⟩ :=
        writesInteger_of_spanSign sign (by simpa using nonempty) isDigit
      exact .marked isMark written
    · cases read
      exact .none

theorem readExponent_of_exponent {exponent : Option Int} (written : Exponent text exponent rest)
    (ends : Ends rest) : Document.readExponent text = some (exponent, rest) := by
  cases written with
  | none =>
      cases text with
      | nil => rfl
      | cons c rest =>
          obtain ⟨-, -, small, large⟩ := ends c rfl
          simp [Document.readExponent, small, large]
  | marked isMark written =>
      obtain ⟨negative, digits, sign, nonempty, isDigit, rfl⟩ := spanSign_append written rest
      have span : spanDigits (digits ++ rest) = (digits, rest) :=
        span_eq_iff.mpr ⟨rfl, isDigit, fun c first => (ends c first).1⟩
      simp [Document.readExponent, isMark, sign, span, nonempty]

theorem head_of_exponent {exponent : Option Int} (written : Exponent text exponent rest)
    (ends : Ends rest) : ∀ c ∈ text.head?, c.isDigit = false ∧ c ≠ '.' := by
  cases written with
  | none => exact fun c first => ⟨(ends c first).1, (ends c first).2.1⟩
  | marked isMark _ =>
      rintro c ⟨⟩
      rcases isMark with rfl | rfl <;> decide

/-- Behind the whole part there is no digit. -/
theorem head_of_fraction {fraction : List Char} (written : Fraction text fraction rest)
    (ends : ∀ c ∈ rest.head?, c.isDigit = false ∧ c ≠ '.') :
    ∀ c ∈ text.head?, c.isDigit = false := by
  cases written with
  | none => exact fun c first => (ends c first).1
  | digits _ _ =>
      rintro c ⟨⟩
      rfl

theorem isNumeral_of_readWhole {whole : List Char} (read : readWhole text = some (whole, rest)) :
    text = whole ++ rest ∧ IsNumeral whole := by
  obtain ⟨digits, behind, span⟩ : ∃ digits behind, spanDigits text = (digits, behind) := ⟨_, _, rfl⟩
  obtain ⟨rfl, isDigit, -⟩ := span_eq_iff.mp span
  simp only [readWhole, span, Option.ite_none_right_eq_some] at read
  obtain ⟨leading, ⟨⟩⟩ := read
  refine ⟨rfl, ?_⟩
  rcases leading with rfl | first
  · exact ⟨by simp, isDigit, fun _ => rfl⟩
  · refine ⟨?_, isDigit, fun zero => ?_⟩
    · rintro rfl
      cases first
    · rw [zero] at first
      cases first

theorem readWhole_of_isNumeral {whole : List Char} (numeral : IsNumeral whole)
    (ends : ∀ c ∈ rest.head?, c.isDigit = false) :
    readWhole (whole ++ rest) = some (whole, rest) := by
  have span : spanDigits (whole ++ rest) = (whole, rest) :=
    span_eq_iff.mpr ⟨rfl, numeral.isDigit, ends⟩
  have leading : whole = ['0'] ∨ whole.head?.any (· ≠ '0') = true := by
    obtain ⟨c, digits, rfl⟩ := List.exists_cons_of_ne_nil numeral.nonempty
    by_cases zero : c = '0'
    · exact .inl (numeral.leading (by rw [zero]; rfl))
    · exact .inr (by simpa using zero)
  simp only [readWhole, span, if_pos leading]

theorem sign_spanMinus (text : List Char) : Sign text (spanMinus text).1 (spanMinus text).2 := by
  unfold spanMinus
  split
  · exact .minus
  · exact .none

theorem spanMinus_of_sign {negative : Bool} (written : Sign text negative rest)
    (ends : ∀ c ∈ rest.head?, c ≠ '-') : spanMinus text = (negative, rest) := by
  cases written with
  | minus => rfl
  | none =>
      unfold spanMinus
      split
      · exact absurd rfl (ends '-' rfl)
      · rfl

theorem literal_of_readNumeral {literal : Numeral}
    (read : readNumeral text = some (literal, rest)) : Literal text literal rest := by
  simp only [readNumeral, Option.bind_eq_bind, Option.bind_eq_some_iff] at read
  obtain ⟨⟨whole, behind⟩, digits, ⟨fraction, behind'⟩, point, ⟨exponent, rest⟩, power, ⟨⟩⟩ := read
  obtain ⟨split, numeral⟩ := isNumeral_of_readWhole digits
  exact .mk (split ▸ sign_spanMinus text) numeral (fraction_of_readFraction point)
    (exponent_of_readExponent power)

theorem readNumeral_of_literal {literal : Numeral} (written : Literal text literal rest)
    (ends : Ends rest) : readNumeral text = some (literal, rest) := by
  cases written with
  | @mk whole _ behind _ _ _ _ sign numeral point power =>
      have unsigned : ∀ c ∈ (whole ++ behind).head?, c ≠ '-' := by
        obtain ⟨c, digits, rfl⟩ := List.exists_cons_of_ne_nil numeral.nonempty
        rintro c ⟨⟩
        exact (ne_sign_of_isDigit (numeral.isDigit c List.mem_cons_self)).1
      have ends' := head_of_exponent power ends
      simp [readNumeral, spanMinus_of_sign sign unsigned,
        readWhole_of_isNumeral numeral (head_of_fraction point ends'),
        readFraction_of_fraction point ends', readExponent_of_exponent power ends]

end Numerals

section Strings
variable {text rest : List Char} {parts : List StringPart}

private theorem exists_place {c first last : Char} (between : first ≤ c ∧ c ≤ last)
    (six : last.toNat = first.toNat + 5) : ∃ k < 6, c.toNat = first.toNat + k := by
  have lower : first.toNat ≤ c.toNat := UInt32.le_iff_toNat_le.mp between.1
  have upper : c.toNat ≤ last.toNat := UInt32.le_iff_toNat_le.mp between.2
  exact ⟨c.toNat - first.toNat, by omega, by omega⟩

theorem hexValue?_eq_some_iff {c : Char} {digit : Nat} :
    hexValue? c = some digit ↔ HexDigit c digit := by
  constructor
  · intro read
    unfold hexValue? at read
    split_ifs at read with isDigit small large
    · cases read
      exact ⟨(digitValue_lt isDigit).trans (by decide), .inl (digitChar_digitValue isDigit).symm⟩
    · obtain ⟨k, few, place⟩ := exists_place small rfl
      have letters : ∀ k < 6, Char.ofNat ('a'.toNat + k) = Nat.digitChar (k + 10) := by decide
      cases read
      rw [place, Nat.add_sub_cancel_left]
      exact ⟨by omega, .inl (by rw [← letters k few, ← place, Char.ofNat_toNat])⟩
    · obtain ⟨k, few, place⟩ := exists_place large rfl
      have letters : ∀ k < 6, Char.ofNat ('A'.toNat + k) = (Nat.digitChar (k + 10)).toUpper := by
        decide
      cases read
      rw [place, Nat.add_sub_cancel_left]
      exact ⟨by omega, .inr (by rw [← letters k few, ← place, Char.ofNat_toNat])⟩
  · rintro ⟨small, written⟩
    have each : ∀ digit < 16, hexValue? (Nat.digitChar digit) = some digit ∧
        hexValue? (Nat.digitChar digit).toUpper = some digit := by decide
    rcases written with rfl | rfl
    · exact (each digit small).1
    · exact (each digit small).2

theorem unescape?_eq_some_iff {mark c : Char} : unescape? mark = some c ↔ (mark, c) ∈ escapes := by
  constructor
  · intro known
    unfold unescape? at known
    split at known <;> cases known <;> decide
  · intro known
    simp only [escapes, List.mem_cons, Prod.mk.injEq, List.not_mem_nil, or_false] at known
    rcases known with ⟨rfl, rfl⟩ | ⟨rfl, rfl⟩ | ⟨rfl, rfl⟩ | ⟨rfl, rfl⟩ | ⟨rfl, rfl⟩ | ⟨rfl, rfl⟩ |
      ⟨rfl, rfl⟩ | ⟨rfl, rfl⟩ <;> rfl

theorem parts_of_readParts {done : List StringPart}
    (read : readParts done text = some (parts, rest)) :
    ∃ own, parts = own.reverse ++ done ∧ Parts text own rest := by
  fun_induction readParts done text with
  | case1 done rest =>
    cases read
    exact ⟨[], rfl, .closed⟩
  | case2 done a b c d text code unit ih =>
    obtain ⟨own, rfl, written⟩ := ih read
    simp only [unit?, Option.bind_eq_bind, Option.bind_eq_some_iff] at unit
    obtain ⟨p, first, q, second, r, third, s, fourth, ⟨⟩⟩ := unit
    exact ⟨_ :: own, by simp, .unit ⟨hexValue?_eq_some_iff.mp first,
      hexValue?_eq_some_iff.mp second, hexValue?_eq_some_iff.mp third,
      hexValue?_eq_some_iff.mp fourth⟩ written⟩
  | case3 => cases read
  | case4 done mark text notUnit c known ih =>
    obtain ⟨own, rfl, written⟩ := ih read
    exact ⟨.char c :: own, by simp, .escape (unescape?_eq_some_iff.mp known) written⟩
  | case5 => cases read
  | case6 => cases read
  | case7 done c text notQuote notUnit notEscape plain ih =>
    have notBackslash : c ≠ '\\' := by
      rintro rfl
      cases text with
      | nil => cases read
      | cons mark text => exact notEscape mark text rfl rfl
    obtain ⟨own, rfl, written⟩ := ih read
    exact ⟨.char c :: own, by simp, .char ⟨notQuote, notBackslash, by omega⟩ written⟩
  | case8 => cases read

theorem readParts_of_parts {own : List StringPart} (written : Parts text own rest)
    (done : List StringPart) : readParts done text = some (own.reverse ++ done, rest) := by
  induction written generalizing done with
  | closed => rfl
  | @char c _ _ _ plain _ ih =>
    obtain ⟨notQuote, notEscape, printable⟩ := plain
    rw [readParts, if_neg (by omega), ih]
    · simp
    all_goals simp [notQuote, notEscape]
  | @escape mark c _ _ _ known _ ih =>
    have step : ∀ text,
        readParts done ('\\' :: mark :: text) = readParts (.char c :: done) text := by
      simp only [escapes, List.mem_cons, Prod.mk.injEq, List.not_mem_nil, or_false] at known
      rcases known with ⟨rfl, rfl⟩ | ⟨rfl, rfl⟩ | ⟨rfl, rfl⟩ | ⟨rfl, rfl⟩ | ⟨rfl, rfl⟩ | ⟨rfl, rfl⟩ |
        ⟨rfl, rfl⟩ | ⟨rfl, rfl⟩ <;> exact fun _ => rfl
    rw [step, ih]
    simp
  | unit digits _ ih =>
    obtain ⟨first, second, third, fourth⟩ := digits
    rw [readParts, unit?, hexValue?_eq_some_iff.mpr first, hexValue?_eq_some_iff.mpr second,
      hexValue?_eq_some_iff.mpr third, hexValue?_eq_some_iff.mpr fourth]
    simp [ih]

theorem joins_append {first second : List StringPart} {text text' : List Char}
    (joins : Joins first text) (joins' : Joins second text') :
    Joins (first ++ second) (text ++ text') := by
  induction joins with
  | nil => exact joins'
  | char _ ih => exact .char ih
  | unit own _ ih => exact .unit own ih
  | pair halves _ ih => exact .pair halves ih

/-- What the last parts stand for is put in front of the tail. -/
theorem joins_of_joinParts {tail : List Char} (joined : joinParts tail parts = some text) :
    ∃ front, Joins parts.reverse front ∧ text = front ++ tail := by
  fun_induction joinParts tail parts with
  | case1 tail =>
    cases joined
    exact ⟨[], .nil, rfl⟩
  | case2 tail c parts ih =>
    obtain ⟨front, joins, rfl⟩ := ih joined
    exact ⟨_, by simpa using joins_append joins (.char .nil), by simp⟩
  | case3 tail low high parts isLow isHigh ih =>
    obtain ⟨front, joins, rfl⟩ := ih joined
    exact ⟨_, by simpa using joins_append joins (.pair ⟨isHigh, isLow⟩ .nil), by simp⟩
  | case4 => cases joined
  | case5 => cases joined
  | case6 tail low high parts notLow notHigh ih =>
    obtain ⟨front, joins, rfl⟩ := ih joined
    exact ⟨_, by simpa using joins_append joins (.unit ⟨notHigh, notLow⟩ .nil), by simp⟩
  | case7 => cases joined
  | case8 tail code parts _ own ih =>
    obtain ⟨front, joins, rfl⟩ := ih joined
    have own' : ¬ IsHighSurrogate code ∧ ¬ IsLowSurrogate code := by
      simp only [IsHighSurrogate, IsLowSurrogate]
      omega
    exact ⟨_, by simpa using joins_append joins (.unit own' .nil), by simp⟩

/-- A code that is no surrogate stands for itself, whatever is in front of it. -/
theorem joinParts_unit {code : Nat} (own : ¬ IsHighSurrogate code ∧ ¬ IsLowSurrogate code)
    (tail : List Char) (parts : List StringPart) :
    joinParts tail (.unit code :: parts) = joinParts (Char.ofNat code :: tail) parts := by
  simp only [IsHighSurrogate, IsLowSurrogate] at own
  have alone : ¬ (0xd800 ≤ code ∧ code < 0xe000) := by omega
  rcases parts with _ | ⟨c | high, parts⟩
  · simp only [joinParts, if_neg alone]
  · simp only [joinParts, if_neg alone]
  · rw [joinParts, if_neg own.2, if_neg own.1]

theorem joinParts_pair {high low : Nat} (halves : IsHighSurrogate high ∧ IsLowSurrogate low)
    (tail : List Char) (parts : List StringPart) :
    joinParts tail (.unit low :: .unit high :: parts) =
      joinParts (Char.ofNat (0x10000 + (high - 0xd800) * 0x400 + (low - 0xdc00)) :: tail) parts := by
  simp only [IsHighSurrogate, IsLowSurrogate] at halves
  rw [joinParts, if_pos halves.2, if_pos halves.1]

theorem joinParts_reverse_append {own : List StringPart} (joins : Joins own text)
    (tail : List Char) (parts : List StringPart) :
    joinParts tail (own.reverse ++ parts) = joinParts (text ++ tail) parts := by
  induction joins generalizing parts with
  | nil => rfl
  | char _ ih => simp [ih, joinParts]
  | unit own _ ih => simp [ih, joinParts_unit own]
  | pair halves _ ih => simp [ih, joinParts_pair halves]

/-- Parts are joined if they stand for characters. -/
theorem joinParts_reverse_eq_some_iff {own : List StringPart} :
    joinParts [] own.reverse = some text ↔ Joins own text := by
  constructor
  · intro joined
    obtain ⟨front, joins, rfl⟩ := joins_of_joinParts joined
    simpa using joins
  · intro joins
    simpa [joinParts] using joinParts_reverse_append joins [] []

theorem readString_eq_some_iff {value : Option String} :
    readString text = some (value, rest) ↔ Quoted text value rest := by
  have joined (own : List StringPart) (string : String) :
      (joinParts [] own.reverse).map String.ofList = some string ↔ Joins own string.toList := by
    rw [← joinParts_reverse_eq_some_iff, Option.map_eq_some_iff]
    constructor
    · rintro ⟨characters, joined, rfl⟩
      rw [joined, String.toList_ofList]
    · intro joined
      exact ⟨_, joined, String.ofList_toList⟩
  simp only [readString, Option.map_eq_some_iff, Prod.exists, Prod.mk.injEq]
  constructor
  · rintro ⟨parts, rest, read, rfl, rfl⟩
    obtain ⟨own, rfl, written⟩ := parts_of_readParts read
    exact ⟨own, written, fun string => by rw [List.append_nil, joined]⟩
  · rintro ⟨own, written, stands⟩
    refine ⟨own.reverse, rest, by simpa using readParts_of_parts written [], ?_, rfl⟩
    exact Option.ext fun string => by rw [joined, stands]

end Strings

end FeatureFlags.Json
