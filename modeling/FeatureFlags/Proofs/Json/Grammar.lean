import FeatureFlags.Json.Document
import FeatureFlags.Proofs.Decimal.Numerals
import FeatureFlags.Proofs.Decimal.Reading

/-!
The grammar of JSON texts. A form of the grammar relates a text that begins with it to what is
written there and to the text behind it.
-/

namespace FeatureFlags.Json
namespace Grammar
open Document (StringPart)

def blanks : List Char := [' ', '\t', '\n', '\r']

/-- Blanks, as many as there may be. -/
def Blanks (text rest : List Char) : Prop :=
  ∃ blank, (∀ c ∈ blank, c ∈ blanks) ∧ text = blank ++ rest

inductive Sign : List Char → Bool → List Char → Prop
  | minus {rest : List Char} : Sign ('-' :: rest) true rest
  | none {rest : List Char} : Sign rest false rest

inductive Fraction : List Char → List Char → List Char → Prop
  | none {rest : List Char} : Fraction rest [] rest
  | digits {digits rest : List Char} (nonempty : digits ≠ [])
      (isDigit : ∀ c ∈ digits, c.isDigit = true) : Fraction ('.' :: (digits ++ rest)) digits rest

inductive Exponent : List Char → Option Int → List Char → Prop
  | none {rest : List Char} : Exponent rest none rest
  | marked {mark : Char} {power rest : List Char} {exponent : Int}
      (isMark : mark = 'e' ∨ mark = 'E') (written : WritesInteger (String.ofList power) exponent) :
      Exponent (mark :: (power ++ rest)) (some exponent) rest

/-- A number, whose whole part has no leading zeros. -/
inductive Literal : List Char → Numeral → List Char → Prop
  | mk {text whole fraction behind behind' rest : List Char} {negative : Bool}
      {exponent : Option Int} (sign : Sign text negative (whole ++ behind))
      (numeral : IsNumeral whole) (point : Fraction behind fraction behind')
      (power : Exponent behind' exponent rest) :
      Literal text { negative, whole, fraction, exponent } rest

/-- A hexadecimal digit, with a letter of either case. -/
def HexDigit (c : Char) (digit : Nat) : Prop :=
  digit < 16 ∧ (c = Nat.digitChar digit ∨ c = (Nat.digitChar digit).toUpper)

/-- What may stand behind a backslash, with the character that it means. -/
def escapes : List (Char × Char) :=
  [('"', '"'), ('\\', '\\'), ('/', '/'), ('b', '\x08'), ('f', '\x0c'), ('n', '\n'), ('r', '\r'),
    ('t', '\t')]

/-- The parts of a string, up to the quote that closes it. -/
inductive Parts : List Char → List StringPart → List Char → Prop
  | closed {rest : List Char} : Parts ('"' :: rest) [] rest
  | char {c : Char} {text rest : List Char} {parts : List StringPart}
      (plain : c ≠ '"' ∧ c ≠ '\\' ∧ 0x20 ≤ c.toNat) (others : Parts text parts rest) :
      Parts (c :: text) (.char c :: parts) rest
  | escape {mark c : Char} {text rest : List Char} {parts : List StringPart}
      (known : (mark, c) ∈ escapes) (others : Parts text parts rest) :
      Parts ('\\' :: mark :: text) (.char c :: parts) rest
  | unit {a b c d : Char} {p q r s : Nat} {text rest : List Char} {parts : List StringPart}
      (digits : HexDigit a p ∧ HexDigit b q ∧ HexDigit c r ∧ HexDigit d s)
      (others : Parts text parts rest) :
      Parts ('\\' :: 'u' :: a :: b :: c :: d :: text)
        (.unit (((p * 16 + q) * 16 + r) * 16 + s) :: parts) rest

def IsHighSurrogate (code : Nat) : Prop := 0xd800 ≤ code ∧ code < 0xdc00

def IsLowSurrogate (code : Nat) : Prop := 0xdc00 ≤ code ∧ code < 0xe000

/-- The characters that parts stand for. A surrogate counts only as half of a pair. -/
inductive Joins : List StringPart → List Char → Prop
  | nil : Joins [] []
  | char {c : Char} {parts : List StringPart} {text : List Char} (others : Joins parts text) :
      Joins (.char c :: parts) (c :: text)
  | unit {code : Nat} {parts : List StringPart} {text : List Char}
      (own : ¬ IsHighSurrogate code ∧ ¬ IsLowSurrogate code) (others : Joins parts text) :
      Joins (.unit code :: parts) (Char.ofNat code :: text)
  | pair {high low : Nat} {parts : List StringPart} {text : List Char}
      (halves : IsHighSurrogate high ∧ IsLowSurrogate low) (others : Joins parts text) :
      Joins (.unit high :: .unit low :: parts)
        (Char.ofNat (0x10000 + (high - 0xd800) * 0x400 + (low - 0xdc00)) :: text)

/-- A string behind its opening quote. It has a value if its parts stand for one. -/
def Quoted (text : List Char) (value : Option String) (rest : List Char) : Prop :=
  ∃ parts, Parts text parts rest ∧ ∀ string, value = some string ↔ Joins parts string.toList

mutual

/-- A value, with no blanks in front. -/
inductive Value : List Char → Document → List Char → Prop
  | null {rest : List Char} : Value ('n' :: 'u' :: 'l' :: 'l' :: rest) .null rest
  | isTrue {rest : List Char} : Value ('t' :: 'r' :: 'u' :: 'e' :: rest) (.bool true) rest
  | isFalse {rest : List Char} : Value ('f' :: 'a' :: 'l' :: 's' :: 'e' :: rest) (.bool false) rest
  | number {text rest : List Char} {literal : Numeral} (written : Literal text literal rest) :
      Value text (.number literal) rest
  | string {text rest : List Char} {value : Option String} (quoted : Quoted text value rest) :
      Value ('"' :: text) (.string value) rest
  | emptyArray {text rest : List Char} (closes : Blanks text (']' :: rest)) :
      Value ('[' :: text) (.array []) rest
  | array {text rest : List Char} {items : List Document} (written : Items text items rest) :
      Value ('[' :: text) (.array items) rest
  | emptyObject {text rest : List Char} (closes : Blanks text ('\x7d' :: rest)) :
      Value ('\x7b' :: text) (.object []) rest
  | object {text rest : List Char} {members : List (Option String × Document)}
      (written : Members text members rest) : Value ('\x7b' :: text) (.object members) rest

/-- Items with commas between them, up to the bracket that closes the array. -/
inductive Items : List Char → List Document → List Char → Prop
  | last {text own behind rest : List Char} {item : Document} (begins : Blanks text own)
      (value : Value own item behind) (closes : Blanks behind (']' :: rest)) :
      Items text [item] rest
  | more {text own behind others rest : List Char} {item : Document} {items : List Document}
      (begins : Blanks text own) (value : Value own item behind)
      (ends : Blanks behind (',' :: others)) (written : Items others items rest) :
      Items text (item :: items) rest

/-- A name and a value, with blanks where there may be any but behind the value. -/
inductive Member : List Char → Option String × Document → List Char → Prop
  | mk {text name behind colon own rest : List Char} {key : Option String} {member : Document}
      (begins : Blanks text ('"' :: name)) (quoted : Quoted name key behind)
      (names : Blanks behind (':' :: colon)) (begins' : Blanks colon own)
      (value : Value own member rest) : Member text (key, member) rest

/-- Members with commas between them, up to the brace that closes the object. -/
inductive Members : List Char → List (Option String × Document) → List Char → Prop
  | last {text behind rest : List Char} {member : Option String × Document}
      (first : Member text member behind) (closes : Blanks behind ('\x7d' :: rest)) :
      Members text [member] rest
  | more {text behind others rest : List Char} {member : Option String × Document}
      {members : List (Option String × Document)} (first : Member text member behind)
      (ends : Blanks behind (',' :: others)) (written : Members others members rest) :
      Members text (member :: members) rest

end

/-- A value with nothing but blanks around it. -/
def Text (text : List Char) (document : Document) : Prop :=
  ∃ own behind, Blanks text own ∧ Value own document behind ∧ Blanks behind []

section Blanks
variable {text own rest : List Char}

theorem Blanks.refl (text : List Char) : Blanks text text := ⟨[], by simp, rfl⟩

theorem Blanks.trans (blanks : Blanks text own) (blanks' : Blanks own rest) : Blanks text rest := by
  obtain ⟨first, each, rfl⟩ := blanks
  obtain ⟨second, each', rfl⟩ := blanks'
  exact ⟨first ++ second, List.forall_mem_append.mpr ⟨each, each'⟩, by simp⟩

theorem Items.of_blanks {items : List Document} (written : Items own items rest)
    (blanks : Blanks text own) : Items text items rest := by
  cases written with
  | last begins value closes => exact .last (blanks.trans begins) value closes
  | more begins value ends others => exact .more (blanks.trans begins) value ends others

theorem Members.of_blanks {members : List (Option String × Document)}
    (written : Members own members rest) (blanks : Blanks text own) :
    Members text members rest := by
  cases written with
  | last first closes =>
      obtain ⟨begins, quoted, names, begins', value⟩ := first
      exact .last (.mk (blanks.trans begins) quoted names begins' value) closes
  | more first ends others =>
      obtain ⟨begins, quoted, names, begins', value⟩ := first
      exact .more (.mk (blanks.trans begins) quoted names begins' value) ends others

end Blanks

section Progress
variable {text rest : List Char}

theorem Blanks.length_le (blanks : Blanks text rest) : rest.length ≤ text.length := by
  obtain ⟨blank, -, rfl⟩ := blanks
  simp

theorem Sign.length_le {negative : Bool} (written : Sign text negative rest) :
    rest.length ≤ text.length := by
  cases written <;> simp

theorem Fraction.length_le {digits : List Char} (written : Fraction text digits rest) :
    rest.length ≤ text.length := by
  cases written with
  | none => exact Nat.le_refl _
  | digits _ _ =>
      simp
      omega

theorem Exponent.length_le {exponent : Option Int} (written : Exponent text exponent rest) :
    rest.length ≤ text.length := by
  cases written with
  | none => exact Nat.le_refl _
  | marked _ _ =>
      simp
      omega

theorem Literal.length_lt {literal : Numeral} (written : Literal text literal rest) :
    rest.length < text.length := by
  cases written with
  | mk sign numeral point power =>
    have some := List.length_pos_iff.mpr numeral.nonempty
    have signs := sign.length_le
    have points := point.length_le
    have powers := power.length_le
    simp only [List.length_append] at signs
    omega

theorem Parts.length_lt {parts : List StringPart} (written : Parts text parts rest) :
    rest.length < text.length := by
  induction written with
  | closed => simp
  | char _ _ ih => simp; omega
  | escape _ _ ih => simp; omega
  | unit _ _ ih => simp; omega

theorem Quoted.length_lt {value : Option String} (quoted : Quoted text value rest) :
    rest.length < text.length := by
  obtain ⟨_, parts, -⟩ := quoted
  exact parts.length_lt

mutual

theorem Value.length_lt {text rest : List Char} {document : Document}
    (written : Value text document rest) : rest.length < text.length :=
  match written with
  | .null => by simp; omega
  | .isTrue => by simp; omega
  | .isFalse => by simp; omega
  | .number literal => literal.length_lt
  | .string quoted => Nat.lt_succ_of_lt quoted.length_lt
  | .emptyArray closes => by
      have := closes.length_le
      simp at *
      omega
  | .array items => Nat.lt_succ_of_lt items.length_lt
  | .emptyObject closes => by
      have := closes.length_le
      simp at *
      omega
  | .object members => Nat.lt_succ_of_lt members.length_lt

theorem Items.length_lt {text rest : List Char} {items : List Document}
    (written : Items text items rest) : rest.length < text.length :=
  match written with
  | .last begins value closes => by
      have := begins.length_le
      have := value.length_lt
      have := closes.length_le
      simp at *
      omega
  | .more begins value ends others => by
      have := begins.length_le
      have := value.length_lt
      have := ends.length_le
      have := others.length_lt
      simp at *
      omega

theorem Member.length_lt {text rest : List Char} {member : Option String × Document}
    (written : Member text member rest) : rest.length < text.length :=
  match written with
  | .mk begins quoted names begins' value => by
      have := begins.length_le
      have := quoted.length_lt
      have := names.length_le
      have := begins'.length_le
      have := value.length_lt
      simp at *
      omega

theorem Members.length_lt {text rest : List Char} {members : List (Option String × Document)}
    (written : Members text members rest) : rest.length < text.length :=
  match written with
  | .last first closes => by
      have := first.length_lt
      have := closes.length_le
      simp at *
      omega
  | .more first ends others => by
      have := first.length_lt
      have := ends.length_le
      have := others.length_lt
      simp at *
      omega

end

end Progress

/-- A number begins with a minus or a digit. -/
theorem Literal.head {text rest : List Char} {literal : Numeral}
    (written : Literal text literal rest) :
    ∃ c behind, text = c :: behind ∧ (c = '-' ∨ c.isDigit = true) := by
  cases written with
  | mk sign numeral _ _ =>
      cases sign with
      | minus => exact ⟨'-', _, rfl, .inl rfl⟩
      | none =>
          obtain ⟨c, digits, rfl⟩ := List.exists_cons_of_ne_nil numeral.nonempty
          exact ⟨c, _, rfl, .inr (numeral.isDigit c List.mem_cons_self)⟩

/-- A value begins with no blank, and not with the bracket that closes an array. -/
theorem Value.head {text rest : List Char} {document : Document}
    (written : Value text document rest) :
    ∃ c behind, text = c :: behind ∧ c ∉ blanks ∧ c ≠ ']' := by
  cases written with
  | number literal =>
      obtain ⟨c, behind, rfl, rfl | digit⟩ := literal.head
      · exact ⟨'-', behind, rfl, by decide, by decide⟩
      · refine ⟨c, behind, rfl, ?_, ?_⟩
        · intro blank
          simp only [blanks, List.mem_cons, List.not_mem_nil, or_false] at blank
          rcases blank with rfl | rfl | rfl | rfl <;> cases digit
        · rintro rfl
          cases digit
  | _ => exact ⟨_, _, rfl, by decide, by decide⟩

theorem Items.head {text rest : List Char} {items : List Document}
    (written : Items text items rest) :
    ∃ c behind, Blanks text (c :: behind) ∧ Items (c :: behind) items rest ∧
      c ∉ blanks ∧ c ≠ ']' := by
  cases written with
  | last begins value closes =>
      obtain ⟨c, behind, rfl, plain, other⟩ := value.head
      exact ⟨c, behind, begins, .last (.refl _) value closes, plain, other⟩
  | more begins value ends others =>
      obtain ⟨c, behind, rfl, plain, other⟩ := value.head
      exact ⟨c, behind, begins, .more (.refl _) value ends others, plain, other⟩

theorem Members.head {text rest : List Char} {members : List (Option String × Document)}
    (written : Members text members rest) :
    ∃ name, Blanks text ('"' :: name) ∧ Members ('"' :: name) members rest := by
  cases written with
  | last first closes =>
      obtain ⟨begins, quoted, names, begins', value⟩ := first
      exact ⟨_, begins, .last (.mk (.refl _) quoted names begins' value) closes⟩
  | more first ends others =>
      obtain ⟨begins, quoted, names, begins', value⟩ := first
      exact ⟨_, begins, .more (.mk (.refl _) quoted names begins' value) ends others⟩

end Grammar

end FeatureFlags.Json
