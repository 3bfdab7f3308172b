import FeatureFlags.Json.Document
import FeatureFlags.Json.Printer

/-!
A string that is written is read back, and the reader stops right behind it. So the text of a string
tells the string and where it ends.
-/

namespace FeatureFlags.Json

/-- The characters that have an escape of their own. -/
def lettered : List Char := ['"', '\\', '\x08', '\x0c', '\n', '\r', '\t']

/-- What is read for a character that was written. Other control characters are written by their
code. -/
def partOf (c : Char) : Document.StringPart :=
  if c ∉ lettered ∧ c.toNat < 0x20 then .unit c.toNat else .char c

private theorem hexValue?_digitChar : ∀ n < 16, Document.hexValue? (Nat.digitChar n) = some n := by
  decide

private theorem readParts_code {code : Nat} (control : code < 0x20)
    (done : List Document.StringPart) (rest : List Char) :
    Document.readParts done
      ('\\' :: 'u' :: '0' :: '0' :: Nat.digitChar (code / 16) :: Nat.digitChar (code % 16) :: rest) =
      Document.readParts (.unit code :: done) rest := by
  have high := hexValue?_digitChar (code / 16) (by omega)
  have low := hexValue?_digitChar (code % 16) (by omega)
  have zero : Document.hexValue? '0' = some 0 := rfl
  have unit : Document.unit? '0' '0' (Nat.digitChar (code / 16)) (Nat.digitChar (code % 16)) =
      some code := by
    simp only [Document.unit?, high, low, zero, Option.bind_eq_bind, Option.bind_some,
      Option.pure_def]
    congr 1
    omega
  rw [Document.readParts, unit]

private theorem escapeChar_of_not_lettered {c : Char} (plain : c ∉ lettered) :
    escapeChar c =
      if c.toNat < 0x20 then ['\\', 'u', '0', '0', Nat.digitChar (c.toNat / 16),
        Nat.digitChar (c.toNat % 16)]
      else [c] := by
  unfold escapeChar
  split <;> first | rfl | exact absurd (by decide) plain

/-- The reader takes a written character for what it is. -/
private theorem readParts_escapeChar (c : Char) (done : List Document.StringPart)
    (rest : List Char) :
    Document.readParts done (escapeChar c ++ rest) = Document.readParts (partOf c :: done) rest := by
  by_cases special : c ∈ lettered
  · simp only [lettered, List.mem_cons, List.not_mem_nil, or_false] at special
    rcases special with rfl | rfl | rfl | rfl | rfl | rfl | rfl <;> rfl
  · rw [escapeChar_of_not_lettered special]
    by_cases control : c.toNat < 0x20
    · rw [if_pos control, partOf, if_pos ⟨special, control⟩]
      exact readParts_code control done rest
    · rw [if_neg control, partOf, if_neg (fun h => control h.2), List.singleton_append]
      simp only [lettered, List.mem_cons, not_or] at special
      rw [Document.readParts]
      · exact if_neg control
      all_goals simp [special.1, special.2.1]

private theorem readParts_written (text : List Char) (done : List Document.StringPart)
    (rest : List Char) :
    Document.readParts done (text.flatMap escapeChar ++ '"' :: rest) =
      some ((text.map partOf).reverse ++ done, rest) := by
  induction text generalizing done with
  | nil => rfl
  | cons c text ih =>
      rw [List.flatMap_cons, List.append_assoc, readParts_escapeChar, ih]
      simp

/-- A control character is no half of a pair. -/
private theorem joinParts_partOf (c : Char) (tail : List Char) (parts : List Document.StringPart) :
    Document.joinParts tail (partOf c :: parts) = Document.joinParts (c :: tail) parts := by
  unfold partOf
  split
  · next control =>
      have code : Char.ofNat c.toNat = c := Char.ofNat_toNat c
      have low : ¬ (0xdc00 ≤ c.toNat ∧ c.toNat < 0xe000) := by omega
      have high : ¬ (0xd800 ≤ c.toNat ∧ c.toNat < 0xdc00) := by omega
      have half : ¬ (0xd800 ≤ c.toNat ∧ c.toNat < 0xe000) := by omega
      cases parts with
      | nil => simp only [Document.joinParts, if_neg half, code]
      | cons part parts =>
          cases part with
          | char d => simp only [Document.joinParts, if_neg half, code]
          | unit d => simp only [Document.joinParts, if_neg low, if_neg high, code]
  · rw [Document.joinParts]

private theorem joinParts_map (chars tail : List Char) :
    Document.joinParts tail (chars.map partOf) = some (chars.reverse ++ tail) := by
  induction chars generalizing tail with
  | nil => rfl
  | cons c chars ih =>
      rw [List.map_cons, joinParts_partOf, ih, List.reverse_cons, List.append_assoc,
        List.singleton_append]

/-- A string is read back, and what follows it is left. -/
theorem readString_written (text : String) (rest : List Char) :
    Document.readString (text.toList.flatMap escapeChar ++ '"' :: rest) = some (some text, rest) := by
  simp only [Document.readString, readParts_written, Option.map_some, List.append_nil,
    ← List.map_reverse, joinParts_map, List.reverse_reverse, String.ofList_toList]

/-- The text of a string tells the string and where it ends. -/
theorem renderString_append_inj {text text' : String} {rest rest' : List Char}
    (same : (renderString text).toList ++ rest = (renderString text').toList ++ rest') :
    text = text' ∧ rest = rest' := by
  simp only [renderString, String.toList_ofList, List.cons_append, List.append_assoc] at same
  have read := congrArg Document.readString (List.cons.inj same).2
  rw [readString_written, readString_written] at read
  simpa using read

end FeatureFlags.Json
