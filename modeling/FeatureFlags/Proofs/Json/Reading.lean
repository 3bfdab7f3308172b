import FeatureFlags.Proofs.Json.Tokens

/-!
Which texts are JSON, and what they stand for. The reader takes the texts of the grammar and no
others, and gives the value that the grammar has for them.
-/

namespace FeatureFlags.Json
open Grammar Document

theorem blanks_of_skipBlanks {text rest : List Char} (skips : skipBlanks text = rest) :
    Blanks text rest :=
  skips ▸ blanks_skipBlanks text

/-- What is read with this fuel is in the grammar: a value with blanks in front of it, and the items
or members behind those that are done. -/
structure Sound (fuel : Nat) : Prop where
  value : ∀ {text document rest}, readValue fuel text = some (document, rest) →
    Value (skipBlanks text) document rest
  items : ∀ {done text document rest}, readItems fuel done text = some (document, rest) →
    ∃ items, document = .array (done.reverse ++ items) ∧ Items text items rest
  members : ∀ {done text document rest}, readMembers fuel done text = some (document, rest) →
    ∃ members, document = .object (done.reverse ++ members) ∧ Members text members rest

namespace Sound
variable {fuel : Nat} {text rest : List Char} {document : Document}

theorem value_succ (sound : Sound fuel) (read : readValue (fuel + 1) text = some (document, rest)) :
    Value (skipBlanks text) document rest := by
  rw [readValue] at read
  split at read
  · rename_i own
    rw [own]
    cases read
    exact .null
  · rename_i own
    rw [own]
    cases read
    exact .isTrue
  · rename_i own
    rw [own]
    cases read
    exact .isFalse
  · rename_i own
    rw [own]
    simp only [Option.map_eq_some_iff, Prod.exists, Prod.mk.injEq] at read
    obtain ⟨value, rest, read, rfl, rfl⟩ := read
    exact .string (readString_eq_some_iff.mp read)
  · rename_i own
    rw [own]
    split at read
    · rename_i closes
      cases read
      exact .emptyArray (blanks_of_skipBlanks closes)
    · obtain ⟨items, rfl, written⟩ := sound.items read
      exact .array (written.of_blanks (blanks_skipBlanks _))
  · rename_i own
    rw [own]
    split at read
    · rename_i closes
      cases read
      exact .emptyObject (blanks_of_skipBlanks closes)
    · obtain ⟨members, rfl, written⟩ := sound.members read
      exact .object (written.of_blanks (blanks_skipBlanks _))
  · simp only [Option.map_eq_some_iff, Prod.exists, Prod.mk.injEq] at read
    obtain ⟨literal, rest, read, rfl, rfl⟩ := read
    exact .number (literal_of_readNumeral read)

theorem items_succ (sound : Sound fuel) {done : List Document}
    (read : readItems (fuel + 1) done text = some (document, rest)) :
    ∃ items, document = .array (done.reverse ++ items) ∧ Items text items rest := by
  simp only [readItems, Option.bind_eq_bind, Option.bind_eq_some_iff] at read
  obtain ⟨⟨item, behind⟩, value, read⟩ := read
  have written := sound.value value
  split at read
  · rename_i others ends
    obtain ⟨items, rfl, more⟩ := sound.items read
    exact ⟨item :: items, by simp,
      .more (blanks_skipBlanks text) written (blanks_of_skipBlanks ends) more⟩
  · rename_i ends
    cases read
    exact ⟨[item], by simp, .last (blanks_skipBlanks text) written (blanks_of_skipBlanks ends)⟩
  · cases read

theorem members_succ (sound : Sound fuel) {done : List (Option String × Document)}
    (read : readMembers (fuel + 1) done text = some (document, rest)) :
    ∃ members, document = .object (done.reverse ++ members) ∧ Members text members rest := by
  simp only [readMembers] at read
  split at read
  · rename_i name begins
    simp only [Option.bind_eq_bind, Option.bind_eq_some_iff] at read
    obtain ⟨⟨key, behind⟩, quoted, read⟩ := read
    split at read
    · rename_i colon names
      obtain ⟨⟨member, behind'⟩, value, read⟩ := Option.bind_eq_some_iff.mp read
      have first : Member text (key, member) behind' :=
        .mk (blanks_of_skipBlanks begins) (readString_eq_some_iff.mp quoted)
          (blanks_of_skipBlanks names) (blanks_skipBlanks colon) (sound.value value)
      split at read
      · rename_i others ends
        obtain ⟨members, rfl, more⟩ := sound.members read
        exact ⟨(key, member) :: members, by simp, .more first (blanks_of_skipBlanks ends) more⟩
      · rename_i ends
        cases read
        exact ⟨[(key, member)], by simp, .last first (blanks_of_skipBlanks ends)⟩
      · cases read
    · cases read
  · cases read

end Sound

theorem sound (fuel : Nat) : Sound fuel := by
  induction fuel with
  | zero =>
    refine ⟨fun read => ?_, fun read => ?_, fun read => ?_⟩
    · simp [readValue] at read
    · simp [readItems] at read
    · simp [readMembers] at read
  | succ fuel ih => exact ⟨ih.value_succ, ih.items_succ, ih.members_succ⟩

section Steps
variable {fuel : Nat} {text own rest : List Char}

theorem skipBlanks_of_mark {mark : Char} (skipped : Blanks text (mark :: rest))
    (plain : mark ∉ blanks) : skipBlanks text = mark :: rest :=
  skipBlanks_of_blanks skipped fun _ first => Option.some.inj first ▸ plain

theorem skipBlanks_of_value {document : Document} (skipped : Blanks text own)
    (written : Value own document rest) : skipBlanks text = own := by
  obtain ⟨c, behind, rfl, plain, -⟩ := written.head
  exact skipBlanks_of_mark skipped plain

theorem ends_cons {mark : Char}
    (plain : mark.isDigit = false ∧ mark ≠ '.' ∧ mark ≠ 'e' ∧ mark ≠ 'E') : Ends (mark :: rest) :=
  fun _ first => Option.some.inj first ▸ plain

/-- Blanks end a number. -/
theorem ends_of_blanks (skipped : Blanks text rest) (ends : Ends rest) : Ends text := by
  obtain ⟨blank, each, rfl⟩ := skipped
  cases blank with
  | nil => exact ends
  | cons c blank =>
      have own := each c List.mem_cons_self
      simp only [blanks, List.mem_cons, List.not_mem_nil, or_false] at own
      rcases own with rfl | rfl | rfl | rfl <;> exact ends_cons (by decide)

theorem readValue_of_literal {literal : Numeral} (skips : skipBlanks text = own)
    (written : Literal own literal rest) (ends : Ends rest) :
    readValue (fuel + 1) text = some (.number literal, rest) := by
  have read := readNumeral_of_literal written ends
  obtain ⟨c, behind, rfl, first⟩ := written.head
  have marked {mark : Char} {others : List Char} (other : mark ≠ '-' ∧ mark.isDigit = false) :
      skipBlanks text ≠ mark :: others := by
    rw [skips]
    rintro ⟨⟩
    rcases first with minus | digit
    · exact other.1 minus
    · rw [digit] at other
      cases other.2
  rw [readValue]
  split
  · exact absurd ‹_› (marked (by decide))
  · exact absurd ‹_› (marked (by decide))
  · exact absurd ‹_› (marked (by decide))
  · exact absurd ‹_› (marked (by decide))
  · exact absurd ‹_› (marked (by decide))
  · exact absurd ‹_› (marked (by decide))
  · rw [skips, read]
    rfl

end Steps

/-- What is in the grammar is read with this fuel, if it has twice as many steps as characters. -/
structure Complete (fuel : Nat) : Prop where
  value : ∀ {text own document rest}, Value own document rest → Ends rest → Blanks text own →
    2 * own.length ≤ fuel + 2 * rest.length → readValue fuel text = some (document, rest)
  items : ∀ {text items rest}, Items text items rest →
    2 * text.length + 1 ≤ fuel + 2 * rest.length →
      ∀ done, readItems fuel done text = some (.array (done.reverse ++ items), rest)
  members : ∀ {text members rest}, Members text members rest →
    2 * text.length + 1 ≤ fuel + 2 * rest.length →
      ∀ done, readMembers fuel done text = some (.object (done.reverse ++ members), rest)

namespace Complete
variable {fuel : Nat} {text own rest : List Char}

theorem value_succ (complete : Complete fuel) {document : Document}
    (written : Value own document rest) (ends : Ends rest) (skipped : Blanks text own)
    (enough : 2 * own.length ≤ fuel + 1 + 2 * rest.length) :
    readValue (fuel + 1) text = some (document, rest) := by
  have skips := skipBlanks_of_value skipped written
  cases written with
  | null =>
      rw [readValue, skips]
      rfl
  | isTrue =>
      rw [readValue, skips]
      rfl
  | isFalse =>
      rw [readValue, skips]
      rfl
  | number literal => exact readValue_of_literal skips literal ends
  | string quoted =>
      rw [readValue, skips]
      simp only [readString_eq_some_iff.mpr quoted, Option.map_some]
  | emptyArray closes =>
      rw [readValue, skips]
      simp only [skipBlanks_of_mark closes (by decide)]
  | array items =>
      obtain ⟨c, behind, begins, inner, plain, other⟩ := items.head
      have shorter := begins.length_le
      rw [readValue, skips]
      simp only [skipBlanks_of_mark begins plain]
      split
      · rename_i closes
        exact absurd (List.cons.inj closes).1 other
      · exact complete.items inner (by simp only [List.length_cons] at *; omega) []
  | emptyObject closes =>
      rw [readValue, skips]
      simp only [skipBlanks_of_mark closes (by decide)]
  | object members =>
      obtain ⟨name, begins, inner⟩ := members.head
      have shorter := begins.length_le
      rw [readValue, skips]
      simp only [skipBlanks_of_mark begins (by decide)]
      exact complete.members inner (by simp only [List.length_cons] at *; omega) []

theorem items_succ (complete : Complete fuel) {items : List Document}
    (written : Items text items rest) (enough : 2 * text.length + 1 ≤ fuel + 1 + 2 * rest.length)
    (done : List Document) :
    readItems (fuel + 1) done text = some (.array (done.reverse ++ items), rest) := by
  cases written with
  | last begins value closes =>
      have shorter := begins.length_le
      have shorter' := closes.length_le
      simp only [List.length_cons] at shorter'
      have behind := ends_of_blanks closes (ends_cons (by decide))
      have read := complete.value value behind begins (by omega)
      simp [readItems, read, skipBlanks_of_mark closes (by decide)]
  | more begins value ends others =>
      have shorter := begins.length_le
      have shorter' := ends.length_le
      have progress := value.length_lt
      have progress' := others.length_lt
      simp only [List.length_cons] at shorter'
      have behind := ends_of_blanks ends (ends_cons (by decide))
      have read := complete.value value behind begins (by omega)
      simp [readItems, read, skipBlanks_of_mark ends (by decide), complete.items others (by omega)]

/-- A name and its value are read one after the other. -/
theorem readMember (complete : Complete fuel) {key : Option String} {member : Document}
    (written : Member text (key, member) rest) (ends : Ends rest)
    (enough : 2 * text.length ≤ fuel + 2 + 2 * rest.length) :
    ∃ name behind colon, skipBlanks text = '"' :: name ∧
      readString name = some (key, behind) ∧ skipBlanks behind = ':' :: colon ∧
        readValue fuel colon = some (member, rest) := by
  cases written with
  | mk begins quoted names begins' value =>
      have shorter := begins.length_le
      have shorter' := names.length_le
      have shorter'' := begins'.length_le
      have progress := quoted.length_lt
      simp only [List.length_cons] at shorter shorter'
      exact ⟨_, _, _, skipBlanks_of_mark begins (by decide), readString_eq_some_iff.mpr quoted,
        skipBlanks_of_mark names (by decide), complete.value value ends begins' (by omega)⟩

theorem members_succ (complete : Complete fuel) {members : List (Option String × Document)}
    (written : Members text members rest)
    (enough : 2 * text.length + 1 ≤ fuel + 1 + 2 * rest.length)
    (done : List (Option String × Document)) :
    readMembers (fuel + 1) done text = some (.object (done.reverse ++ members), rest) := by
  cases written with
  | @last _ behind _ member first closes =>
      have shorter := closes.length_le
      simp only [List.length_cons] at shorter
      obtain ⟨name, behind, colon, begins, quoted, names, value⟩ :=
        complete.readMember first (ends_of_blanks closes (ends_cons (by decide))) (by omega)
      simp [readMembers, begins, quoted, names, value, skipBlanks_of_mark closes (by decide)]
  | more first ends others =>
      have shorter := ends.length_le
      have progress := first.length_lt
      have progress' := others.length_lt
      simp only [List.length_cons] at shorter
      obtain ⟨name, behind, colon, begins, quoted, names, value⟩ :=
        complete.readMember first (ends_of_blanks ends (ends_cons (by decide))) (by omega)
      simp [readMembers, begins, quoted, names, value, skipBlanks_of_mark ends (by decide),
        complete.members others (by omega)]

end Complete

theorem complete (fuel : Nat) : Complete fuel := by
  induction fuel with
  | zero =>
    refine ⟨fun value _ _ enough => ?_, fun items enough => ?_, fun members enough => ?_⟩
    · have := value.length_lt
      omega
    · have := items.length_lt
      omega
    · have := members.length_lt
      omega
  | succ fuel ih => exact ⟨ih.value_succ, ih.items_succ, ih.members_succ⟩

theorem Document.read_eq (text : String) :
    Document.read text =
      (readValue (2 * text.toList.length + 2) text.toList).bind fun (document, rest) =>
        if (skipBlanks rest).isEmpty then some document else none := by
  rw [Document.read]
  cases readValue (2 * text.toList.length + 2) text.toList with
  | none => rfl
  | some value =>
      change Option.bind (guard _) _ = ite _ _ _
      by_cases closes : (skipBlanks value.2).isEmpty = true
      · rw [guard, if_pos closes, if_pos closes]
        rfl
      · rw [guard, if_neg closes, if_neg closes]
        rfl

/-- The trees that are read are those that the grammar has for a text. -/
theorem Document.read_eq_some_iff {text : String} {document : Document} :
    Document.read text = some document ↔ Grammar.Text text.toList document := by
  rw [Document.read_eq, Option.bind_eq_some_iff]
  constructor
  · rintro ⟨⟨document, behind⟩, read, closes⟩
    rw [Option.ite_none_right_eq_some, List.isEmpty_iff] at closes
    obtain ⟨nothing, ⟨⟩⟩ := closes
    exact ⟨_, behind, blanks_skipBlanks _, (sound _).value read, blanks_of_skipBlanks nothing⟩
  · rintro ⟨own, behind, begins, value, closes⟩
    have shorter := begins.length_le
    have read := (complete (2 * text.toList.length + 2)).value value
      (ends_of_blanks closes fun _ first => by cases first) begins (by omega)
    have nothing := skipBlanks_of_blanks closes fun _ first => by cases first
    exact ⟨(document, behind), read, if_pos (List.isEmpty_iff.mpr nothing)⟩

end FeatureFlags.Json
