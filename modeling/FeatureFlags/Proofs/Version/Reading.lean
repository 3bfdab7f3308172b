import FeatureFlags.Version
import FeatureFlags.Proofs.Decimal.Numerals
import FeatureFlags.Proofs.Text.Readers

/-!
Which texts are versions. The reader accepts the texts of a small grammar, and what it reads is
written back as the same text, so that a version tells the text it was read from.
-/

namespace FeatureFlags.Version
open Text

/-- A number of 64 bits. -/
def IsNumber (digits : List Char) : Prop := IsNumeral digits ∧ ofDigits digits < UInt64.size

/-- A word of ASCII letters, digits and hyphens. -/
structure IsPart (part : List Char) : Prop where
  nonempty : part ≠ []
  chars : ∀ c ∈ part, c.isAlphanum = true ∨ c = '-'

/-- A part of a pre-release: one of digits alone has no leading zeros. -/
structure IsPrePart (part : List Char) : Prop extends IsPart part where
  leading : (∀ c ∈ part, c.isDigit = true) → part.head? = some '0' → part = ['0']

/-- Nothing, or parts with dots between them behind a mark. -/
def IsSuffix (mark : Char) (part : List Char → Prop) (text : List Char) : Prop :=
  text = [] ∨ ∃ parts, Separated '.' part parts ∧ text = mark :: parts

/-- One, two or three numbers, and behind the third one perhaps a pre-release and build metadata. -/
inductive Grammar : List Char → Prop where
  | majorOnly {major : List Char} : IsNumber major → Grammar major
  | majorMinor {major minor : List Char} : IsNumber major → IsNumber minor →
      Grammar (major ++ '.' :: minor)
  | full {major minor patch pre build : List Char} : IsNumber major → IsNumber minor →
      IsNumber patch → IsSuffix '-' IsPrePart pre → IsSuffix '+' IsPart build →
      Grammar (major ++ '.' :: (minor ++ '.' :: (patch ++ (pre ++ build))))

theorem splitDots_eq (text : List Char) : splitDots text = text.splitOn '.' := by
  induction text with
  | nil => rfl
  | cons c text ih =>
      rw [splitDots, ih, List.splitOn_cons_eq_if_modifyHead]
      cases pieces : text.splitOn '.' with
      | nil => exact absurd pieces (List.splitOn_ne_nil '.' text)
      | cons piece pieces => simp

/-- A number is read up to the first character that is no digit. -/
theorem readNumber_eq_some {text rest : List Char} {n : Nat} :
    readNumber text = some (n, rest) ↔ ∃ digits, IsNumber digits ∧ ofDigits digits = n ∧
      text = digits ++ rest ∧ ∀ c ∈ rest.head?, c.isDigit = false := by
  constructor
  · intro given
    obtain ⟨digits, behind, spanned⟩ : ∃ digits behind, spanDigits text = (digits, behind) :=
      ⟨_, _, rfl⟩
    obtain ⟨whole, isDigit, outside⟩ := span_eq_iff.mp spanned
    simp only [readNumber, spanned] at given
    split at given
    · cases given
    · cases given
    · rename_i nonempty leading
      split at given
      · rename_i fits
        cases given
        exact ⟨digits, ⟨⟨nonempty, isDigit, leading_iff.mpr leading⟩, fits⟩, rfl, whole, outside⟩
      · cases given
  · rintro ⟨digits, ⟨numeral, fits⟩, rfl, rfl, outside⟩
    have spanned : spanDigits (digits ++ rest) = (digits, rest) :=
      span_eq_iff.mpr ⟨rfl, numeral.isDigit, outside⟩
    simp only [readNumber, spanned]
    split
    · exact absurd rfl numeral.nonempty
    · cases numeral.leading rfl
    · rw [if_pos fits]

theorem isPart_iff {part : List Char} :
    (!part.isEmpty && part.all isIdentifierChar) = true ↔ IsPart part := by
  simp only [Bool.and_eq_true, Bool.not_eq_true', List.isEmpty_eq_false_iff, List.all_eq_true,
    isIdentifierChar, Bool.or_eq_true, decide_eq_true_eq]
  exact ⟨fun ⟨nonempty, chars⟩ => ⟨nonempty, chars⟩, fun word => ⟨word.nonempty, word.chars⟩⟩

theorem readBuildPart_eq_some {part : List Char} {text : String} :
    readBuildPart part = some text ↔ IsPart part ∧ text = String.ofList part := by
  by_cases word : IsPart part
  · rw [readBuildPart, if_pos (isPart_iff.mpr word), Option.some.injEq]
    exact ⟨fun same => ⟨word, same.symm⟩, fun ⟨_, same⟩ => same.symm⟩
  · rw [readBuildPart, if_neg (mt isPart_iff.mp word)]
    exact ⟨nofun, fun ⟨own, _⟩ => absurd own word⟩

theorem exact_buildPart : Exact IsPart readBuildPart String.toList where
  reads {part} word := ⟨_, readBuildPart_eq_some.mpr ⟨word, rfl⟩⟩
  faithful {part text} given := by
    obtain ⟨word, rfl⟩ := readBuildPart_eq_some.mp given
    exact ⟨word, String.toList_ofList⟩

theorem IsPrePart.isNumeral {part : List Char} (word : IsPrePart part)
    (digits : part.all Char.isDigit = true) : IsNumeral part :=
  have isDigit := List.all_eq_true.mp digits
  ⟨word.nonempty, isDigit, word.leading isDigit⟩

theorem exact_prePart : Exact IsPrePart readPrePart (·.render.toList) where
  reads {part} word := by
    have read := readBuildPart_eq_some.mpr ⟨word.toIsPart, rfl⟩
    simp only [readPrePart, read]
    split
    · rename_i digits
      -- A part of digits alone is refused for a zero in front only, and it has none.
      split
      · cases (word.isNumeral digits).leading rfl
      · exact ⟨_, rfl⟩
    · exact ⟨_, rfl⟩
  faithful {part identifier} given := by
    simp only [readPrePart] at given
    split at given
    · cases given
    · rename_i text read
      obtain ⟨word, rfl⟩ := readBuildPart_eq_some.mp read
      split at given
      · rename_i digits
        split at given
        · cases given
        · rename_i leading
          cases given
          have isPre : IsPrePart part := ⟨word, fun _ => leading_iff.mpr leading⟩
          refine ⟨isPre, ?_⟩
          rw [Identifier.render, Nat.toString_eq_ofList_toDigits, String.toList_ofList]
          exact (isPre.isNumeral digits).toDigits_ofDigits
      · rename_i letters
        cases given
        refine ⟨⟨word, fun digits => absurd (List.all_eq_true.mpr digits) letters⟩, ?_⟩
        exact String.toList_ofList

section Suffix
variable {α : Type} {mark : Char} {part : List Char → Prop} {readPart : List Char → Option α}
  {writePart : α → List Char}

/-- Nothing, or a mark and the parts behind it. -/
def readParts (mark : Char) (readPart : List Char → Option α) : List Char → Option (List α)
  | [] => some []
  | c :: text => if c = mark then (text.splitOn '.').mapM readPart else none

def writeParts (mark : Char) (parts : List (List Char)) : List Char :=
  if parts.isEmpty then [] else mark :: ['.'].intercalate parts

theorem exact_parts (mark : Char) (exact : Exact part readPart writePart)
    (dotless : ∀ text, part text → '.' ∉ text) :
    Exact (IsSuffix mark part) (readParts mark readPart) fun parts =>
      writeParts mark (parts.map writePart) where
  reads := by
    rintro _ (rfl | ⟨parts, separated, rfl⟩)
    · exact ⟨[], rfl⟩
    · simp only [readParts, if_true]
      exact (exact.separated dotless).reads separated
  faithful {text values} given := by
    cases text with
    | nil =>
        obtain rfl : [] = values := Option.some.inj given
        exact ⟨.inl rfl, rfl⟩
    | cons c text =>
        simp only [readParts] at given
        split at given
        · rename_i own
          subst own
          obtain ⟨separated, written⟩ := (exact.separated dotless).faithful given
          have nonempty : ¬ (values.map writePart).isEmpty = true := by
            simpa using exact.ne_nil_of_separated given
          refine ⟨.inr ⟨text, separated, rfl⟩, ?_⟩
          rw [writeParts, if_neg nonempty, written]
        · cases given

end Suffix

/-- A pre-release ends at the first plus sign. -/
theorem readSuffix_eq {text pre build : List Char} (divided : text.span (· ≠ '+') = (pre, build)) :
    readSuffix text = do
      let pre ← readParts '-' readPrePart pre
      let build ← readParts '+' readBuildPart build
      return (pre, build) := by
  obtain ⟨rfl, before, behind⟩ := span_eq_iff.mp divided
  -- The reader looks at the first character, which is that of the pre-release if there is one.
  cases pre with
  | nil =>
      cases build with
      | nil => rfl
      | cons c build =>
          obtain rfl : c = '+' := by simpa using behind
          simp [readSuffix, readParts, splitDots_eq]
  | cons c pre =>
      obtain ⟨noPlus, within⟩ := List.forall_mem_cons.mp before
      by_cases dash : c = '-'
      · subst dash
        have divided : (pre ++ build).span (· ≠ '+') = (pre, build) :=
          span_eq_iff.mpr ⟨rfl, within, behind⟩
        simp only [List.cons_append, readSuffix, divided, splitDots_eq, readParts, if_true]
        cases build with
        | nil => rfl
        | cons c build =>
            obtain rfl : c = '+' := by simpa using behind
            simp
      · have plus : c ≠ '+' := by simpa using noPlus
        simp [readSuffix, readParts, dash, plus]

theorem IsPart.not_mem {part : List Char} (word : IsPart part) {c : Char}
    (other : c.isAlphanum = false) (noDash : c ≠ '-') : c ∉ part := by
  intro member
  rcases word.chars c member with letter | dash
  · rw [other] at letter
    cases letter
  · exact noDash dash

/-- There is no plus sign in a pre-release, and build metadata starts with one. -/
theorem span_suffixes {pre build : List Char} (isPre : IsSuffix '-' IsPrePart pre)
    (isBuild : IsSuffix '+' IsPart build) : (pre ++ build).span (· ≠ '+') = (pre, build) := by
  refine span_eq_iff.mpr ⟨rfl, ?_, ?_⟩
  · rcases isPre with rfl | ⟨parts, separated, rfl⟩
    · exact nofun
    · refine List.forall_mem_cons.mpr ⟨by decide, separated.forall_mem (by decide) ?_⟩
      intro part word c member
      have : c ≠ '+' := fun plus => word.not_mem (by decide) (by decide) (plus ▸ member)
      simpa using this
  · rcases isBuild with rfl | ⟨parts, -, rfl⟩
    · exact nofun
    · simp

def writeSuffix (suffix : List Identifier × List String) : List Char :=
  writeParts '-' (suffix.1.map (·.render.toList)) ++ writeParts '+' (suffix.2.map String.toList)

theorem exact_suffix :
    Exact (fun text => ∃ pre build, IsSuffix '-' IsPrePart pre ∧ IsSuffix '+' IsPart build ∧
      text = pre ++ build) readSuffix writeSuffix := by
  have exactPre := exact_parts '-' exact_prePart
    fun part word => word.not_mem (by decide) (by decide)
  have exactBuild := exact_parts '+' exact_buildPart
    fun part word => word.not_mem (by decide) (by decide)
  constructor
  · rintro _ ⟨pre, build, isPre, isBuild, rfl⟩
    obtain ⟨identifiers, readPre⟩ := exactPre.reads isPre
    obtain ⟨words, readBuild⟩ := exactBuild.reads isBuild
    rw [readSuffix_eq (span_suffixes isPre isBuild), readPre, readBuild]
    exact ⟨_, rfl⟩
  · intro text suffix given
    obtain ⟨pre, build, divided⟩ : ∃ pre build, text.span (· ≠ '+') = (pre, build) := ⟨_, _, rfl⟩
    rw [readSuffix_eq divided] at given
    simp only [bind, Option.bind_eq_some_iff] at given
    obtain ⟨identifiers, readPre, words, readBuild, ⟨⟩⟩ := given
    obtain ⟨isPre, writtenPre⟩ := exactPre.faithful readPre
    obtain ⟨isBuild, writtenBuild⟩ := exactBuild.faithful readBuild
    have whole := (span_eq_iff.mp divided).1
    exact ⟨⟨pre, build, isPre, isBuild, whole⟩, by rw [writeSuffix, writtenPre, writtenBuild, whole]⟩

theorem IsNumber.read {digits : List Char} (number : IsNumber digits) (rest : List Char)
    (ends : ∀ c ∈ rest.head?, c.isDigit = false) :
    readNumber (digits ++ rest) = some (ofDigits digits, rest) :=
  readNumber_eq_some.mpr ⟨digits, number, rfl, rfl, ends⟩

theorem IsNumber.read_all {digits : List Char} (number : IsNumber digits) :
    readNumber digits = some (ofDigits digits, []) := by
  simpa using number.read [] nofun

theorem IsNumber.read_dot {digits : List Char} (number : IsNumber digits) (rest : List Char) :
    readNumber (digits ++ '.' :: rest) = some (ofDigits digits, '.' :: rest) :=
  number.read _ (by simp)

theorem IsNumber.written {digits : List Char} (number : IsNumber digits) :
    (toString (ofDigits digits)).toList = digits := by
  rw [Nat.toString_eq_ofList_toDigits, String.toList_ofList, number.1.toDigits_ofDigits]

/-- Behind the third number there is no further digit. -/
theorem suffix_ends {pre build : List Char} (isPre : IsSuffix '-' IsPrePart pre)
    (isBuild : IsSuffix '+' IsPart build) : ∀ c ∈ (pre ++ build).head?, c.isDigit = false := by
  rcases isPre with rfl | ⟨parts, -, rfl⟩
  · rcases isBuild with rfl | ⟨parts, -, rfl⟩
    · exact nofun
    · simp
  · simp

theorem render_majorOnly_toList (major : Nat) :
    (majorOnly major).render.toList = (toString major).toList := by
  simp [render, numbers]

theorem render_majorMinor_toList (major minor : Nat) :
    (majorMinor major minor).render.toList =
      (toString major).toList ++ '.' :: (toString minor).toList := by
  simp [render, numbers]

theorem toList_parts {sign : String} {mark : Char} (signed : sign.toList = [mark])
    (parts : List String) :
    (if parts.isEmpty then "" else sign ++ ".".intercalate parts).toList =
      writeParts mark (parts.map String.toList) := by
  cases parts <;> simp [writeParts, signed]

theorem toList_suffix (pre : List Identifier) (build : List String) :
    (if pre.isEmpty then "" else "-" ++ ".".intercalate (pre.map Identifier.render)).toList ++
      (if build.isEmpty then "" else "+" ++ ".".intercalate build).toList =
      writeSuffix (pre, build) := by
  have written := toList_parts (show "-".toList = ['-'] from rfl) (pre.map Identifier.render)
  rw [List.isEmpty_map, List.map_map] at written
  rw [written, toList_parts rfl]
  rfl

theorem render_full_toList (major minor patch : Nat) (pre : List Identifier) (build : List String) :
    (full major minor patch pre build).render.toList =
      (toString major).toList ++ '.' :: ((toString minor).toList ++
        '.' :: ((toString patch).toList ++ writeSuffix (pre, build))) := by
  simp only [render, numbers, String.toList_append, List.append_assoc, toList_suffix]
  simp

theorem exact_parse : Exact (fun text => Grammar text.toList) parse render where
  reads {text} grammar := by
    simp only [parse]
    generalize text.toList = chars at grammar
    cases grammar with
    | majorOnly isMajor =>
        rw [isMajor.read_all]
        exact ⟨_, rfl⟩
    | majorMinor isMajor isMinor =>
        rw [isMajor.read_dot]
        simp only [bind, Option.bind_some]
        rw [isMinor.read_all]
        exact ⟨_, rfl⟩
    | full isMajor isMinor isPatch isPre isBuild =>
        obtain ⟨suffix, read⟩ := exact_suffix.reads ⟨_, _, isPre, isBuild, rfl⟩
        rw [isMajor.read_dot]
        simp only [bind, Option.bind_some]
        rw [isMinor.read_dot]
        simp only [Option.bind_some]
        rw [isPatch.read _ (suffix_ends isPre isBuild)]
        simp only [Option.bind_some]
        rw [read]
        exact ⟨_, rfl⟩
  faithful {text version} given := by
    rw [← String.toList_inj]
    simp only [parse, bind, Option.bind_eq_some_iff, Prod.exists] at given
    generalize text.toList = chars at given ⊢
    obtain ⟨_, rest, readMajor, behindMajor⟩ := given
    obtain ⟨major, isMajor, rfl, rfl, -⟩ := readNumber_eq_some.mp readMajor
    split at behindMajor
    · cases behindMajor
      rw [List.append_nil, render_majorOnly_toList, isMajor.written]
      exact ⟨.majorOnly isMajor, rfl⟩
    · obtain ⟨⟨_, rest⟩, readMinor, behindMinor⟩ := Option.bind_eq_some_iff.mp behindMajor
      obtain ⟨minor, isMinor, rfl, rfl, -⟩ := readNumber_eq_some.mp readMinor
      split at behindMinor
      · rename_i ended
        cases ended
        cases behindMinor
        rw [List.append_nil, render_majorMinor_toList, isMajor.written, isMinor.written]
        exact ⟨.majorMinor isMajor isMinor, rfl⟩
      · rename_i dotted
        cases dotted
        obtain ⟨⟨_, rest⟩, readPatch, behindPatch⟩ := Option.bind_eq_some_iff.mp behindMinor
        obtain ⟨patch, isPatch, rfl, rfl, -⟩ := readNumber_eq_some.mp readPatch
        obtain ⟨⟨identifiers, words⟩, readRest, ⟨⟩⟩ := Option.bind_eq_some_iff.mp behindPatch
        obtain ⟨⟨pre, build, isPre, isBuild, rfl⟩, writtenRest⟩ := exact_suffix.faithful readRest
        rw [render_full_toList, isMajor.written, isMinor.written, isPatch.written, writtenRest]
        exact ⟨.full isMajor isMinor isPatch isPre isBuild, rfl⟩
      · cases behindMinor
    · cases behindMajor

/-- A text is a version if and only if it is in the grammar, and then the version is written as that
text. No other text gives the same version. -/
theorem parse_exact (text : String) :
    ((parse text).isSome = true ↔ Grammar text.toList) ∧
      (∀ version, parse text = some version → version.render = text) ∧
      ∀ other, other ≠ text → (parse text).isSome = true → parse other ≠ parse text := by
  refine ⟨exact_parse.isSome_iff, fun version given => (exact_parse.faithful given).2, ?_⟩
  intro other distinct accepted same
  obtain ⟨version, given⟩ := Option.isSome_iff_exists.mp accepted
  have own := (exact_parse.faithful given).2
  have others := (exact_parse.faithful (same.trans given)).2
  exact distinct (others.symm.trans own)

/-- Build metadata, unlike a pre-release, may have leading zeros, and they are kept. -/
theorem parse_beta_with_metadata :
    Grammar "2.1.0-beta.1+05".toList ∧
      (full 2 1 0 [.word "beta", .number 1] ["05"]).render = "2.1.0-beta.1+05" ∧
      parse "2.1.0-beta.1+5" ≠ parse "2.1.0-beta.1+05" := by
  have given : parse "2.1.0-beta.1+05" =
      some (full 2 1 0 [.word "beta", .number 1] ["05"]) := by decide
  have accepted : (parse "2.1.0-beta.1+05").isSome = true := by rw [given]; rfl
  have ⟨grammatical, written, apart⟩ := parse_exact "2.1.0-beta.1+05"
  exact ⟨grammatical.mp accepted, written _ given, apart _ (by decide) accepted⟩

end FeatureFlags.Version
