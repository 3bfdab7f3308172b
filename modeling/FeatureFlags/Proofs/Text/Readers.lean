import Mathlib.Data.List.TakeDrop
import Mathlib.Data.List.TakeWhile

/-!
Readers that read the texts of a grammar and no others. What such a reader gives is written back as
the text that it came from, so that it tells the texts apart.
-/

namespace FeatureFlags.Text

/-- What a span takes goes up to the first item that does not belong. -/
theorem span_eq_iff {α : Type} {p : α → Bool} {items body rest : List α} :
    items.span p = (body, rest) ↔
      items = body ++ rest ∧ (∀ a ∈ body, p a = true) ∧ ∀ a ∈ rest.head?, p a = false := by
  rw [List.span_eq_takeWhile_dropWhile, Prod.mk.injEq]
  constructor
  · rintro ⟨rfl, rfl⟩
    refine ⟨List.takeWhile_append_dropWhile.symm, fun a => List.mem_takeWhile_imp, ?_⟩
    intro a first
    have stops := List.head?_dropWhile_not p items
    rw [Option.mem_def.mp first] at stops
    exact stops
  · rintro ⟨rfl, inside, outside⟩
    rw [List.takeWhile_append_of_pos inside, List.dropWhile_append_of_pos inside]
    cases rest with
    | nil => simp
    | cons a rest => simp [outside a rfl]

/-- Pieces with a mark between them, at least one. -/
def Separated (mark : Char) (piece : List Char → Prop) (text : List Char) : Prop :=
  ∃ pieces, pieces ≠ [] ∧ (∀ part ∈ pieces, piece part) ∧ text = [mark].intercalate pieces

/-- What holds of the pieces and of the mark holds of the whole. -/
theorem Separated.forall_mem {mark : Char} {piece : List Char → Prop} {text : List Char}
    {inside : Char → Prop} (separated : Separated mark piece text) (own : inside mark)
    (each : ∀ part, piece part → ∀ c ∈ part, inside c) : ∀ c ∈ text, inside c := by
  obtain ⟨pieces, -, grammatical, rfl⟩ := separated
  induction pieces with
  | nil => exact nofun
  | cons part pieces ih =>
      obtain ⟨first, others⟩ := List.forall_mem_cons.mp grammatical
      cases pieces with
      | nil =>
          rw [List.intercalate_singleton]
          exact each part first
      | cons _ _ =>
          rw [List.intercalate_cons_cons, List.forall_mem_append, List.forall_mem_append]
          exact ⟨⟨each part first, by simpa using own⟩, ih others⟩

/-- A reader of a grammar, with a writer that undoes it. -/
structure Exact {ι α : Type} (grammar : ι → Prop) (read : ι → Option α) (write : α → ι) : Prop where
  reads : ∀ {text}, grammar text → ∃ value, read text = some value
  faithful : ∀ {text value}, read text = some value → grammar text ∧ write value = text

namespace Exact
variable {ι α : Type} {grammar : ι → Prop} {read : ι → Option α} {write : α → ι}

theorem isSome_iff (exact : Exact grammar read write) {text : ι} :
    (read text).isSome = true ↔ grammar text := by
  rw [Option.isSome_iff_exists]
  exact ⟨fun ⟨_, given⟩ => (exact.faithful given).1, exact.reads⟩

/-- A list is read as a whole if each of its items is read. -/
theorem mapM (exact : Exact grammar read write) :
    Exact (fun items => ∀ item ∈ items, grammar item) (List.mapM read) (List.map write) where
  reads {items} each := by
    induction items with
    | nil => exact ⟨[], rfl⟩
    | cons item items ih =>
        obtain ⟨first, others⟩ := List.forall_mem_cons.mp each
        obtain ⟨value, given⟩ := exact.reads first
        obtain ⟨values, more⟩ := ih others
        exact ⟨value :: values, by simp [List.mapM_cons, given, more]⟩
  faithful {items values} given := by
    induction items generalizing values with
    | nil =>
        obtain rfl : [] = values := Option.some.inj given
        exact ⟨nofun, rfl⟩
    | cons item items ih =>
        simp only [List.mapM_cons, bind, Option.bind_eq_some_iff] at given
        obtain ⟨value, first, others, more, ⟨⟩⟩ := given
        obtain ⟨grammatical, written⟩ := exact.faithful first
        obtain ⟨each, rest⟩ := ih more
        exact ⟨List.forall_mem_cons.mpr ⟨grammatical, each⟩, by rw [List.map_cons, written, rest]⟩

section Separated
variable {mark : Char} {piece : List Char → Prop} {readPiece : List Char → Option α}
  {writePiece : α → List Char}

/-- Pieces are read apart if the mark is in none of them. -/
theorem separated (exact : Exact piece readPiece writePiece)
    (unmarked : ∀ part, piece part → mark ∉ part) :
    Exact (Separated mark piece) (fun text => (text.splitOn mark).mapM readPiece)
      (fun values => [mark].intercalate (values.map writePiece)) where
  reads := by
    rintro _ ⟨pieces, nonempty, each, rfl⟩
    rw [List.splitOn_intercalate mark (fun part member => unmarked part (each part member))
      nonempty]
    exact exact.mapM.reads each
  faithful {text values} given := by
    obtain ⟨each, written⟩ := exact.mapM.faithful given
    exact ⟨⟨_, List.splitOn_ne_nil mark text, each, (List.intercalate_splitOn mark).symm⟩,
      by rw [written, List.intercalate_splitOn]⟩

theorem ne_nil_of_separated (exact : Exact piece readPiece writePiece) {text : List Char}
    {values : List α} (given : (text.splitOn mark).mapM readPiece = some values) : values ≠ [] := by
  rintro rfl
  exact List.splitOn_ne_nil mark text (exact.mapM.faithful given).2.symm

end Separated
end Exact
end FeatureFlags.Text
