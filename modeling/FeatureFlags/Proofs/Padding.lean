import FeatureFlags.Proofs.Resolution

/-!
Runs that differ in nothing but some more notes. If all parts of a program differ in such notes
only, so does the whole; and if there are no such notes, nothing differs.
-/

namespace FeatureFlags

/-- The second list is the first one with some more members, which are put in anywhere. -/
inductive Padded {α : Type} (extra : α → Prop) : List α → List α → Prop
  | nil : Padded extra [] []
  | keep (a : α) {items items' : List α} (rest : Padded extra items items') :
      Padded extra (a :: items) (a :: items')
  | add {a : α} {items items' : List α} (isExtra : extra a) (rest : Padded extra items items') :
      Padded extra items (a :: items')

namespace Padded
variable {α β : Type} {extra : α → Prop} {items items' later later' : List α}

theorem refl : ∀ items : List α, Padded extra items items
  | [] => .nil
  | a :: items => .keep a (refl items)

theorem append (padded : Padded extra items items') (after : Padded extra later later') :
    Padded extra (items ++ later) (items' ++ later') := by
  induction padded with
  | nil => exact after
  | keep a _ ih => exact .keep a ih
  | add isExtra _ ih => exact .add isExtra ih

theorem eq_of_none (none : ∀ a, ¬ extra a) (padded : Padded extra items items') :
    items' = items := by
  induction padded with
  | nil => rfl
  | keep a _ ih => rw [ih]
  | add isExtra => exact absurd isExtra (none _)

theorem filter (keeps : α → Bool) (padded : Padded extra items items') :
    Padded (fun a => extra a ∧ keeps a = true) (items.filter keeps) (items'.filter keeps) := by
  induction padded with
  | nil => exact .nil
  | keep a _ ih =>
      by_cases kept : keeps a = true
      · rw [List.filter_cons_of_pos kept, List.filter_cons_of_pos kept]
        exact .keep a ih
      · rw [List.filter_cons_of_neg kept, List.filter_cons_of_neg kept]
        exact ih
  | @add a _ _ isExtra _ ih =>
      by_cases kept : keeps a = true
      · rw [List.filter_cons_of_pos kept]
        exact .add ⟨isExtra, kept⟩ ih
      · rw [List.filter_cons_of_neg kept]
        exact ih

theorem map {extra' : β → Prop} (f : α → β) (maps : ∀ a, extra a → extra' (f a))
    (padded : Padded extra items items') : Padded extra' (items.map f) (items'.map f) := by
  induction padded with
  | nil => exact .nil
  | keep a _ ih => exact .keep (f a) ih
  | add isExtra _ ih => exact .add (maps _ isExtra) ih

end Padded

namespace Traced
variable {α β : Type} {extra : Reason → Prop}

/-- The second computation is the first one with some more notes. -/
structure NotesMore (extra : Reason → Prop) (x y : Traced α) : Prop where
  value : y.value = x.value
  events : y.events = x.events
  reasons : Padded extra x.reasons y.reasons

namespace NotesMore

theorem refl (x : Traced α) : NotesMore extra x x := ⟨rfl, rfl, .refl _⟩

theorem bind {x y : Traced α} {f g : α → Traced β} (first : NotesMore extra x y)
    (second : ∀ a, NotesMore extra (f a) (g a)) : NotesMore extra (x >>= f) (y >>= g) where
  value := by rw [value_bind, value_bind, first.value, (second _).value]
  events := by rw [events_bind, events_bind, first.value, first.events, (second _).events]
  reasons := by
    rw [reasons_bind, reasons_bind, first.value]
    exact first.reasons.append (second _).reasons

theorem eq_of_none {x y : Traced α} (none : ∀ reason, ¬ extra reason)
    (more : NotesMore extra x y) : y = x :=
  Traced.ext more.value (more.reasons.eq_of_none none) more.events

end NotesMore
end Traced

namespace Resolution
variable {σ α β : Type} {extra : Reason → Prop}

/-- From every start the second resolution runs like the first one, with some more notes. -/
def NotesMore (extra : Reason → Prop) (first second : Resolution σ α) : Prop :=
  ∀ start, Traced.NotesMore extra (first start) (second start)

namespace NotesMore

theorem refl (resolution : Resolution σ α) : NotesMore extra resolution resolution :=
  fun start => .refl (resolution start)

theorem lift {x y : Traced α} (more : Traced.NotesMore extra x y) :
    NotesMore extra (liftM x : Resolution σ α) (liftM y) := by
  intro start
  rw [lift_apply, lift_apply]
  exact more.bind fun _ => .refl _

theorem bind {x y : Resolution σ α} {f g : α → Resolution σ β} (first : NotesMore extra x y)
    (second : ∀ a, NotesMore extra (f a) (g a)) : NotesMore extra (x >>= f) (y >>= g) :=
  fun start => (first start).bind fun reached => second reached.1 reached.2

theorem orElse {x y x' y' : Resolution σ (Option α)} (first : NotesMore extra x y)
    (second : NotesMore extra x' y') :
    NotesMore extra (Resolution.orElse x x') (Resolution.orElse y y') := by
  refine first.bind fun result => ?_
  cases result with
  | none => exact second
  | some a => exact .refl _

theorem firstSome {f g : α → Resolution σ (Option β)} {items : List α}
    (each : ∀ a ∈ items, NotesMore extra (f a) (g a)) :
    NotesMore extra (Resolution.firstSome f items) (Resolution.firstSome g items) := by
  induction items with
  | nil => exact .refl _
  | cons first rest ih =>
      have here := each first List.mem_cons_self
      have later := ih fun a member => each a (List.mem_cons_of_mem _ member)
      exact here.orElse later

theorem eq_of_none {x y : Resolution σ α} (none : ∀ reason, ¬ extra reason)
    (more : NotesMore extra x y) : y = x :=
  funext fun start => (more start).eq_of_none none

end NotesMore
end Resolution
end FeatureFlags
