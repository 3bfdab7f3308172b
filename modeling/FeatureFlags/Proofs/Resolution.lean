import FeatureFlags.Decision.Context

/-!
How resolutions run. A run gives a value, leaves events and ends with some progress; its reasons do
not matter here. The equations push the progress through the parts of a program, so that a program
can be read off step by step.
-/

namespace FeatureFlags

namespace Traced
variable {α β : Type} {f : α → Traced (Option β)}

theorem value_firstSome (items : List α) :
    (firstSome f items).value = items.findSome? fun a => (f a).value := by
  induction items with
  | nil => rfl
  | cons first rest ih =>
      rw [firstSome, Traced.value_bind, List.findSome?_cons]
      cases (f first).value with
      | none => exact ih
      | some b => rfl

theorem firstSome_of_none {items : List α} (passed : ∀ a ∈ items, (f a).value = none) :
    (firstSome f items).value = none ∧
      (firstSome f items).events = items.flatMap fun a => (f a).events := by
  induction items with
  | nil => exact ⟨rfl, rfl⟩
  | cons first rest ih =>
      have here := passed first List.mem_cons_self
      obtain ⟨value, events⟩ := ih fun a member => passed a (List.mem_cons_of_mem _ member)
      simp [firstSome, here, value, events]

/-- The search ends at the first member with a result: later members have no events. -/
theorem firstSome_of_some {before after : List α} {a : α} {b : β}
    (passed : ∀ a ∈ before, (f a).value = none) (found : (f a).value = some b) :
    (firstSome f (before ++ a :: after)).value = some b ∧
      (firstSome f (before ++ a :: after)).events =
        (before ++ [a]).flatMap fun a => (f a).events := by
  induction before with
  | nil => simp [firstSome, found]
  | cons first rest ih =>
      have here := passed first List.mem_cons_self
      obtain ⟨value, events⟩ := ih fun a member => passed a (List.mem_cons_of_mem _ member)
      simp only [List.flatMap_append] at events
      simp [firstSome, here, value, events]

end Traced

namespace Resolution
variable {σ α β : Type}

/-- From `start` a resolution gives `a`, leaves `events` and ends with `finish`. -/
def Runs (resolution : Resolution σ α) (start : Progress σ) (a : α) (events : List Event)
    (finish : Progress σ) : Prop :=
  (resolution start).value = (a, finish) ∧ (resolution start).events = events

/-- A resolution has exactly one run from each start. -/
theorem Runs.unique {resolution : Resolution σ α} {start : Progress σ} {a a' : α}
    {events events' : List Event} {finish finish' : Progress σ}
    (run : resolution.Runs start a events finish)
    (run' : resolution.Runs start a' events' finish') :
    a = a' ∧ events = events' ∧ finish = finish' := by
  obtain ⟨value, emitted⟩ := run
  obtain ⟨value', emitted'⟩ := run'
  have same : (a, finish) = (a', finish') := value.symm.trans value'
  exact ⟨congrArg Prod.fst same, emitted.symm.trans emitted', congrArg Prod.snd same⟩

theorem pure_apply (a : α) (start : Progress σ) :
    (pure a : Resolution σ α) start = pure (a, start) := rfl

theorem bind_apply (first : Resolution σ α) (second : α → Resolution σ β)
    (start : Progress σ) :
    (first >>= second) start = (first start >>= fun reached => second reached.1 reached.2) := rfl

theorem map_apply (f : α → β) (resolution : Resolution σ α) (start : Progress σ) :
    (f <$> resolution) start =
      (resolution start >>= fun reached => pure (f reached.1, reached.2)) := rfl

theorem lift_apply (traced : Traced α) (start : Progress σ) :
    (liftM traced : Resolution σ α) start = (traced >>= fun a => pure (a, start)) := rfl

theorem withTracker_apply (f : Tracker → Traced (α × Tracker)) (start : Progress σ) :
    (withTracker f : Resolution σ α) start =
      (f start.tracker >>= fun reached =>
        pure (reached.1, { start with tracker := reached.2 })) := rfl

theorem Runs.bind {first : Resolution σ α} {second : α → Resolution σ β}
    {start middle finish : Progress σ} {a : α} {b : β} {events events' : List Event}
    (run : first.Runs start a events middle) (run' : (second a).Runs middle b events' finish) :
    (first >>= second).Runs start b (events ++ events') finish := by
  obtain ⟨value, emitted⟩ := run
  obtain ⟨value', emitted'⟩ := run'
  constructor
  · rw [bind_apply, Traced.value_bind, value, value']
  · rw [bind_apply, Traced.events_bind, value, emitted, emitted']

theorem runs_pure (a : α) (start : Progress σ) :
    (pure a : Resolution σ α).Runs start a [] start :=
  ⟨rfl, rfl⟩

theorem runs_lift (traced : Traced α) (start : Progress σ) :
    (liftM traced : Resolution σ α).Runs start traced.value traced.events start :=
  ⟨rfl, List.append_nil _⟩

/-- Moving the reasons into the value changes neither the value nor the events. -/
theorem Runs.explained {resolution : Resolution σ α} {start finish : Progress σ} {a : α}
    {events : List Event} (run : resolution.Runs start a events finish) :
    (Resolution.explained resolution).Runs start (a, (resolution start).reasons) events finish := by
  obtain ⟨value, emitted⟩ := run
  exact ⟨by simp only [Resolution.explained, value], emitted⟩

section Search
variable {first second : Resolution σ (Option α)} {start middle finish : Progress σ}
  {events events' : List Event}

theorem orElse_runs_first {a : α} (run : first.Runs start (some a) events finish) :
    (orElse first second).Runs start (some a) events finish := by
  obtain ⟨value, emitted⟩ := run
  simp [Runs, orElse, bind_apply, pure_apply, value, emitted]

theorem orElse_runs_second {result : Option α} (run : first.Runs start none events middle)
    (run' : second.Runs middle result events' finish) :
    (orElse first second).Runs start result (events ++ events') finish := by
  obtain ⟨value, emitted⟩ := run
  obtain ⟨value', emitted'⟩ := run'
  simp [Runs, orElse, bind_apply, value, emitted, value', emitted']

theorem firstSome_cons (f : α → Resolution σ (Option β)) (a : α) (as : List α) :
    firstSome f (a :: as) = orElse (f a) (firstSome f as) := rfl

end Search

end Resolution
end FeatureFlags
