import FeatureFlags.Proofs.Bandit.CacheLog
import Mathlib.Data.List.Perm.Subperm

/-!
The cache keeps what was used most recently. Its keys stand in the order of their last use, so that
a key is still there as long as fewer others than the cache can hold were used since then. Without
removals it is there only that long.
-/

namespace FeatureFlags.Bandit

section Lists
variable {α : Type} {first second : α} {items others : List α} {n : Nat}

theorem pair_sublist_of_mem_drop (earlier : first ∈ items.take n)
    (later : second ∈ items.drop n) : List.Sublist [first, second] items := by
  have sublists := (List.singleton_sublist.mpr earlier).append (List.singleton_sublist.mpr later)
  rwa [List.take_append_drop] at sublists

/-- If the second of two items is among the first ones of a list, both are. -/
theorem pair_sublist_take (distinct : items.Nodup) (pair : List.Sublist [first, second] items)
    (kept : second ∈ items.take n) : List.Sublist [first, second] (items.take n) := by
  rw [← List.take_append_drop n items] at pair
  obtain ⟨front, back, split, inFront, inBack⟩ := List.sublist_append_iff.mp pair
  have disjoint := List.disjoint_take_drop distinct (Nat.le_refl n)
  rcases List.eq_nil_or_concat back with rfl | ⟨others, last, rfl⟩
  · rwa [split, List.append_nil]
  · have same : second = last := by
      have ends := congrArg List.getLast? split
      simpa [← List.append_assoc] using ends
    have dropped : second ∈ items.drop n := inBack.subset (by simp [same])
    exact (disjoint kept dropped).elim

/-- An item with fewer than `n` others ahead of it is among the first `n`. -/
theorem mem_take_of_few_ahead (distinct : items.Nodup) (member : second ∈ items)
    (ahead : ∀ first, List.Sublist [first, second] items → first ∈ others)
    (few : others.length < n) : second ∈ items.take n := by
  rw [← List.take_append_drop n items] at member
  refine (List.mem_append.mp member).elim id fun dropped => ?_
  have allAhead : items.take n ⊆ others := fun first earlier =>
    ahead first (pair_sublist_of_mem_drop earlier dropped)
  have fits := (List.subperm_of_subset (distinct.sublist (List.take_sublist n items))
    allAhead).length_le
  have full : n < items.length := by
    have some := List.length_pos_of_mem dropped
    rw [List.length_drop] at some
    omega
  rw [List.length_take_of_le full.le] at fits
  omega

end Lists

open CacheLog

/-- The keys of a cache with some capacity, after what the log tells. Those ahead of a key were used
since then, and a key is missing only if too many others were. -/
structure Recency (capacity : Nat) (keys : List String) (log : List CacheEvent) : Prop where
  bounded : keys.length ≤ capacity
  distinct : keys.Nodup
  ahead : ∀ {rival key}, List.Sublist [rival, key] keys → rival ∈ rivals key log
  behind : ∀ {key}, key ∈ keys → Undisturbed key log → ∀ {rival}, rival ∈ rivals key log →
    List.Sublist [rival, key] keys
  kept : ∀ {key}, (lastSaved key log).isSome → (rivals key log).length < capacity → key ∈ keys

/-- A key put in front of the others. -/
def promote (key : String) (keys : List String) : List String := key :: keys.filter (· ≠ key)

namespace Recency
variable {capacity : Nat} {key other : String} {keys : List String} {event : CacheEvent}
  {log : List CacheEvent}

theorem nodup_promote (recency : Recency capacity keys log) (key : String) :
    (promote key keys).Nodup := by
  refine List.nodup_cons.mpr ⟨?_, recency.distinct.filter _⟩
  simp [List.mem_filter]

theorem mem_promote_of_ne (different : other ≠ key) : other ∈ promote key keys ↔ other ∈ keys := by
  simp [promote, different]

theorem ahead_promote (recency : Recency capacity keys log) (used : event.used? = some key)
    {rival : String} (pair : List.Sublist [rival, other] (promote key keys)) :
    rival ∈ rivals other (event :: log) := by
  have different : other ∈ keys.filter (· ≠ key) → key ≠ other := fun member =>
    Ne.symm (of_decide_eq_true (List.mem_filter.mp member).2)
  cases pair with
  | cons _ behind =>
      have member : other ∈ keys.filter (· ≠ key) := behind.subset (by simp)
      exact (mem_rivals_cons_of_other used (different member)).mpr
        (.inr (recency.ahead (behind.trans List.filter_sublist)))
  | cons_cons _ behind =>
      have member : other ∈ keys.filter (· ≠ key) := List.singleton_sublist.mp behind
      exact (mem_rivals_cons_of_other used (different member)).mpr (.inl rfl)

/-- A rival of a key that is there stays ahead of it, or comes to the front. -/
theorem behind_promote (recency : Recency capacity keys log) (used : event.used? = some key)
    (different : other ≠ key) (member : other ∈ keys)
    (undisturbed : Undisturbed other (event :: log)) {rival : String}
    (isRival : rival ∈ rivals other (event :: log)) :
    List.Sublist [rival, other] (promote key keys) := by
  have front : List.Sublist [key, other] (promote key keys) :=
    (List.singleton_sublist.mpr (by simp [member, different])).cons_cons _
  rcases (mem_rivals_cons_of_other used (Ne.symm different)).mp isRival with rfl | earlier
  · exact front
  · by_cases same : rival = key
    · rw [same]
      exact front
    · have unused : event.used? ≠ some other := by simpa [used] using Ne.symm different
      have undisturbed := ((undisturbed_cons_of_other unused).mp undisturbed).2
      have pair := recency.behind member undisturbed earlier
      have left := pair.filter (· ≠ key)
      simp only [List.filter_cons, same, different, ne_eq, not_false_eq_true, decide_true, if_true,
        List.filter_nil] at left
      exact left.cons _

/-- A use brings a key to the front. -/
theorem used (recency : Recency capacity keys log) (used : event.used? = some key) :
    Recency capacity ((promote key keys).take capacity) (event :: log) where
  bounded := List.length_take_le _ _
  distinct := (recency.nodup_promote key).sublist (List.take_sublist _ _)
  ahead pair := recency.ahead_promote used (pair.trans (List.take_sublist _ _))
  behind {other} member undisturbed rival isRival := by
    by_cases same : other = key
    · rw [same, rivals_cons_of_used used] at isRival
      cases isRival
    · have before := (mem_promote_of_ne same).mp (List.mem_of_mem_take member)
      exact pair_sublist_take (recency.nodup_promote key)
        (recency.behind_promote used same before undisturbed isRival) member
  kept {other} saved few := by
    refine mem_take_of_few_ahead (recency.nodup_promote key) ?_
      (fun _ pair => recency.ahead_promote used pair) few
    by_cases same : other = key
    · rw [same]
      exact List.mem_cons_self
    · have different : key ≠ other := Ne.symm same
      rw [lastSaved_cons_of_other used different] at saved
      have grown : rivals other log ⊆ rivals other (event :: log) := fun rival isRival =>
        (mem_rivals_cons_of_other used different).mpr (.inr isRival)
      have fewer := (List.subperm_of_subset (rivals_nodup other log) grown).length_le
      exact (mem_promote_of_ne same).mpr (recency.kept saved (Nat.lt_of_le_of_lt fewer few))

/-- Nothing has to make room for a key that is there. -/
theorem take_promote (recency : Recency capacity keys log) (member : key ∈ keys) :
    (promote key keys).take capacity = promote key keys := by
  have present : promote key keys ⊆ keys :=
    List.cons_subset.mpr ⟨member, List.filter_subset_self _⟩
  have fits := (List.subperm_of_subset (recency.nodup_promote key) present).length_le
  exact List.take_of_length_le (Nat.le_trans fits recency.bounded)

/-- A key that is removed frees its place, and the others stay in order. -/
theorem removed (recency : Recency capacity keys log) (key : String) :
    Recency capacity (keys.filter (· ≠ key)) (.removed key :: log) where
  bounded := Nat.le_trans (List.length_filter_le _ _) recency.bounded
  distinct := recency.distinct.filter _
  ahead pair := by
    rw [rivals_cons_of_unused rfl]
    exact recency.ahead (pair.trans List.filter_sublist)
  behind _ undisturbed :=
    nomatch ((undisturbed_cons_of_other (by simp [CacheEvent.used?])).mp undisturbed).1
  kept saved few := by
    obtain ⟨different, earlier⟩ := lastSaved_removed_isSome saved
    rw [rivals_cons_of_unused rfl] at few
    exact List.mem_filter.mpr ⟨recency.kept earlier few, by simpa using different⟩

/-- No keys are in order if nothing is saved. -/
theorem nil (capacity : Nat) (unsaved : ∀ key, lastSaved key log = none) :
    Recency capacity [] log where
  bounded := Nat.zero_le _
  distinct := List.nodup_nil
  ahead pair := nomatch pair
  behind member := nomatch member
  kept {key} saved := by
    rw [unsaved key] at saved
    cases saved

theorem missed (recency : Recency capacity keys log) (key : String) :
    Recency capacity keys (.missed key :: log) where
  bounded := recency.bounded
  distinct := recency.distinct
  ahead pair := by
    rw [rivals_cons_of_unused rfl]
    exact recency.ahead pair
  behind member undisturbed rival isRival := by
    rw [rivals_cons_of_unused rfl] at isRival
    exact recency.behind member
      ((undisturbed_cons_of_other (by simp [CacheEvent.used?])).mp undisturbed).2 isRival
  kept saved few := by
    rw [rivals_cons_of_unused rfl] at few
    exact recency.kept saved few

/-- A key is there for as long as fewer others than fit were used since then, and, if nothing was
removed meanwhile, no longer. -/
theorem rivals_length_lt (recency : Recency capacity keys log) (member : key ∈ keys)
    (undisturbed : Undisturbed key log) : (rivals key log).length < capacity := by
  have distinct : (key :: rivals key log).Nodup :=
    List.nodup_cons.mpr ⟨not_mem_rivals key log, rivals_nodup key log⟩
  have present : key :: rivals key log ⊆ keys := by
    refine List.cons_subset.mpr ⟨member, fun rival isRival => ?_⟩
    exact (recency.behind member undisturbed isRival).subset List.mem_cons_self
  have fits := (List.subperm_of_subset distinct present).length_le
  exact Nat.lt_of_lt_of_le fits recency.bounded

end Recency
end FeatureFlags.Bandit
