import FeatureFlags.Proofs.Bandit.Recency

/-!
A cache without expiry as a bounded map: what its operations do to the order of its keys and to the
values, and from that what a lookup finds after any run of them.
-/

namespace FeatureFlags.Bandit
open CacheLog

namespace Cache
variable {cache : Cache} {now : Int} {key : String}

@[simp] theorem keys_remove (cache : Cache) (key : String) :
    (cache.remove key).keys = cache.keys.filter (· ≠ key) := by
  simp only [keys, remove, List.filter_map]
  rfl

theorem keys_save (cache : Cache) (now : Int) (key : String) (value : CachedChoice) :
    (cache.save now key value).keys = (promote key cache.keys).take cache.capacity := by
  rw [promote, ← keys_remove, keys, save, List.map_take]
  rfl

theorem mem_keys : key ∈ cache.keys ↔ ∃ entry ∈ cache.entries, entry.key = key :=
  List.mem_map

/-- If entries never expire, a lookup finds any key that is there and brings it to the front; it
leaves the cache alone otherwise. -/
theorem lookup_of_timeless (timeless : cache.timeout = 0) (now : Int) (key : String) :
    key ∉ cache.keys ∧ cache.lookup now key = (none, cache) ∨
      ∃ entry ∈ cache.entries, entry.key = key ∧ cache.lookup now key =
        (some entry.value, { cache with entries := entry :: (cache.remove key).entries }) := by
  cases found : cache.find? key with
  | none =>
      refine .inl ⟨fun member => ?_, by simp only [lookup, found]⟩
      obtain ⟨entry, listed, own⟩ := mem_keys.mp member
      exact absurd own (by simpa using List.find?_eq_none.mp found entry listed)
  | some entry =>
      have fresh : cache.isExpired now entry = false := isExpired_eq_false.mpr (.inl timeless)
      refine .inr ⟨entry, List.mem_of_find?_eq_some found, ?_, by simp [lookup, found, fresh]⟩
      simpa using List.find?_some found

theorem isSome_lookup_iff (timeless : cache.timeout = 0) :
    (cache.lookup now key).1.isSome ↔ key ∈ cache.keys := by
  rcases lookup_of_timeless timeless now key with ⟨absent, missed⟩ | ⟨entry, listed, own, found⟩
  · simp [missed, absent]
  · simpa [found] using mem_keys.mpr ⟨entry, listed, own⟩

end Cache

namespace CacheRun
variable {capacity : Nat} {run : CacheRun}

/-- The keys of the cache stand in the order of their use, with the values that they were last saved
with. -/
structure Exact (run : CacheRun) (capacity : Nat) : Prop where
  sized : run.cache.capacity = capacity
  timeless : run.cache.timeout = 0
  recency : Recency capacity run.cache.keys run.log
  values : ∀ entry ∈ run.cache.entries, lastSaved entry.key run.log = some entry.value

theorem exact_empty (capacity : Nat) : (empty capacity).Exact capacity where
  sized := rfl
  timeless := rfl
  recency := .nil capacity fun _ => rfl
  values _ listed := nomatch listed

namespace Exact

theorem save (exact : run.Exact capacity) (now : Int) (key : String) (value : CachedChoice) :
    (run.step (.save now key value)).Exact capacity where
  sized := exact.sized
  timeless := exact.timeless
  recency := by
    have saved : (CacheEvent.saved key value).used? = some key := rfl
    have recency := exact.recency.used saved
    rwa [← exact.sized, ← Cache.keys_save run.cache now key value, exact.sized] at recency
  values entry listed := by
    rcases Cache.mem_of_mem_save listed with rfl | ⟨earlier, different⟩
    · exact if_pos rfl
    · exact (if_neg (Ne.symm different)).trans (exact.values entry earlier)

theorem found (exact : run.Exact capacity) {entry : CacheEntry}
    (listed : entry ∈ run.cache.entries) :
    Exact
      { cache := { run.cache with entries := entry :: (run.cache.remove entry.key).entries }
        log := .found entry.key :: run.log } capacity where
  sized := exact.sized
  timeless := exact.timeless
  recency := by
    have found : (CacheEvent.found entry.key).used? = some entry.key := rfl
    have recency := exact.recency.used found
    rw [exact.recency.take_promote (Cache.mem_keys.mpr ⟨entry, listed, rfl⟩), promote,
      ← Cache.keys_remove] at recency
    exact recency
  values other member := by
    rcases List.mem_cons.mp member with rfl | kept
    · exact exact.values _ listed
    · exact exact.values other (Cache.mem_remove.mp kept).1

theorem lookup (exact : run.Exact capacity) (now : Int) (key : String) :
    (run.step (.lookup now key)).Exact capacity := by
  rcases Cache.lookup_of_timeless exact.timeless now key with
    ⟨_, missed⟩ | ⟨entry, listed, rfl, found⟩
  · simp only [step, Cache.apply, Cache.event, missed]
    exact ⟨exact.sized, exact.timeless, exact.recency.missed key, exact.values⟩
  · simp only [step, Cache.apply, Cache.event, found]
    exact exact.found listed

theorem remove (exact : run.Exact capacity) (key : String) :
    (run.step (.remove key)).Exact capacity where
  sized := exact.sized
  timeless := exact.timeless
  recency := by
    rw [step, Cache.apply, Cache.keys_remove]
    exact exact.recency.removed key
  values entry listed := by
    obtain ⟨earlier, different⟩ := Cache.mem_remove.mp listed
    exact (if_neg (Ne.symm different)).trans (exact.values entry earlier)

theorem reset (exact : run.Exact capacity) : (run.step .reset).Exact capacity where
  sized := exact.sized
  timeless := exact.timeless
  recency := .nil capacity fun _ => rfl
  values _ listed := nomatch listed

theorem step (exact : run.Exact capacity) (op : CacheOp) : (run.step op).Exact capacity := by
  cases op with
  | save now key value => exact exact.save now key value
  | lookup now key => exact exact.lookup now key
  | remove key => exact exact.remove key
  | reset => exact exact.reset

theorem steps (exact : run.Exact capacity) (ops : List CacheOp) :
    (ops.foldl CacheRun.step run).Exact capacity := by
  induction ops generalizing run with
  | nil => exact exact
  | cons first rest ih => exact ih (exact.step first)

theorem misses_or_finds (exact : run.Exact capacity) (now : Int) (key : String) :
    run.cache.lookup now key = (none, run.cache) ∨
      ∃ value, (run.cache.lookup now key).1 = some value ∧ lastSaved key run.log = some value := by
  rcases Cache.lookup_of_timeless exact.timeless now key with
    ⟨_, missed⟩ | ⟨entry, listed, rfl, found⟩
  · exact .inl missed
  · exact .inr ⟨entry.value, by rw [found], exact.values entry listed⟩

end Exact

/-- A cache without expiry is a bounded map that forgets what was not used for the longest time.
After any run it finds what a key was last saved with for as long as fewer others than it can hold
were used since the key was, and, if nothing was removed meanwhile, no longer. -/
theorem finds_recently_used (capacity : Nat) (ops : List CacheOp) :
    let cache := (after capacity ops).cache
    let log := (after capacity ops).log
    cache.size ≤ capacity ∧ cache.keys.Nodup ∧
    (∀ now key,
      (cache.lookup now key = (none, cache) ∨
        ∃ value, (cache.lookup now key).1 = some value ∧ lastSaved key log = some value) ∧
      ((lastSaved key log).isSome → (rivals key log).length < capacity →
        (cache.lookup now key).1.isSome) ∧
      (Undisturbed key log → (cache.lookup now key).1.isSome →
        (rivals key log).length < capacity)) ∧
    (capacity = 0 → cache.size = 0 ∧ ∀ now key, (cache.lookup now key).1 = none) := by
  intro cache log
  have exact : (after capacity ops).Exact capacity := (exact_empty capacity).steps ops
  have found : ∀ {now key}, (cache.lookup now key).1.isSome ↔ key ∈ cache.keys :=
    Cache.isSome_lookup_iff exact.timeless
  have bounded : cache.size ≤ capacity := by
    have bounded := exact.recency.bounded
    rwa [Cache.keys, List.length_map] at bounded
  refine ⟨bounded, exact.recency.distinct,
    fun now key => ⟨exact.misses_or_finds now key, ?_, ?_⟩, ?_⟩
  · exact fun saved few => found.mpr (exact.recency.kept saved few)
  · exact fun undisturbed hit => exact.recency.rivals_length_lt (found.mp hit) undisturbed
  · rintro rfl
    have none : cache.entries = [] := List.length_eq_zero_iff.mp (Nat.le_zero.mp bounded)
    refine ⟨by rw [Cache.size, none, List.length_nil], fun now key => ?_⟩
    have absent : key ∉ cache.keys := by simp [Cache.keys, none]
    exact Option.not_isSome_iff_eq_none.mp fun hit => absent (found.mp hit)

/-- Looking up the first of two keys saves it from being displaced by a third one. -/
example (value : CachedChoice) :
    (after 2 [.save 0 "a" value, .save 0 "b" value, .lookup 0 "a", .save 0 "c" value]).cache.keys =
      ["c", "a"] := by
  rfl

end CacheRun
end FeatureFlags.Bandit
