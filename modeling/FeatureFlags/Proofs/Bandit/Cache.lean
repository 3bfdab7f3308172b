import FeatureFlags.Bandit.Service

/-!
What the operations of a cache keep. None of them makes up an entry: whatever is there afterwards
was there before or has just been saved, and a key that was removed is gone.
-/

namespace FeatureFlags.Bandit
namespace Cache

/-- The same cache, perhaps with fewer entries or in another order. -/
structure Within (left cache : Cache) : Prop where
  capacity : left.capacity = cache.capacity
  timeout : left.timeout = cache.timeout
  entries : ∀ entry ∈ left.entries, entry ∈ cache.entries

/-- An entry stands first, and nothing behind it has its key. -/
def Leads (cache : Cache) (entry : CacheEntry) : Prop :=
  ∃ others, cache.entries = entry :: others ∧ ∀ other ∈ others, other.key ≠ entry.key

theorem isExpired_eq_false {cache : Cache} {now : Int} {entry : CacheEntry} :
    cache.isExpired now entry = false ↔
      cache.timeout = 0 ∨ now - entry.storedAt ≤ cache.timeout := by
  simp only [isExpired, Bool.and_eq_false_iff, decide_eq_false_iff_not, Decidable.not_not,
    Int.not_lt]

theorem Within.refl (cache : Cache) : cache.Within cache := ⟨rfl, rfl, fun _ member => member⟩

theorem Within.trans {first second third : Cache} (h : first.Within second)
    (h' : second.Within third) : first.Within third :=
  ⟨h.capacity.trans h'.capacity, h.timeout.trans h'.timeout,
    fun entry member => h'.entries entry (h.entries entry member)⟩

theorem reset_within (cache : Cache) : cache.reset.Within cache :=
  ⟨rfl, rfl, fun _ member => absurd member List.not_mem_nil⟩

@[simp] theorem mem_remove {cache : Cache} {key : String} {entry : CacheEntry} :
    entry ∈ (cache.remove key).entries ↔ entry ∈ cache.entries ∧ entry.key ≠ key := by
  simp [remove]

theorem remove_within (cache : Cache) (key : String) : (cache.remove key).Within cache :=
  ⟨rfl, rfl, fun _ member => (mem_remove.mp member).1⟩

/-- Moving an entry of the cache to the front. -/
theorem moved_within {cache : Cache} {entry : CacheEntry} (member : entry ∈ cache.entries)
    (key : String) :
    ({ cache with entries := entry :: (cache.remove key).entries } : Cache).Within cache := by
  refine ⟨rfl, rfl, fun other front => ?_⟩
  rcases List.mem_cons.mp front with rfl | kept
  · exact member
  · exact (mem_remove.mp kept).1

theorem leads_moved {cache : Cache} {entry : CacheEntry} {key : String}
    (own : entry.key = key) :
    ({ cache with entries := entry :: (cache.remove key).entries } : Cache).Leads entry :=
  ⟨_, rfl, fun _ member => own ▸ (mem_remove.mp member).2⟩

theorem mem_of_mem_save {cache : Cache} {now : Int} {key : String} {value : CachedChoice}
    {entry : CacheEntry} (member : entry ∈ (cache.save now key value).entries) :
    entry = { key, value, storedAt := now } ∨ (entry ∈ cache.entries ∧ entry.key ≠ key) := by
  rcases List.mem_cons.mp (List.mem_of_mem_take member) with new | old
  · exact .inl new
  · exact .inr (mem_remove.mp old)

/-- A cache that can hold anything holds what was saved last, in front. -/
theorem leads_save (cache : Cache) (now : Int) (key : String) (value : CachedChoice)
    (room : cache.capacity ≠ 0) :
    (cache.save now key value).Leads { key, value, storedAt := now } := by
  obtain ⟨places, capacity⟩ := Nat.exists_eq_succ_of_ne_zero room
  refine ⟨(cache.remove key).entries.take places, ?_, fun other member =>
    (mem_remove.mp (List.mem_of_mem_take member)).2⟩
  simp only [save, capacity, Nat.succ_eq_add_one, List.take_succ_cons]

section Lookup
variable {cache : Cache} {now : Int} {key : String}

/-- A lookup finds an entry that has not expired and moves it to the front, or finds nothing. -/
theorem lookup_cases (cache : Cache) (now : Int) (key : String) :
    ((cache.lookup now key).1 = none ∧ (cache.lookup now key).2.Within cache) ∨
    ∃ entry ∈ cache.entries, entry.key = key ∧ cache.isExpired now entry = false ∧
      cache.lookup now key =
        (some entry.value, { cache with entries := entry :: (cache.remove key).entries }) := by
  cases found : cache.find? key with
  | none => exact .inl (by simp [lookup, found, Within.refl])
  | some entry =>
      cases expired : cache.isExpired now entry with
      | true => exact .inl (by simp [lookup, found, expired, remove_within])
      | false =>
          refine .inr ⟨entry, List.mem_of_find?_eq_some found, ?_, expired, ?_⟩
          · simpa using List.find?_some found
          · simp [lookup, found, expired]

/-- Looking up the leading entry finds it and moves nothing. -/
theorem lookup_of_leads {entry : CacheEntry} (leads : cache.Leads entry)
    (fresh : cache.isExpired now entry = false) :
    cache.lookup now entry.key = (some entry.value, cache) := by
  obtain ⟨others, entries, distinct⟩ := leads
  have found : cache.find? entry.key = some entry := by simp [find?, entries]
  have kept : others.filter (fun other => other.key ≠ entry.key) = others :=
    List.filter_eq_self.mpr fun other member => by simpa using distinct other member
  have unmoved : entry :: (cache.remove entry.key).entries = cache.entries := by
    rw [remove, entries]
    simpa using kept
  simp [lookup, found, fresh, unmoved]

end Lookup
end Cache

section PrepareCache
variable {options : DecideOptions} {key : String} {cache : Cache}

/-- What is there when something is looked up. -/
theorem mem_prepareCache {entry : CacheEntry} :
    entry ∈ (prepareCache options key cache).entries ↔
      entry ∈ cache.entries ∧ options.contains .resetBanditCache = false ∧
        (options.contains .invalidateUserBanditCache = true → entry.key ≠ key) := by
  unfold prepareCache
  cases options.contains .resetBanditCache <;>
    cases options.contains .invalidateUserBanditCache <;> simp [Cache.reset]

theorem prepareCache_within (options : DecideOptions) (key : String) (cache : Cache) :
    (prepareCache options key cache).Within cache := by
  have reset : (if options.contains .resetBanditCache then cache.reset else cache).Within cache := by
    split
    · exact cache.reset_within
    · exact .refl cache
  cases invalidates : options.contains .invalidateUserBanditCache with
  | true =>
      simp only [prepareCache, invalidates, if_true]
      exact (Cache.remove_within _ key).trans reset
  | false => simpa [prepareCache, invalidates] using reset

theorem prepareCache_eq_self (keeps : options.contains .resetBanditCache = false)
    (keepsUser : options.contains .invalidateUserBanditCache = false) :
    prepareCache options key cache = cache := by
  simp [prepareCache, keeps, keepsUser]

end PrepareCache
end FeatureFlags.Bandit
