import FeatureFlags.Proofs.Bandit.Provenance

/-!
What a failed inquiry does to the cache. Unless the cache is ignored, the entry of the user and the
rule is gone, however far the inquiry came before it failed; nothing is put in its place, and the
other entries stay in their order. The remote service is then called again for them until one of its
choices is cached.
-/

namespace FeatureFlags.Bandit

namespace Cache
variable {cache : Cache} {now : Int} {key : String}

/-- No entry has this key. -/
def Lacks (cache : Cache) (key : String) : Prop := ∀ entry ∈ cache.entries, entry.key ≠ key

theorem lacks_remove (cache : Cache) (key : String) : (cache.remove key).Lacks key :=
  fun _ member => (mem_remove.mp member).2

theorem Lacks.within {left : Cache} (lacks : cache.Lacks key) (within : left.Within cache) :
    left.Lacks key :=
  fun entry member => lacks entry (within.entries entry member)

theorem Lacks.remove_eq (lacks : cache.Lacks key) : cache.remove key = cache := by
  have kept : cache.entries.filter (·.key ≠ key) = cache.entries :=
    List.filter_eq_self.mpr fun entry member => by simpa using lacks entry member
  rw [remove, kept]

theorem remove_remove (cache : Cache) (key : String) :
    (cache.remove key).remove key = cache.remove key :=
  (cache.lacks_remove key).remove_eq

/-- A lookup that finds nothing leaves nothing under its key. -/
theorem lookup_of_missed (missed : (cache.lookup now key).1 = none) :
    (cache.lookup now key).2 = cache.remove key := by
  cases found : cache.find? key with
  | none =>
      have lacks : cache.Lacks key := by simpa [Lacks] using List.find?_eq_none.mp found
      rw [lookup, found, lacks.remove_eq]
  | some entry =>
      simp only [lookup, found] at missed ⊢
      split
      · rfl
      · rename_i fresh
        rw [if_neg fresh] at missed
        cases missed

/-- Looking up a key changes nothing but its own entry. -/
theorem remove_lookup (cache : Cache) (now : Int) (key : String) :
    (cache.lookup now key).2.remove key = cache.remove key := by
  rcases lookup_cases cache now key with ⟨missed, -⟩ | ⟨entry, -, own, -, found⟩
  · rw [lookup_of_missed missed, remove_remove]
  · simp [found, remove, own]

end Cache

/-- What the options leave of a cache, apart from the key that is looked up. -/
theorem remove_prepareCache (options : DecideOptions) (key : String) (cache : Cache) :
    (prepareCache options key cache).remove key =
      if options.contains .resetBanditCache then cache.reset else cache.remove key := by
  cases resets : options.contains .resetBanditCache <;>
    cases invalidates : options.contains .invalidateUserBanditCache <;>
    simp [prepareCache, resets, invalidates, Cache.reset, Cache.remove]

theorem cache_fetchAndSave_of_failed {client : Client} {correlationId : Nat → String}
    {ruleId userId : String} {attributes : Attributes} {state : CachingState} {failure : Failure}
    (failed : (fetchAndSave client correlationId ruleId userId attributes state).result =
      .error failure) :
    (fetchAndSave client correlationId ruleId userId attributes state).state.cache =
      state.cache := by
  simp only [fetchAndSave] at failed ⊢
  split
  · rfl
  · rename_i chosen
    simp only [chosen] at failed
    cases failed

namespace Inquiry
variable {inquiry : Inquiry} {correlationId : Nat → String} {state : CachingState}
  {failure : Failure}

/-- With the use of the cache a choice is given again, or else the remote service is called, with
nothing under the key of the inquiry any more. -/
theorem answer_cases (consults : inquiry.ignoresCache = false) (correlationId : Nat → String)
    (state : CachingState) :
    (∃ choice, (inquiry.answer correlationId state).result = .ok choice) ∨
      inquiry.answer correlationId state =
        fetchAndSave inquiry.client correlationId inquiry.ruleId inquiry.user.id inquiry.attributes
          { state with
            cache := (inquiry.prepared state.cache).remove inquiry.key
            clock := inquiry.now } := by
  have unignored : inquiry.options.contains .ignoreBanditCache = false := consults
  have removed := Cache.remove_lookup (inquiry.prepared state.cache) inquiry.now inquiry.key
  cases looked : (inquiry.prepared state.cache).lookup inquiry.now inquiry.key with
  | mk cached left =>
      rw [looked] at removed
      have missed :
          ((inquiry.prepared state.cache).lookup inquiry.now inquiry.key).1 = none → _ :=
        Cache.lookup_of_missed
      simp only [looked] at missed
      simp only [prepared, Inquiry.key] at looked
      simp only [answer, decideCached, unignored, Bool.false_eq_true, if_false, looked]
      cases cached with
      | none => exact .inr (by rw [← missed rfl]; rfl)
      | some cached =>
          by_cases same : cached.attributesHash = hashAttributes inquiry.attributes
          · exact .inl ⟨cached.choice, congrArg Answer.result (if_pos same)⟩
          · exact .inr ((if_neg same).trans (by rw [← removed]; rfl))

/-- An inquiry that fails with the use of the cache takes the entry of its key out of it. -/
theorem cache_of_failed (consults : inquiry.ignoresCache = false)
    (failed : (inquiry.answer correlationId state).result = .error failure) :
    (inquiry.answer correlationId state).state.cache =
      if inquiry.resets then state.cache.reset else state.cache.remove inquiry.key := by
  refine Eq.trans ?_ (remove_prepareCache inquiry.options inquiry.key state.cache)
  rcases answer_cases consults correlationId state with ⟨choice, chosen⟩ | fetched
  · cases chosen.symm.trans failed
  · rw [fetched] at failed ⊢
    exact cache_fetchAndSave_of_failed failed

/-- Whether an exchange puts a choice into the cache, under the key of this inquiry. -/
def CachedBy (inquiry : Inquiry) (exchange : Exchange) : Prop :=
  exchange.inquiry.SamePair inquiry ∧ exchange.inquiry.ignoresCache = false ∧
    ∃ choice, exchange.Fetched choice

variable {cache after : Cache} {result : Except Failure Choice} {requests : List Request}

/-- What one exchange keeps: a key that is not there stays away unless a choice is cached for it. -/
theorem Handled.lacks {other : Inquiry} (handled : other.Handled cache result requests after)
    (lacks : cache.Lacks inquiry.key) (uncached : ¬ inquiry.CachedBy ⟨other, result, requests⟩) :
    after.Lacks inquiry.key := by
  have prepared : (other.prepared cache).Within cache := prepareCache_within _ _ _
  cases handled with
  | aside => exact lacks
  | reused _ member => exact (lacks.within prepared).within (Cache.moved_within member _)
  | failed _ kept => exact (lacks.within prepared).within kept
  | renewed consults kept replied =>
      intro entry saved
      rcases Cache.mem_of_mem_save saved with rfl | ⟨old, -⟩
      · intro pair
        exact uncached ⟨key_eq_iff.mp pair, consults, _, replied.fetched⟩
      · exact (lacks.within prepared).within kept entry old

/-- With nothing under its key an inquiry calls the remote service. -/
theorem Handled.calls_of_lacks (handled : inquiry.Handled cache result requests after)
    (lacks : cache.Lacks inquiry.key) : requests.length = 1 := by
  cases handled with
  | aside | failed | renewed => rfl
  | reused _ member own =>
      exact absurd own ((lacks.within (prepareCache_within _ _ _)) _ member)

/-- What a run keeps: a key that is not there stays away until a choice is cached for it. -/
theorem lacks_of_run (correlationId : Nat → String) (state : CachingState)
    (lacks : state.cache.Lacks inquiry.key) (between : List Inquiry)
    (uncached : ∀ exchange ∈ transcript correlationId state between,
      ¬ inquiry.CachedBy exchange) :
    (stateAfter correlationId state between).cache.Lacks inquiry.key := by
  induction between generalizing state with
  | nil => exact lacks
  | cons first rest ih =>
      obtain ⟨here, later⟩ := List.forall_mem_cons.mp uncached
      exact ih _ ((first.handled_answer correlationId state).lacks lacks here) later

end Inquiry

/-- An inquiry that fails caches nothing. If it ignores the cache, that stays as it is; if it resets
the cache, that is left empty; and otherwise just the entry of the user and the rule is gone. So the
remote service is called again for the user and the rule, until one of its choices is cached, unless
the inquiry has ignored an entry that was there. -/
theorem failed_inquiry_leaves_cache_clean (correlationId : Nat → String) (state : CachingState)
    (inquiry : Inquiry) (failure : Failure)
    (failed : (inquiry.answer correlationId state).result = .error failure) :
    let left := (inquiry.answer correlationId state).state
    (inquiry.ignoresCache = true → left.cache = state.cache) ∧
    (inquiry.ignoresCache = false → inquiry.resets = true →
      left.cache = { state.cache with entries := [] }) ∧
    (inquiry.ignoresCache = false → inquiry.resets = false →
      left.cache =
        { state.cache with entries := state.cache.entries.filter (·.key ≠ inquiry.key) }) ∧
    left.cache.entries.Sublist state.cache.entries ∧
    (inquiry.ignoresCache = false ∨ state.cache.Lacks inquiry.key → ∀ between : List Inquiry,
      (∀ exchange ∈ transcript correlationId left between, ¬ inquiry.CachedBy exchange) →
      ∀ later : Inquiry, later.SamePair inquiry →
        (later.exchange correlationId
          (stateAfter correlationId left between)).requests.length = 1) := by
  intro left
  have aside : inquiry.ignoresCache = true → left.cache = state.cache := fun ignores =>
    ((inquiry.handled_answer correlationId state).length_requests.2 ignores).2
  have consulting : inquiry.ignoresCache = false → left.cache =
      if inquiry.resets then state.cache.reset else state.cache.remove inquiry.key :=
    fun consults => Inquiry.cache_of_failed consults failed
  have lacks : inquiry.ignoresCache = false ∨ state.cache.Lacks inquiry.key →
      left.cache.Lacks inquiry.key := by
    cases ignores : inquiry.ignoresCache with
    | true =>
        rw [aside ignores]
        exact fun either => either.resolve_left nofun
    | false =>
        rw [consulting ignores]
        split
        · exact fun _ => nofun
        · exact fun _ => state.cache.lacks_remove inquiry.key
  refine ⟨aside, ?_, ?_, ?_, ?_⟩
  · intro consults resets
    rw [consulting consults, if_pos resets]
    rfl
  · intro consults keeps
    rw [consulting consults, if_neg (by simp [keeps])]
    rfl
  · cases ignores : inquiry.ignoresCache with
    | true => exact aside ignores ▸ List.Sublist.refl _
    | false =>
        rw [consulting ignores]
        split
        · exact List.nil_sublist _
        · exact List.filter_sublist
  · intro either between uncached later pair
    have absent := Inquiry.lacks_of_run correlationId left (lacks either) between uncached
    rw [← Inquiry.key_eq_iff.mpr pair] at absent
    exact (later.handled_answer correlationId _).calls_of_lacks absent

namespace Sample

/-- The cache of two visitors. -/
def visited : CachingState := stateAfter Nat.repr (.fresh 10 300) [visit, namesake]

/-- The visit while the remote service is out of order, without use of an earlier choice. -/
def outage : Inquiry :=
  { visit with
    client := fun _ => .error (.fetchFailed "out of order")
    options := .ofList [.invalidateUserBanditCache] }

end Sample

/-- After an outage just the entry of the namesake is left, and the next visit is a call. -/
theorem failed_inquiry_leaves_namesake :
    let left := (Sample.outage.answer Nat.repr Sample.visited).state
    (Sample.outage.answer Nat.repr Sample.visited).result =
        .error (.fetchFailed "out of order") ∧
      left.cache.entries.map (·.key) = [Sample.namesake.key] ∧
      (Sample.visit.exchange Nat.repr
        (stateAfter Nat.repr left [Sample.namesake])).requests.length = 1 := by
  have failed : (Sample.outage.answer Nat.repr Sample.visited).result =
      .error (.fetchFailed "out of order") := by rfl
  obtain ⟨_, _, kept, _, called⟩ :=
    failed_inquiry_leaves_cache_clean Nat.repr Sample.visited Sample.outage _ failed
  refine ⟨failed, ?_, called (.inl rfl) [Sample.namesake] ?_ Sample.visit ⟨rfl, rfl⟩⟩
  · rw [kept rfl rfl]
    rfl
  · rintro exchange member ⟨⟨users, -⟩, -⟩
    cases List.mem_singleton.mp member
    exact absurd users (by decide)

/-- A visit that ignores the cache during an outage leaves the choice of an earlier one there, so
that the next visit gets it without a call. -/
theorem choice_given_after_failed_inquiry :
    let ignoring : Inquiry := { Sample.outage with options := .ofList [.ignoreBanditCache] }
    let state := (Sample.visit.answer Nat.repr (.fresh 10 300)).state
    let left := (ignoring.answer Nat.repr state).state
    (ignoring.answer Nat.repr state).result = .error (.fetchFailed "out of order") ∧
      Sample.visit.SamePair ignoring ∧
      Sample.visit.exchange Nat.repr left =
        { inquiry := Sample.visit
          result := .ok { variationId := "1", correlationId := "0" }
          requests := [] } :=
  ⟨by rfl, ⟨rfl, rfl⟩, by rfl⟩

end FeatureFlags.Bandit
