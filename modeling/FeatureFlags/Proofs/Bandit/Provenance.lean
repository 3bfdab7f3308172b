import FeatureFlags.Proofs.Bandit.Transcripts

/-!
Where choices come from. Every choice of a caching service was fetched in one call of the remote
service for the same user and the same rule: in the present call, or in the latest one before it
that went through the cache.
-/

namespace FeatureFlags.Bandit

/-- The inquiry asks for the same once more and leaves the cache in force. -/
structure Inquiry.Repeats (again first : Inquiry) : Prop where
  consults : again.ignoresCache = false
  keeps : again.resets = false
  keepsUser : again.invalidates = false
  pair : again.SamePair first
  attributes : hashAttributes again.attributes = hashAttributes first.attributes

/-- The remote service is called at most once, and just once if the cache is left alone. -/
theorem Inquiry.Handled.length_requests {inquiry : Inquiry} {cache after : Cache}
    {result : Except Failure Choice} {requests : List Request}
    (handled : inquiry.Handled cache result requests after) :
    requests.length ≤ 1 ∧
      (inquiry.ignoresCache = true → requests.length = 1 ∧ after = cache) := by
  cases handled with
  | aside => exact ⟨Nat.le_refl _, fun _ => ⟨rfl, rfl⟩⟩
  | reused consults | failed consults | renewed consults =>
      exact ⟨by simp, fun ignores => absurd (consults.symm.trans ignores) Bool.false_ne_true⟩

theorem Inquiry.Handled.fetched_of_called {inquiry : Inquiry} {cache after : Cache}
    {choice : Choice} {requests : List Request}
    (handled : inquiry.Handled cache (.ok choice) requests after) (called : requests ≠ []) :
    (⟨inquiry, .ok choice, requests⟩ : Exchange).Fetched choice := by
  cases handled with
  | aside _ replied | renewed _ _ replied => exact replied.fetched
  | reused => exact absurd rfl called

/-- Where a choice comes from that was given with the use of the cache, and what is left there. -/
theorem Inquiry.Handled.source {transcript : List Exchange} {inquiry : Inquiry}
    {cache after : Cache} {choice : Choice} {requests : List Request}
    (handled : inquiry.Handled cache (.ok choice) requests after)
    (recorded : ∀ entry ∈ cache.entries, Recorded transcript entry)
    (consults : inquiry.ignoresCache = false) :
    ∃ origin, Current (transcript ++ [⟨inquiry, .ok choice, requests⟩]) origin choice ∧
      inquiry.SamePair origin.inquiry ∧
      hashAttributes inquiry.attributes = hashAttributes origin.inquiry.attributes ∧
      (requests ≠ [] → origin = ⟨inquiry, .ok choice, requests⟩) ∧
      (after.capacity ≠ 0 → after.Leads (origin.inquiry.entry choice)) := by
  have stays := handled.recorded recorded
  cases handled with
  | aside ignores replied => exact absurd (consults.symm.trans ignores) Bool.false_ne_true
  | @reused found _ member key fresh same =>
      obtain ⟨origin, choice, current, rfl⟩ := stays found List.mem_cons_self
      exact ⟨origin, current, Inquiry.key_eq_iff.mp key.symm, same.symm,
        fun called => absurd rfl called, fun _ => Cache.leads_moved key⟩
  | renewed _ kept replied =>
      exact ⟨_, replied.fetched.current consults transcript, ⟨rfl, rfl⟩, rfl, fun _ => rfl,
        fun room => Cache.leads_save _ _ _ _ room⟩

/-- An inquiry that finds its choice in front of the cache moves nothing. -/
theorem Inquiry.answer_of_leads {again : Inquiry} {state : CachingState} {entry : CacheEntry}
    (correlationId : Nat → String) (consults : again.ignoresCache = false)
    (keeps : again.resets = false) (keepsUser : again.invalidates = false)
    (leads : state.cache.Leads entry) (key : entry.key = again.key)
    (same : entry.value.attributesHash = hashAttributes again.attributes)
    (fresh : state.cache.isExpired again.now entry = false) :
    again.answer correlationId state =
      { result := .ok entry.value.choice, state := { state with clock := again.now } } := by
  have looked : (prepareCache again.options (cacheKey again.user.id again.ruleId)
      state.cache).lookup again.now (cacheKey again.user.id again.ruleId) =
        (some entry.value, state.cache) := by
    rw [prepareCache_eq_self keeps keepsUser, ← Inquiry.key, ← key]
    exact Cache.lookup_of_leads leads fresh
  simp only [answer, decideCached, show again.options.contains .ignoreBanditCache = false from
    consults, looked, Bool.false_eq_true, if_false]
  exact if_pos same

/-- At every time of a run there is at most one call of the remote service for an inquiry, and just
one if the cache is ignored, which then stays as it is. A choice is the one that was called for, or
else the current one of the user and the rule. Asked again at once, it is given again without a
call, as long as it has not expired. -/
theorem choice_goes_back_to_fetch (correlationId : Nat → String) (capacity : Nat) (timeout : Int)
    (earlier : List Inquiry) (inquiry : Inquiry) :
    let state := stateAfter correlationId (.fresh capacity timeout) earlier
    let past := transcript correlationId (.fresh capacity timeout) earlier
    let present := inquiry.exchange correlationId state
    let answer := inquiry.answer correlationId state
    present.requests.length ≤ 1 ∧
    (inquiry.ignoresCache = true →
      present.requests.length = 1 ∧ answer.state.cache = state.cache) ∧
    ∀ choice, present.result = .ok choice →
      (present.requests ≠ [] → present.Fetched choice) ∧
      (inquiry.ignoresCache = false →
        ∃ origin, Current (past ++ [present]) origin choice ∧
          inquiry.SamePair origin.inquiry ∧
          hashAttributes inquiry.attributes = hashAttributes origin.inquiry.attributes ∧
          (present.requests ≠ [] → origin = present) ∧
          ∀ again : Inquiry, again.Repeats inquiry → capacity ≠ 0 →
            (timeout = 0 ∨ again.now - origin.inquiry.now ≤ timeout) →
            again.answer correlationId answer.state =
              { result := .ok choice, state := { answer.state with clock := again.now } }) := by
  intro state past present answer
  have recorded : ∀ entry ∈ state.cache.entries, Recorded past entry :=
    recorded_of_fresh correlationId capacity timeout earlier
  obtain ⟨capacity', timeout'⟩ := bounds_of_run correlationId (.fresh capacity timeout) earlier
  have handled : inquiry.Handled state.cache present.result present.requests answer.state.cache :=
    inquiry.handled_answer correlationId state
  obtain ⟨once, aside⟩ := handled.length_requests
  refine ⟨once, aside, fun choice chosen => ?_⟩
  have shape : present = ⟨inquiry, .ok choice, present.requests⟩ := by rw [← chosen]; rfl
  rw [chosen] at handled
  refine ⟨fun called => shape ▸ handled.fetched_of_called called, fun consults => ?_⟩
  obtain ⟨origin, current, pair, attributes, own, leads⟩ := handled.source recorded consults
  rw [← shape] at current own
  refine ⟨origin, current, pair, attributes, own, fun again repeats room inTime => ?_⟩
  obtain ⟨capacity'', timeout''⟩ := handled.bounds
  refine Inquiry.answer_of_leads correlationId repeats.consults repeats.keeps repeats.keepsUser
    (leads ?_) ?_ ?_ ?_
  · rw [capacity'', capacity']
    exact room
  · exact ((Inquiry.key_eq_iff.mpr repeats.pair).trans (Inquiry.key_eq_iff.mpr pair)).symm
  · exact (repeats.attributes.trans attributes).symm
  · rw [Cache.isExpired_eq_false, timeout'', timeout']
    exact inTime

namespace Sample

/-- A service that chooses the same variation for everyone, asked by a visitor of a rule. -/
def visit : Inquiry :=
  { client := fun _ => .ok "1", config := {}, user := { id := "user" }, ruleId := "20" }

/-- Another user, whose id and rule make up the same text. -/
def namesake : Inquiry := { visit with user := { id := "user-20" }, ruleId := "" }

end Sample

/-- A visit within the timeout gets the choice of the first one without a call, and a visit of
someone else in between does not change that. -/
theorem choice_of_second_visit :
    (∀ now ≤ 300, (({ Sample.visit with now } : Inquiry).answer Nat.repr
        (Sample.visit.answer Nat.repr (.fresh 10 300)).state).requests = []) ∧
      let state := stateAfter Nat.repr (.fresh 10 300) [Sample.visit, Sample.namesake]
      (Sample.visit.answer Nat.repr state).requests = [] ∧
        ∃ origin, Current (transcript Nat.repr (.fresh 10 300)
            [Sample.visit, Sample.namesake, Sample.visit]) origin
            { variationId := "1", correlationId := "0" } ∧
          Sample.visit.SamePair origin.inquiry := by
  constructor
  · intro now inTime
    obtain ⟨_, _, choices⟩ := choice_goes_back_to_fetch Nat.repr 10 300 [] Sample.visit
    obtain ⟨_, cached⟩ := choices { variationId := "1", correlationId := "0" } rfl
    obtain ⟨origin, _, _, _, own, again⟩ := cached rfl
    have started : origin.inquiry.now = 0 := by rw [own (List.cons_ne_nil _ _)]; rfl
    have fresh : now - origin.inquiry.now ≤ 300 := by rw [started]; omega
    exact congrArg Answer.requests (again { Sample.visit with now } ⟨rfl, rfl, rfl, ⟨rfl, rfl⟩, rfl⟩
      (by decide) (.inr fresh))
  · obtain ⟨_, _, choices⟩ :=
      choice_goes_back_to_fetch Nat.repr 10 300 [Sample.visit, Sample.namesake] Sample.visit
    obtain ⟨_, cached⟩ := choices { variationId := "1", correlationId := "0" } rfl
    obtain ⟨origin, current, pair, _⟩ := cached rfl
    exact ⟨by rfl, origin, current, pair⟩

end FeatureFlags.Bandit
