import FeatureFlags.Proofs.Bandit.Inquiries

/-!
Transcripts of a caching service: every inquiry of a run beside its result and the calls that were
made for it. Each entry of the cache goes back to the exchange that fetched it, and nothing that
happened since has displaced it.
-/

namespace FeatureFlags.Bandit

structure Exchange where
  inquiry : Inquiry
  result : Except Failure Choice
  requests : List Request

namespace Exchange

/-- The choice comes from a call of the remote service in this very exchange. -/
structure Fetched (exchange : Exchange) (choice : Choice) : Prop where
  result : exchange.result = .ok choice
  requests : exchange.requests = [exchange.inquiry.request choice.correlationId]
  reply : exchange.inquiry.client (exchange.inquiry.request choice.correlationId) =
    .ok choice.variationId
  named : choice.variationId ≠ ""

/-- The later exchange takes out of the cache what the earlier one put there. -/
def Displaces (later earlier : Exchange) : Prop :=
  later.inquiry.ignoresCache = false ∧
    (later.inquiry.resets = true ∨
      (later.inquiry.SamePair earlier.inquiry ∧
        (later.inquiry.invalidates = true ∨ ∃ choice, later.Fetched choice)))

end Exchange

theorem Inquiry.Replied.fetched {inquiry : Inquiry} {correlationId : String} {choice : Choice}
    (replied : inquiry.Replied correlationId (.ok choice)) :
    (⟨inquiry, .ok choice, [inquiry.request correlationId]⟩ : Exchange).Fetched choice := by
  cases replied with
  | chosen named reply => exact ⟨rfl, rfl, reply, named⟩

/-- The choice was fetched in one of the exchanges, with the use of the cache, and no exchange that
came after it has displaced it. -/
def Current (transcript : List Exchange) (origin : Exchange) (choice : Choice) : Prop :=
  origin.Fetched choice ∧ origin.inquiry.ignoresCache = false ∧
    ∃ before after, transcript = before ++ origin :: after ∧
      ∀ later ∈ after, ¬ later.Displaces origin

theorem Current.concat {transcript : List Exchange} {origin : Exchange} {choice : Choice}
    (current : Current transcript origin choice) {exchange : Exchange}
    (stays : ¬ exchange.Displaces origin) : Current (transcript ++ [exchange]) origin choice := by
  obtain ⟨fetched, consults, before, after, rfl, kept⟩ := current
  refine ⟨fetched, consults, before, after ++ [exchange], by simp, fun later member => ?_⟩
  rcases List.mem_append.mp member with earlier | last
  · exact kept later earlier
  · exact List.mem_singleton.mp last ▸ stays

theorem Exchange.Fetched.current {exchange : Exchange} {choice : Choice}
    (fetched : exchange.Fetched choice) (consults : exchange.inquiry.ignoresCache = false)
    (transcript : List Exchange) : Current (transcript ++ [exchange]) exchange choice :=
  ⟨fetched, consults, transcript, [], rfl, fun _ member => absurd member List.not_mem_nil⟩

/-- The entry holds a choice that is current. -/
def Recorded (transcript : List Exchange) (entry : CacheEntry) : Prop :=
  ∃ origin choice, Current transcript origin choice ∧ entry = origin.inquiry.entry choice

theorem Recorded.concat_of_ignores {transcript : List Exchange} {exchange : Exchange}
    {entry : CacheEntry} (recorded : Recorded transcript entry)
    (ignores : exchange.inquiry.ignoresCache = true) :
    Recorded (transcript ++ [exchange]) entry := by
  obtain ⟨origin, choice, current, same⟩ := recorded
  refine ⟨origin, choice, current.concat ?_, same⟩
  rintro ⟨consults, -⟩
  exact Bool.false_ne_true (consults.symm.trans ignores)

/-- An entry that outlives the preparation of an exchange, and that the exchange does not replace,
stays current. -/
theorem Recorded.concat_of_prepared {transcript : List Exchange} {exchange : Exchange}
    {cache : Cache} {entry : CacheEntry}
    (recorded : ∀ entry ∈ cache.entries, Recorded transcript entry)
    (member : entry ∈ (exchange.inquiry.prepared cache).entries)
    (unreplaced : ∀ choice, exchange.Fetched choice → entry.key ≠ exchange.inquiry.key) :
    Recorded (transcript ++ [exchange]) entry := by
  obtain ⟨old, keeps, keepsUser⟩ := mem_prepareCache.mp member
  obtain ⟨origin, choice, current, rfl⟩ := recorded entry old
  refine ⟨origin, choice, current.concat ?_, rfl⟩
  rintro ⟨-, resets | ⟨pair, invalidates | ⟨choice, fetched⟩⟩⟩
  · exact Bool.false_ne_true (keeps.symm.trans resets)
  · exact keepsUser invalidates (Inquiry.key_eq_iff.mpr pair).symm
  · exact unreplaced choice fetched (Inquiry.key_eq_iff.mpr pair).symm

/-- What one exchange keeps: every entry of the cache holds a choice that is current. -/
theorem Inquiry.Handled.recorded {transcript : List Exchange} {inquiry : Inquiry}
    {cache after : Cache} {result : Except Failure Choice} {requests : List Request}
    (handled : inquiry.Handled cache result requests after)
    (recorded : ∀ entry ∈ cache.entries, Recorded transcript entry) :
    ∀ entry ∈ after.entries, Recorded (transcript ++ [⟨inquiry, result, requests⟩]) entry := by
  intro entry member
  cases handled with
  | aside ignores replied => exact (recorded entry member).concat_of_ignores ignores
  | reused consults found key fresh same =>
      refine .concat_of_prepared recorded ((Cache.moved_within found _).entries entry member)
        fun choice fetched => ?_
      exact absurd fetched.requests (List.cons_ne_nil _ _).symm
  | failed consults kept =>
      refine .concat_of_prepared recorded (kept.entries entry member) fun choice fetched => ?_
      cases fetched.result
  | renewed consults kept replied =>
      rcases Cache.mem_of_mem_save member with rfl | ⟨old, other⟩
      · exact ⟨_, _, replied.fetched.current consults transcript, rfl⟩
      · exact .concat_of_prepared recorded (kept.entries entry old) fun _ _ => other

section Runs
variable (correlationId : Nat → String)

/-- The state after some inquiries. -/
def stateAfter (state : CachingState) (inquiries : List Inquiry) : CachingState :=
  inquiries.foldl (fun state inquiry => (inquiry.answer correlationId state).state) state

def Inquiry.exchange (inquiry : Inquiry) (state : CachingState) : Exchange :=
  let answer := inquiry.answer correlationId state
  ⟨inquiry, answer.result, answer.requests⟩

def transcript : CachingState → List Inquiry → List Exchange
  | _, [] => []
  | state, inquiry :: later =>
    inquiry.exchange correlationId state ::
      transcript (inquiry.answer correlationId state).state later

/-- A service that was asked nothing yet. -/
def CachingState.fresh (capacity : Nat) (timeout : Int) : CachingState :=
  { cache := { capacity, timeout } }

/-- What a run keeps: at any time every entry of the cache holds a choice that is current. -/
theorem recorded_of_run (past : List Exchange) (state : CachingState) (inquiries : List Inquiry)
    (recorded : ∀ entry ∈ state.cache.entries, Recorded past entry) :
    ∀ entry ∈ (stateAfter correlationId state inquiries).cache.entries,
      Recorded (past ++ transcript correlationId state inquiries) entry := by
  induction inquiries generalizing past state with
  | nil => simpa [stateAfter, transcript] using recorded
  | cons inquiry inquiries ih =>
      have step := (inquiry.handled_answer correlationId state).recorded recorded
      simpa only [stateAfter, List.foldl_cons, transcript, Inquiry.exchange, List.append_assoc,
        List.singleton_append] using ih _ _ step

theorem recorded_of_fresh (capacity : Nat) (timeout : Int) (inquiries : List Inquiry) :
    ∀ entry ∈ (stateAfter correlationId (.fresh capacity timeout) inquiries).cache.entries,
      Recorded (transcript correlationId (.fresh capacity timeout) inquiries) entry :=
  recorded_of_run correlationId [] (.fresh capacity timeout) inquiries
    fun _ member => absurd member List.not_mem_nil

/-- The bounds of the cache stay what they were. -/
theorem bounds_of_run (state : CachingState) (inquiries : List Inquiry) :
    (stateAfter correlationId state inquiries).cache.capacity = state.cache.capacity ∧
      (stateAfter correlationId state inquiries).cache.timeout = state.cache.timeout := by
  induction inquiries generalizing state with
  | nil => exact ⟨rfl, rfl⟩
  | cons inquiry inquiries ih =>
      obtain ⟨capacity, timeout⟩ := (inquiry.handled_answer correlationId state).bounds
      obtain ⟨capacity', timeout'⟩ := ih (inquiry.answer correlationId state).state
      exact ⟨capacity'.trans capacity, timeout'.trans timeout⟩

end Runs
end FeatureFlags.Bandit
