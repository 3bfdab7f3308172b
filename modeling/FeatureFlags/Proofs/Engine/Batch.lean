import FeatureFlags.Proofs.Decision.StoreUpdates
import FeatureFlags.Proofs.Engine.Calls

/-!
Deciding several flags in one call and in several. Without bandits both serve the same and leave the
same profiles, although a flag may find what another one has assigned only in the course of the
same call. Hence the order of the flags does not matter.
-/

namespace FeatureFlags

namespace FlagDecision

/-- A decision apart from the stage that it comes from and its reasons. -/
def unexplained (decision : FlagDecision) : FlagDecision :=
  { decision with stage := none, reasons := [] }

theorem unexplained_ofOutcome {decided decided' : FlagOutcome} (alike : decided.Alike decided')
    (flag : Flag) (reasons reasons' : List Reason) (user : User) (config : Config)
    (options : DecideOptions) :
    (ofOutcome flag decided reasons user config options).unexplained =
      (ofOutcome flag decided' reasons' user config options).unexplained := by
  obtain ⟨rule, variation, isError, correlationId⟩ := alike
  simp only [unexplained, ofOutcome, resolveVariables, isReported, Outcome.isEnabled, variation,
    isError, correlationId]
  rw [rule]

end FlagDecision

namespace Context
variable {σ : Type} {context : Context σ} {start finish : Progress σ} {events : List Event}

/-- The store after a decision on a flag key without a bandit. -/
def storeAfterKey (context : Context σ) (store : ProfileStore) (key : String) : ProfileStore :=
  match context.config.flagsByKey[key]? with
  | none => store
  | some flag => context.storeAfter store flag

theorem storeAfterKey_withProfiles (context : Context σ) (profiles : Option ProfileStore)
    (store : ProfileStore) (key : String) :
    { context with profiles }.storeAfterKey store key = context.storeAfterKey store key := by
  simp only [storeAfterKey, storeAfter_withProfiles]

theorem storeAfterKey_inMemory {store : ProfileStore} (inMemory : store.InMemory) (key : String) :
    (context.storeAfterKey store key).InMemory := by
  simp only [storeAfterKey]
  split
  · exact inMemory
  · exact inMemory.assign _ _

theorem storeAfterKey_filed {store : ProfileStore} (filed : store.Filed context.user.id)
    (key : String) : (context.storeAfterKey store key).Filed context.user.id := by
  simp only [storeAfterKey]
  split
  · exact filed
  · exact filed.assign _

theorem storeAfterKey_comm (indexed : context.config.WellIndexed) {store : ProfileStore}
    (inMemory : store.InMemory) (filed : store.Filed context.user.id) (first second : String) :
    context.storeAfterKey (context.storeAfterKey store first) second =
      context.storeAfterKey (context.storeAfterKey store second) first := by
  cases known : context.config.flagsByKey[first]? with
  | none => simp [storeAfterKey, known]
  | some flag =>
      cases known' : context.config.flagsByKey[second]? with
      | none => simp [storeAfterKey, known']
      | some flag' =>
          simpa [storeAfterKey, known, known'] using
            storeAfter_comm indexed inMemory filed flag flag'

/-- The order in which flags are decided makes no difference to the store. -/
theorem foldl_storeAfterKey_perm (indexed : context.config.WellIndexed)
    {keys keys' : List String} (perm : keys.Perm keys') {store : ProfileStore}
    (inMemory : store.InMemory) (filed : store.Filed context.user.id) :
    keys.foldl context.storeAfterKey store = keys'.foldl context.storeAfterKey store := by
  induction perm generalizing store with
  | nil => rfl
  | cons key _ ih => exact ih (storeAfterKey_inMemory inMemory key) (storeAfterKey_filed filed key)
  | swap first second keys =>
      simp only [List.foldl_cons, storeAfterKey_comm indexed inMemory filed first second]
  | trans _ _ ih ih' => exact (ih inMemory filed).trans (ih' inMemory filed)

theorem Layered.saved_eq {flag : Flag} {decided : FlagOutcome} {store : ProfileStore}
    (noBandit : context.bandit = none) (profiles : context.profiles = some store)
    (inMemory : store.InMemory)
    (faithful : start.tracker.Faithful store context.user.id)
    (layered : Layered context flag start decided events finish) :
    finish.tracker.saved store = context.storeAfter (start.tracker.saved store) flag ∧
      finish.tracker.Faithful store context.user.id := by
  have reaches := layered.reaches
  have decides := layered.eq_flagOutcome noBandit
  simp only [Reaches, profiles] at reaches
  simp only [profileAt, profiles, Option.map_some, ← faithful.saved] at decides
  refine ⟨?_, reaches.faithful inMemory faithful⟩
  rw [reaches.saved_eq faithful, storeAfter, addition?, ← decides]

/-- The profile that is saved at the end is the one that single decisions would have saved. -/
theorem Answered.saved_eq {keys : List String} {answers : List Answer} {store : ProfileStore}
    (noBandit : context.bandit = none) (profiles : context.profiles = some store)
    (inMemory : store.InMemory)
    (faithful : start.tracker.Faithful store context.user.id)
    (answered : Answered context start keys answers events finish) :
    finish.tracker.saved store =
      keys.foldl context.storeAfterKey (start.tracker.saved store) := by
  induction answered with
  | nil => rfl
  | unknown unknown _ ih =>
      rw [List.foldl_cons, storeAfterKey, unknown]
      exact ih faithful
  | known known layered _ ih =>
      obtain ⟨saved, faithful'⟩ := layered.saved_eq noBandit profiles inMemory faithful
      rw [List.foldl_cons, storeAfterKey, known]
      exact (ih faithful').trans (by rw [saved])

theorem Answered.bandit_eq {keys : List String} {answers : List Answer}
    (noBandit : context.bandit = none)
    (answered : Answered context start keys answers events finish) :
    finish.bandit = start.bandit := by
  induction answered with
  | nil => rfl
  | unknown _ _ ih => exact ih
  | known _ layered _ ih => exact ih.trans (layered.bandit_eq noBandit)

theorem Answered.tracker_eq {keys : List String} {answers : List Answer}
    (profiles : context.profiles = none)
    (answered : Answered context start keys answers events finish) :
    finish.tracker = start.tracker := by
  induction answered with
  | nil => rfl
  | unknown _ _ ih => exact ih
  | known _ layered _ ih =>
      have reaches := layered.reaches
      simp only [Reaches, profiles] at reaches
      exact ih.trans reaches

/-- An answer that serves what the flag decides for a profile. -/
inductive Serves (context : Context σ) (profile : Option UserProfile) : Answer → Prop
  | unknown {key : String} (unknown : context.config.flagsByKey[key]? = none) :
      Serves context profile (key, none)
  | known {key : String} {flag : Flag} {decided : FlagOutcome} {reasons : List Reason}
      (known : context.config.flagsByKey[key]? = some flag)
      (alike : decided.Alike (context.flagOutcome flag profile)) :
      Serves context profile (key, some (flag, decided, reasons))

theorem Serves.of_assign (indexed : context.config.WellIndexed) {answer : Answer}
    {profile : Option UserProfile} {earlier : Flag}
    (serves : Serves context (profile.map (·.assign
      (context.flagOutcome earlier profile).assignment?)) answer) :
    Serves context profile answer := by
  cases profile with
  | none => exact serves
  | some profile =>
      cases serves with
      | unknown unknown => exact .unknown unknown
      | @known _ flag _ _ known alike =>
          exact .known known (alike.trans (alike_flagOutcome_assign indexed flag earlier profile))

/-- What a flag serves does not depend on the flags before it. -/
theorem Answered.serves (indexed : context.config.WellIndexed) (noBandit : context.bandit = none)
    {keys : List String} {answers : List Answer}
    (answered : Answered context start keys answers events finish) :
    ∀ answer ∈ answers, Serves context (context.profileAt start) answer := by
  induction answered with
  | nil => simp
  | unknown unknown _ ih => exact List.forall_mem_cons.mpr ⟨.unknown unknown, ih⟩
  | known known layered _ ih =>
      have decides := layered.eq_flagOutcome noBandit
      rw [layered.reaches.profileAt_eq, decides] at ih
      -- The rest is decided for the profile that this flag leaves; `of_assign` takes that back.
      refine List.forall_mem_cons.mpr ⟨.known known ?_, fun answer member => ?_⟩
      · rw [decides]
        exact .refl _
      · exact (ih answer member).of_assign indexed

end Context
end FeatureFlags
