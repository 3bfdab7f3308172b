import FeatureFlags.Proofs.Decision.Rollouts
import FeatureFlags.Proofs.Reason

/-!
Failures explain themselves: whenever an experiment or a flag comes to an error, an error is among
the reasons. Only a bandit fails, and it says so at once; whatever comes after that keeps the reason.
-/

namespace FeatureFlags

namespace Traced
variable {α β : Type} {failed : α → Bool} {failed' : β → Bool}

/-- If the value is a failure, an error is among the reasons. -/
def Explains (failed : α → Bool) (traced : Traced α) : Prop :=
  failed traced.value = true → Reason.hasErrors traced.reasons = true

theorem Explains.of_value {traced : Traced α} (sound : failed traced.value = false) :
    traced.Explains failed :=
  fun fails => absurd (sound.symm.trans fails) Bool.false_ne_true

/-- A failure was explained in the first step, or the second step explains it. -/
theorem Explains.bind {first : Traced α} {second : α → Traced β}
    (explains : first.Explains failed)
    (later : ∀ a, failed a = false → (second a).Explains failed') :
    (first >>= second).Explains failed' := by
  intro fails
  rw [reasons_bind, Reason.hasErrors_append, Bool.or_eq_true]
  cases earlier : failed first.value with
  | true => exact .inl (explains earlier)
  | false => exact .inr (later first.value earlier fails)

/-- It is enough that the second step explains. -/
theorem Explains.after (first : Traced α) {second : α → Traced β}
    (explains : ∀ a, (second a).Explains failed') : (first >>= second).Explains failed' := by
  have never : first.Explains fun _ => false := .of_value rfl
  exact never.bind fun a _ => explains a

end Traced

namespace Resolution
variable {σ α β : Type} {failed : α → Bool} {failed' : β → Bool}

/-- Whatever the progress is, a failure is explained. -/
def Explains (failed : α → Bool) (resolution : Resolution σ α) : Prop :=
  ∀ start, (resolution start).Explains fun reached => failed reached.1

theorem explains_pure {a : α} (sound : failed a = false) :
    (pure a : Resolution σ α).Explains failed :=
  fun _ => .of_value sound

theorem Explains.bind {first : Resolution σ α} {second : α → Resolution σ β}
    (explains : first.Explains failed)
    (later : ∀ a, failed a = false → (second a).Explains failed') :
    (first >>= second).Explains failed' :=
  fun start => (explains start).bind fun reached sound => later reached.1 sound reached.2

theorem Explains.after (first : Resolution σ α) {second : α → Resolution σ β}
    (explains : ∀ a, (second a).Explains failed') : (first >>= second).Explains failed' :=
  fun start => .after (first start) fun reached => explains reached.1 reached.2

theorem explains_lift {traced : Traced α} (explains : traced.Explains failed) :
    (liftM traced : Resolution σ α).Explains failed := by
  intro start
  rw [lift_apply]
  exact Traced.Explains.bind explains fun _ sound => .of_value sound

theorem explains_orElse {first second : Resolution σ (Option α)}
    (explains : first.Explains (·.any failed)) (explains' : second.Explains (·.any failed)) :
    (orElse first second).Explains (·.any failed) := by
  refine explains.bind fun result sound => ?_
  cases result with
  | some a => exact explains_pure sound
  | none => exact explains'

theorem explains_firstSome {f : α → Resolution σ (Option β)}
    (explains : ∀ a, (f a).Explains (·.any failed')) (items : List α) :
    (firstSome f items).Explains (·.any failed') := by
  induction items with
  | nil => exact explains_pure rfl
  | cons first rest ih => exact explains_orElse (explains first) ih

end Resolution

/-- A decision that a bandit has failed to make. -/
def FlagOutcome.isError (decided : FlagOutcome) : Bool := decided.outcome.isError

namespace Context
open Traced Resolution
variable {σ : Type}

theorem explains_banditOutcome (userId : String) (experiment : Experiment)
    (answer : Except Bandit.Failure Bandit.Choice) :
    (banditOutcome userId experiment answer).Explains Outcome.isError := by
  cases answer with
  | error failure => exact fun _ => rfl
  | ok choice =>
      simp only [banditOutcome]
      split
      · exact fun _ => rfl
      · exact .of_value rfl

theorem explains_assignByHash (context : Context σ) (experiment : Experiment)
    (bucketingId : String) :
    (context.assignByHash experiment bucketingId).Explains Outcome.isError := by
  refine .after _ fun bucketed => ?_
  cases bucketed with
  | some variation => exact .of_value rfl
  | none => exact .of_value rfl

theorem explains_assignByBandit (context : Context σ) (service : Bandit.Service σ)
    (settings : BanditSettings) (experiment : Experiment) (bucketingId : String) :
    (context.assignByBandit service settings experiment bucketingId).Explains
      Outcome.isError := by
  refine .after _ fun eligible => ?_
  cases eligible with
  | none => exact .after _ fun _ => explains_pure rfl
  | some _ =>
      exact .after _ fun answer =>
        explains_lift (explains_banditOutcome context.user.id experiment answer)

theorem explains_assign (context : Context σ) (experiment : Experiment) :
    (context.assign experiment).Explains Outcome.isError := by
  refine .after _ fun bucketingId => ?_
  split
  · exact context.explains_assignByBandit _ _ _ _
  · exact .after _ fun _ => explains_lift (context.explains_assignByHash _ _)
  · exact explains_lift (context.explains_assignByHash _ _)

theorem explains_assignIfAdmitted (context : Context σ) (experiment : Experiment) :
    (context.assignIfAdmitted experiment).Explains Outcome.isError := by
  refine .after _ fun admitted => ?_
  split
  · -- The bandit has explained a failure before the profile is touched.
    refine (context.explains_assign experiment).bind fun outcome sound => ?_
    exact .after _ fun _ => explains_pure sound
  · exact .after _ fun _ => explains_pure rfl

/-- If an experiment comes to an error, the error is among the reasons. -/
theorem explains_resolveExperiment (context : Context σ) (experiment : Experiment) :
    (context.resolveExperiment experiment).Explains Outcome.isError := by
  simp only [resolveExperiment]
  split
  · refine .after _ fun preassigned => ?_
    split
    · exact explains_pure rfl
    · exact context.explains_assignIfAdmitted experiment
  · exact .after _ fun _ => explains_pure rfl

theorem explains_forcedByFlag (context : Context σ) (flag : Flag) :
    (context.forcedByFlag flag).Explains (·.any FlagOutcome.isError) := by
  refine .of_value ?_
  rw [value_forcedByFlag]
  cases context.forcedOnFlag? flag <;> rfl

theorem explains_forcedByRule (context : Context σ) (flag : Flag) (ruleType : RuleType)
    (rule : Experiment) :
    (context.forcedByRule flag ruleType rule).Explains (·.any FlagOutcome.isError) := by
  refine .of_value ?_
  rw [value_forcedByRule]
  cases context.forcedOnRule? flag rule <;> rfl

theorem explains_resolveHoldouts (context : Context σ) (flag : Flag) :
    (context.resolveHoldouts flag).Explains (·.any FlagOutcome.isError) := by
  refine .of_value ?_
  rw [resolveHoldouts, value_firstSome]
  generalize held : List.findSome? _ (context.config.holdoutsForFlag flag.id) = decided
  cases decided with
  | none => rfl
  | some decided =>
      obtain ⟨holdout, _, served⟩ := List.exists_of_findSome?_eq_some held
      obtain ⟨variation, _, rfl⟩ := Option.map_eq_some_iff.mp served
      rfl

theorem explains_resolveRollout (context : Context σ) (flag : Flag) :
    (context.resolveRollout flag).Explains (·.any FlagOutcome.isError) := by
  refine .of_value ?_
  cases served : (context.resolveRollout flag).value with
  | none => rfl
  | some decided =>
      obtain ⟨_, _, _, _, outcome, _⟩ := servedByRollout_of_resolveRollout served
      simp [FlagOutcome.isError, outcome, Outcome.isError]

theorem explains_resolveRule (context : Context σ) (flag : Flag) (experimentId : String) :
    (context.resolveRule flag experimentId).Explains (·.any FlagOutcome.isError) := by
  simp only [resolveRule]
  split
  · exact .after _ fun _ => explains_pure rfl
  · rename_i experiment _
    refine (explains_lift (context.explains_forcedByRule flag .experiment experiment)).bind
      fun forced sound => ?_
    cases forced with
    | some decided => exact explains_pure sound
    | none =>
        refine (context.explains_resolveExperiment experiment).bind fun outcome sound => ?_
        refine explains_pure ?_
        split
        · exact sound
        · rfl

/-- If a flag comes to an error, the error is among the reasons. -/
theorem explains_resolveFlag (context : Context σ) (flag : Flag) :
    (context.resolveFlag flag).Explains FlagOutcome.isError := by
  have layers := explains_orElse (explains_lift (context.explains_forcedByFlag flag))
    (explains_orElse (explains_lift (context.explains_resolveHoldouts flag))
      (explains_orElse (explains_firstSome (context.explains_resolveRule flag) flag.experimentIds)
        (explains_lift (context.explains_resolveRollout flag))))
  refine layers.bind fun decided sound => explains_pure ?_
  cases decided with
  | none => rfl
  | some decided => exact sound

end Context
end FeatureFlags
