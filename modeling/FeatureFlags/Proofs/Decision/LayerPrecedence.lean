import FeatureFlags.Proofs.Decision.Rollouts
import FeatureFlags.Proofs.Decision.StagePrecedence

/-!
The precedence of the layers, as a caller sees it: a call for one flag does what the first layer that
decides does. Without an experiment rule that gets as far as the profile of the user, all that a call
does is hash.
-/

namespace FeatureFlags
open Event
namespace Context
variable {σ : Type} {context : Context σ} {flag : Flag} {start finish : Progress σ}
  {events : List Event}

/-- A rule that is settled neither by force, nor by its status, an override or the whitelist. -/
structure LeftOpen (context : Context σ) (flag : Flag) (experiment : Experiment) : Prop where
  notForced : context.forcedOnRule? flag experiment = none
  active : experiment.isActive = true
  notOverridden : context.overrides.variationOf? experiment context.user.id = none
  notWhitelisted : experiment.whitelistedVariation? context.user.id = none

theorem Staged.silent_of_settled {experiment : Experiment} {outcome : Outcome}
    (staged : Staged context experiment start outcome events finish)
    (notForced : context.forcedOnRule? flag experiment = none)
    (settled : ¬ context.LeftOpen flag experiment) : events = [] ∧ finish = start := by
  cases staged with
  | inactive _ | override _ _ | whitelist _ _ _ => exact ⟨rfl, rfl⟩
  | sticky active notOverridden notWhitelisted _ =>
      exact absurd ⟨notForced, active, notOverridden, notWhitelisted⟩ settled
  | outsideAudiences unsettled _ | assigned unsettled _ _ =>
      exact absurd ⟨notForced, unsettled.active, unsettled.notOverridden,
        unsettled.notWhitelisted⟩ settled

theorem PassedOver.silent_of_settled {ids : List String}
    (passed : PassedOver context flag start ids events finish)
    (settled : ∀ id ∈ ids, ∀ experiment,
      context.config.experimentsById[id]? = some experiment → ¬ context.LeftOpen flag experiment) :
    events = [] ∧ finish = start := by
  induction passed with
  | nil => exact ⟨rfl, rfl⟩
  | unknown _ _ ih => exact ih fun id member => settled id (List.mem_cons_of_mem _ member)
  | undecided known notForced staged _ ih =>
      obtain ⟨rfl, rfl⟩ :=
        staged.silent_of_settled notForced (settled _ List.mem_cons_self _ known)
      obtain ⟨rfl, rfl⟩ := ih fun id member => settled id (List.mem_cons_of_mem _ member)
      exact ⟨rfl, rfl⟩

theorem RuleDecides.silent_of_settled {experiment : Experiment} {outcome : Outcome}
    (decides : RuleDecides context flag experiment start outcome events finish)
    (settled : ¬ context.LeftOpen flag experiment) : events = [] ∧ finish = start := by
  cases decides with
  | forced _ => exact ⟨rfl, rfl⟩
  | staged notForced staged _ => exact staged.silent_of_settled notForced settled

/-- The profile of the user is touched for the sake of experiment rules only. -/
theorem Layered.onlyHashes_of_settled {decided : FlagOutcome}
    (layered : Layered context flag start decided events finish)
    (settled : ∀ id ∈ flag.experimentIds, ∀ experiment,
      context.config.experimentsById[id]? = some experiment → ¬ context.LeftOpen flag experiment) :
    OnlyHashes events ∧ finish = start := by
  have holdouts (looked : List Holdout) : OnlyHashes (looked.flatMap context.holdoutEvents) :=
    OnlyHashes.flatMap context.onlyHashes_holdoutEvents looked
  cases layered with
  | forced _ => exact ⟨onlyHashes_nil, rfl⟩
  | holdout _ _ _ _ => exact ⟨holdouts _, rfl⟩
  | experiment _ listed passed known decides =>
      obtain ⟨rfl, rfl⟩ := passed.silent_of_settled fun id member =>
        settled id (by rw [listed]; exact List.mem_append_left _ member)
      obtain ⟨rfl, rfl⟩ := decides.silent_of_settled
        (settled _ (by rw [listed]; exact List.mem_append_right _ List.mem_cons_self) _ known)
      exact ⟨(holdouts _).append onlyHashes_nil, rfl⟩
  | rollout _ passed _ | nothing _ passed _ =>
      obtain ⟨rfl, rfl⟩ := passed.silent_of_settled settled
      exact ⟨(holdouts _).append (context.onlyHashes_resolveRollout flag), rfl⟩

/-- Neither a decision forced for the whole flag nor a holdout gets to the experiment rules. -/
theorem Layered.onlyHashes_of_early {decided : FlagOutcome}
    (layered : Layered context flag start decided events finish)
    (early : (decided.rule = none ∧ decided.outcome ≠ .undecided) ∨
      decided.rule.map Prod.fst = some .holdout) :
    OnlyHashes events ∧ finish = start := by
  cases layered with
  | forced _ => exact ⟨onlyHashes_nil, rfl⟩
  | holdout _ _ _ _ => exact ⟨OnlyHashes.flatMap context.onlyHashes_holdoutEvents _, rfl⟩
  | experiment _ _ _ _ _ => rcases early with ⟨noRule, _⟩ | held <;> simp_all
  | rollout _ _ served =>
      obtain ⟨rule, variation, source, byRule, _, _⟩ := servedByRollout_of_resolveRollout served
      rcases early with ⟨noRule, _⟩ | held <;> simp_all
  | nothing _ _ _ => rcases early with ⟨_, decides⟩ | held <;> contradiction

end Context

namespace Engine
open Context
variable {σ : Type}

/-- A call for a flag follows the first layer that decides. -/
theorem getVariationForFeature_follows_first_layer (engine : Engine σ) (state : EngineState σ)
    (config : Config) (user : User) (options : DecideOptions) {flagKey : String} {flag : Flag}
    (known : config.flagsByKey[flagKey]? = some flag) :
    let context := engine.context state config user (engine.effectiveOptions options)
    let call := engine.getVariationForFeature state config user options flagKey
    ∃ decided reasons events finish,
      Layered context flag { bandit := state.bandit } decided events finish ∧
      call.value = .ok { decided, reasons } ∧
      call.events = events ++ context.saves finish ∧
      call.state = leave context state finish ∧
      ((decided.rule = none ∧ decided.outcome ≠ .undecided) ∨
          decided.rule.map Prod.fst = some .holdout →
        OnlyHashes call.events ∧ call.state = state) ∧
      ((∀ id ∈ flag.experimentIds, ∀ experiment,
          config.experimentsById[id]? = some experiment → ¬ context.LeftOpen flag experiment) →
        OnlyHashes call.events ∧ call.state = state) := by
  intro context call
  obtain ⟨decided, events, finish, layered, reasons, performed⟩ :=
    getVariationForFeature_layered engine state config user options known
  have quiet (hashes : OnlyHashes events ∧ finish = { bandit := state.bandit }) :
      OnlyHashes call.events ∧ call.state = state := by
    obtain ⟨hashes, rfl⟩ := hashes
    have idle : ({ bandit := state.bandit } : Progress σ).tracker.isChanged = false := rfl
    obtain ⟨unsaved, left⟩ := silent_of_unchanged engine state config user
      (engine.effectiveOptions options) idle rfl
    simp only [call, performed, unsaved, left, List.append_nil]
    exact ⟨hashes, trivial⟩
  refine ⟨decided, reasons, events, finish, layered, ?_, ?_, ?_, ?_, ?_⟩
  · simp only [call, performed]
  · simp only [call, performed, context]
  · simp only [call, performed, context]
  · exact fun early => quiet (layered.onlyHashes_of_early early)
  · exact fun settled => quiet (layered.onlyHashes_of_settled settled)

namespace Sample

def everyone : Experiment :=
  { id := "20", key := "everyone", status := .running, variations := [on]
    trafficAllocation := [{ entityId := "1", endOfRange := 10000 }] }

/-- Before the rollout there are a holdout without traffic, an experiment that does not exist, and
one that is closed. -/
def guarded : Flag :=
  { id := "30", key := "banner", rolloutId := "40", experimentIds := ["gone", "10"] }

def guardedProject : Config := .ofDatafile
  { experiments := [closed], flags := [guarded], rollouts := [{ id := "40", rules := [everyone] }]
    holdouts := [{ experiment := { everyone with id := "50", trafficAllocation := [] } }] }

/-- Everybody is in the first bucket. -/
def first : Engine Unit := { sharder := fun _ => 0 }

def empty : EngineState Unit := { profiles := some {}, bandit := () }

end Sample

theorem getVariationForFeature_reaches_rollout :
    Sample.guardedProject.flagsByKey["banner"]? = some Sample.guarded ∧
      ∃ events finish,
        Layered (Sample.first.context Sample.empty Sample.guardedProject { id := "user" } ∅)
          Sample.guarded { bandit := () }
          { rule := some (.rollout, Sample.everyone), outcome := .served Sample.on .rollout }
          events finish ∧
        events = [.hashed "user50", .lookedUp "user", .hashed "user20"] := by
  have known : Sample.guardedProject.flagsByKey["banner"]? = some Sample.guarded := rfl
  refine ⟨known, ?_⟩
  obtain ⟨decided, reasons, events, finish, layered, value, _, _, _, _⟩ :=
    getVariationForFeature_follows_first_layer Sample.first Sample.empty Sample.guardedProject
      { id := "user" } ∅ known
  have served : (Sample.first.getVariationForFeature Sample.empty Sample.guardedProject
      { id := "user" } ∅ "banner").value.map (·.decided) =
        .ok { rule := some (.rollout, Sample.everyone), outcome := .served Sample.on .rollout } := by
    rfl
  rw [value] at served
  cases served
  exact ⟨events, finish, layered, layered.runs.2.symm⟩

end Engine
end FeatureFlags
