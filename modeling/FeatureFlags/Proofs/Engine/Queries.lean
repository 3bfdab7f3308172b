import FeatureFlags.Proofs.Decision.Courses
import FeatureFlags.Proofs.Engine.Calls

/-!
Queries: the calls that decide something for a user, whatever form their answers have. A query takes
a course, behind which the profile of the user is saved; what it assigns can be told from what it
decides.
-/

namespace FeatureFlags

/-- What an engine can be asked to decide for a user. -/
inductive Query where
  | getVariation (experimentKey : String)
  | getVariationForFeature (flagKey : String)
  | decide (flagKey : String)
  | decideForKeys (flagKeys : List String)
  | decideAll

namespace Context
variable {σ : Type} {context : Context σ} {start finish : Progress σ} {events : List Event}

/-- What the known flags among the answers decide. -/
def flagOutcomes (answers : List Answer) : List FlagOutcome :=
  answers.filterMap fun answer => answer.2.map fun found => found.2.1

theorem resolveKeys_nil_runs (context : Context σ) (start : Progress σ) :
    (context.resolveKeys []).Runs start [] [] start :=
  Resolution.runs_pure [] start

theorem Answered.course {keys : List String} {answers : List Answer}
    (answered : Answered context start keys answers events finish) :
    Course context context.config.Offers start
      ((flagOutcomes answers).filterMap (·.assignment?)) events finish := by
  induction answered with
  | nil => exact .nil
  | unknown _ _ ih => exact ih
  | @known _ _ _ _ _ _ decided _ _ _ _ _ layered _ ih =>
      have course := layered.course.append ih
      simp only [flagOutcomes, List.filterMap_cons, Option.map_some] at course ⊢
      cases assigned : decided.assignment? with
      | none => simpa only [assigned, Option.toList_none, List.nil_append] using course
      | some _ => simpa only [assigned, Option.toList_some, List.singleton_append] using course

theorem Answered.layered_of_mem {keys : List String} {answers : List Answer}
    (answered : Answered context start keys answers events finish) {decided : FlagOutcome}
    (member : decided ∈ flagOutcomes answers) :
    ∃ flag start events finish, Layered context flag start decided events finish := by
  induction answered with
  | nil => cases member
  | unknown _ _ ih => exact ih member
  | known _ layered _ ih =>
      rcases List.mem_cons.mp member with rfl | later
      · exact ⟨_, _, _, _, layered⟩
      · exact ih later

end Context

namespace Engine
open Context
variable {σ : Type} (engine : Engine σ) (state : EngineState σ) (config : Config) (user : User)
  (options : DecideOptions)

/-- What a query does and leaves behind, apart from the answer. -/
def ask : Query → Performed σ Unit
  | .getVariation key => (engine.getVariation state config user options key).map fun _ => ()
  | .getVariationForFeature key =>
    (engine.getVariationForFeature state config user options key).map fun _ => ()
  | .decide key => (engine.decide state config user options key).map fun _ => ()
  | .decideForKeys keys => (engine.decideForKeys state config user options keys).map fun _ => ()
  | .decideAll => (engine.decideAll state config user options).map fun _ => ()

/-- What flags decide one after another in one call. -/
def decidedFlags (keys : List String) : List FlagOutcome :=
  let context := engine.context state config user (engine.effectiveOptions options)
  flagOutcomes (context.resolveKeys keys { bandit := state.bandit }).value.1

/-- What a query decides: an experiment by itself, or the flags that are known. -/
def decisions : Query → List FlagOutcome
  | .getVariation key =>
    match config.experimentsByKey[key]?,
        (engine.getVariation state config user options key).value with
    | some experiment, .ok decision =>
      [{ rule := some (.experiment, experiment), outcome := decision.outcome }]
    | _, _ => []
  | .getVariationForFeature key =>
    match (engine.getVariationForFeature state config user options key).value with
    | .ok decision => [decision.decided]
    | .error _ => []
  | .decide key => engine.decidedFlags state config user options [key]
  | .decideForKeys keys => engine.decidedFlags state config user options keys
  | .decideAll => engine.decidedFlags state config user options (config.flags.map (·.key))

/-- The experiments that a query assigns a variation of, by the hash or by a bandit, each with that
variation. -/
def assignments (query : Query) : List (Experiment × Variation) :=
  (engine.decisions state config user options query).filterMap (·.assignment?)

/-- A query that takes some course, saves the profile, and leaves what it has come to. -/
def Takes (performed : Performed σ Unit) (assigned : List (Experiment × Variation)) : Prop :=
  let context := engine.context state config user (engine.effectiveOptions options)
  ∃ tried events finish, (config.WellIndexed → Unambiguous tried) ∧
    Course context tried { bandit := state.bandit } assigned events finish ∧
    performed = { value := (), events := events ++ context.saves finish
                  state := leave context state finish }

variable {engine state config user options}

/-- A query for something unknown does nothing. -/
theorem takes_nothing : Takes engine state config user options { value := (), state } [] := by
  have idle : ({ bandit := state.bandit } : Progress σ).tracker.isChanged = false := rfl
  obtain ⟨unsaved, left⟩ := silent_of_unchanged engine state config user
    (engine.effectiveOptions options) idle rfl
  refine ⟨fun _ => False, [], { bandit := state.bandit }, fun _ _ _ none _ _ => none.elim, .nil, ?_⟩
  rw [unsaved, left, List.append_nil]

theorem takes_getVariation (key : String) :
    Takes engine state config user options (engine.ask state config user options (.getVariation key))
      (engine.assignments state config user options (.getVariation key)) := by
  cases known : config.experimentsByKey[key]? with
  | none =>
      simp only [ask, assignments, decisions, getVariation, known, List.filterMap_nil]
      exact takes_nothing
  | some experiment =>
      obtain ⟨outcome, events, finish, staged, reasons, performed⟩ :=
        getVariation_staged engine state config user options known
      refine ⟨(experiment = ·), events, finish, ?_, ?_, ?_⟩
      · rintro _ _ _ rfl rfl _
        rfl
      · have course := Course.ofStaged (Eq.refl experiment) staged
        simp only [assignments, decisions, known, performed]
        exact course
      · simp only [ask, performed, Performed.map]

theorem takes_getVariationForFeature (key : String) :
    Takes engine state config user options
      (engine.ask state config user options (.getVariationForFeature key))
      (engine.assignments state config user options (.getVariationForFeature key)) := by
  cases known : config.flagsByKey[key]? with
  | none =>
      simp only [ask, assignments, decisions, getVariationForFeature, known, List.filterMap_nil]
      exact takes_nothing
  | some flag =>
      obtain ⟨decided, events, finish, layered, reasons, performed⟩ :=
        getVariationForFeature_layered engine state config user options known
      refine ⟨config.Offers, events, finish, fun indexed => indexed.unambiguous, ?_, ?_⟩
      · simp only [assignments, decisions, performed]
        exact layered.course
      · simp only [ask, performed, Performed.map]

theorem decidedFlags_of_runs {keys : List String} {answers : List Answer} {events : List Event}
    {finish : Progress σ}
    (run : ((engine.context state config user (engine.effectiveOptions options)).resolveKeys
      keys).Runs { bandit := state.bandit } answers events finish) :
    engine.decidedFlags state config user options keys = flagOutcomes answers := by
  rw [decidedFlags, run.1]

theorem takes_decide (key : String) :
    Takes engine state config user options (engine.ask state config user options (.decide key))
      (engine.assignments state config user options (.decide key)) := by
  let context := engine.context state config user (engine.effectiveOptions options)
  cases known : config.flagsByKey[key]? with
  | none =>
      have unknown : context.config.flagsByKey[key]? = none := known
      have undecided := decidedFlags_of_runs (resolveKeys_runs_cons
        (resolveKey_runs_of_unknown unknown _) (context.resolveKeys_nil_runs _))
      simp only [assignments, decisions, undecided, ask, Engine.decide, known]
      exact takes_nothing
  | some flag =>
      obtain ⟨decided, events, finish, layered, reasons, performed⟩ :=
        decide_layered engine state config user options known
      have decides := decidedFlags_of_runs (resolveKeys_runs_cons
        (resolveKey_runs_of_layered known layered) (context.resolveKeys_nil_runs finish))
      refine ⟨config.Offers, events, finish, fun indexed => indexed.unambiguous, ?_, ?_⟩
      · simp only [assignments, decisions, decides]
        exact layered.course
      · simp only [ask, performed, Performed.map]

theorem takes_decideForKeys (keys : List String) :
    Takes engine state config user options
      (engine.ask state config user options (.decideForKeys keys))
      (engine.assignments state config user options (.decideForKeys keys)) := by
  obtain ⟨answers, events, finish, run, answered⟩ := exists_answered
    (engine.context state config user (engine.effectiveOptions options)) keys
    { bandit := state.bandit }
  refine ⟨config.Offers, events, finish, fun indexed => indexed.unambiguous, ?_, ?_⟩
  · simp only [assignments, decisions, decidedFlags_of_runs run]
    exact answered.course
  · simp only [ask, Engine.decideForKeys]
    rw [perform_of_runs run]
    rfl

theorem ask_decideAll : engine.ask state config user options .decideAll =
    engine.ask state config user options (.decideForKeys (config.flags.map (·.key))) := rfl

theorem assignments_decideAll : engine.assignments state config user options .decideAll =
    engine.assignments state config user options (.decideForKeys (config.flags.map (·.key))) := rfl

/-- Every query takes a course. -/
theorem takes_ask (query : Query) :
    Takes engine state config user options (engine.ask state config user options query)
      (engine.assignments state config user options query) := by
  cases query with
  | getVariation key => exact takes_getVariation key
  | getVariationForFeature key => exact takes_getVariationForFeature key
  | decide key => exact takes_decide key
  | decideForKeys keys => exact takes_decideForKeys keys
  | decideAll =>
      rw [ask_decideAll, assignments_decideAll]
      exact takes_decideForKeys _

theorem staged_of_decidedFlags {keys : List String} {decided : FlagOutcome}
    {ruleType : RuleType} {experiment : Experiment}
    (member : decided ∈ engine.decidedFlags state config user options keys)
    (byRule : decided.rule = some (ruleType, experiment)) (computed : decided.outcome.IsComputed) :
    ∃ start events finish,
      Staged (engine.context state config user (engine.effectiveOptions options)) experiment start
        decided.outcome events finish := by
  obtain ⟨answers, events, finish, run, answered⟩ := exists_answered
    (engine.context state config user (engine.effectiveOptions options)) keys
    { bandit := state.bandit }
  rw [decidedFlags_of_runs run] at member
  obtain ⟨flag, _, _, _, layered⟩ := answered.layered_of_mem member
  exact layered.staged_of_computed byRule computed

/-- Whatever a query computes, it computes by the stages of an experiment. -/
theorem staged_of_decisions {query : Query} {decided : FlagOutcome} {ruleType : RuleType}
    {experiment : Experiment} (member : decided ∈ engine.decisions state config user options query)
    (byRule : decided.rule = some (ruleType, experiment)) (computed : decided.outcome.IsComputed) :
    ∃ start events finish,
      Staged (engine.context state config user (engine.effectiveOptions options)) experiment start
        decided.outcome events finish := by
  cases query with
  | getVariation key =>
      cases known : config.experimentsByKey[key]? with
      | none => simp [decisions, known] at member
      | some found =>
          obtain ⟨outcome, events, finish, staged, reasons, performed⟩ :=
            getVariation_staged engine state config user options known
          simp only [decisions, known, performed, List.mem_singleton] at member
          subst member
          cases byRule
          exact ⟨_, _, _, staged⟩
  | getVariationForFeature key =>
      cases known : config.flagsByKey[key]? with
      | none => simp [decisions, getVariationForFeature, known] at member
      | some flag =>
          obtain ⟨found, events, finish, layered, reasons, performed⟩ :=
            getVariationForFeature_layered engine state config user options known
          simp only [decisions, performed, List.mem_singleton] at member
          subst member
          exact layered.staged_of_computed byRule computed
  | decide key => exact staged_of_decidedFlags member byRule computed
  | decideForKeys keys => exact staged_of_decidedFlags member byRule computed
  | decideAll => exact staged_of_decidedFlags member byRule computed

end Engine
end FeatureFlags
