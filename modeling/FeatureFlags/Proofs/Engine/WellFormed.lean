import FeatureFlags.Proofs.Decision.LayerPrecedence
import FeatureFlags.Proofs.Decision.WellFormed
import FeatureFlags.Proofs.Engine.Queries

/-!
Whatever a call answers with is well formed: the decision on an experiment, the decision on a flag,
and the flag decisions that callers get, one by one or for several flags.
-/

namespace FeatureFlags
open Context (Answer)

namespace FlagDecision

/-- What the caller gets of what a flag decides. -/
structure Shows (decision : FlagDecision) (decided : FlagOutcome) : Prop where
  variationKey : decision.variationKey = decided.outcome.variation?.map (·.key)
  enabled : decision.enabled = decided.outcome.isEnabled
  ruleKey : decision.ruleKey = decided.rule.map (·.2.key)
  stage : decision.stage = decided.outcome.stage?
  correlationId : decision.correlationId = decided.outcome.correlationId?
  error : decision.error = decided.isError

/-- A flag decision enables nothing without a variation, and a failed one comes with reasons and
nothing else. Any other one shows what its flag decides, and is reported if the project wants all
decisions or a variation is served by anything but a rollout rule. -/
structure WellFormed (decision : FlagDecision) (config : Config) (answers : List Answer) :
    Prop where
  enabled : decision.enabled = true → decision.variationKey.isSome ∧ decision.error = false
  failed : decision.error = true →
    decision.enabled = false ∧ decision.variableValues = ∅ ∧ decision.reportImpression = false ∧
      decision.reasons ≠ []
  reported : decision.error = false → ∃ flag decided reasons,
    (decision.flagKey, some (flag, decided, reasons)) ∈ answers ∧ decision.Shows decided ∧
      decided.WellFormed config flag ∧
      (decision.reportImpression = true ↔ config.sendFlagDecisions = true ∨
        decided.outcome.variation?.isSome ∧ decided.rule.map (·.1) ≠ some .rollout)

theorem unknownFlag_wellFormed (flagKey : String) (user : User) (config : Config)
    (answers : List Answer) : (unknownFlag flagKey user).WellFormed config answers where
  enabled := nofun
  failed _ := ⟨rfl, rfl, rfl, Reason.report_ne_nil rfl false⟩
  reported := nofun

end FlagDecision

theorem Outcome.isEnabled_of_isError {outcome : Outcome} (failed : outcome.isError = true) :
    outcome.isEnabled = false := by
  cases outcome with
  | failed _ => rfl
  | _ => cases failed

theorem Outcome.variation?_isSome_of_isEnabled {outcome : Outcome}
    (enabled : outcome.isEnabled = true) : outcome.variation?.isSome := by
  cases outcome with
  | served _ _ => rfl
  | _ => cases enabled

namespace Context
variable {σ : Type} {context : Context σ}

/-- What a flag is found to decide: it is well formed, and a failure has an error among its reasons. -/
structure Sound (context : Context σ) (key : String) (flag : Flag) (decided : FlagOutcome)
    (reasons : List Reason) : Prop where
  known : context.config.flagsByKey[key]? = some flag
  wellFormed : decided.WellFormed context.config flag
  explained : decided.isError = true → Reason.hasErrors reasons = true

theorem sound_resolveFlag {key : String} {flag : Flag}
    (known : context.config.flagsByKey[key]? = some flag) (offers : OffersForced context flag)
    (start : Progress σ) :
    Sound context key flag (context.resolveFlag flag start).value.1
      (context.resolveFlag flag start).reasons := by
  obtain ⟨decided, events, finish, layered⟩ := exists_layered context flag start
  have reached : (context.resolveFlag flag start).value.1 = decided :=
    congrArg Prod.fst layered.runs.1
  exact ⟨known, reached ▸ layered.wellFormed offers, context.explains_resolveFlag flag start⟩

/-- Each known flag among the answers was resolved from some progress. -/
theorem sound_of_mem_resolveKeys
    (offers : ∀ (key : String) (flag : Flag), context.config.flagsByKey[key]? = some flag →
      OffersForced context flag)
    {keys : List String} {start : Progress σ} {key : String} {flag : Flag} {decided : FlagOutcome}
    {reasons : List Reason}
    (member : (key, some (flag, decided, reasons)) ∈ (context.resolveKeys keys start).value.1) :
    Sound context key flag decided reasons := by
  induction keys generalizing start with
  | nil => cases member
  | cons first rest ih =>
      rcases List.mem_cons.mp member with here | later
      · cases known : context.config.flagsByKey[first]? with
        | none =>
            simp only [resolveKey, known] at here
            cases here
        | some found =>
            simp only [resolveKey, known] at here
            cases here
            exact sound_resolveFlag known (offers _ _ known) start
      · exact ih later

end Context

namespace FlagDecision

theorem ofOutcome_wellFormed {σ : Type} {context : Context σ} {key : String} {flag : Flag}
    {decided : FlagOutcome} {reasons : List Reason} (sound : context.Sound key flag decided reasons)
    (own : flag.key = key) {answers : List Answer}
    (member : (key, some (flag, decided, reasons)) ∈ answers) (saveReasons : List Reason)
    (user : User) (options : DecideOptions) :
    (ofOutcome flag decided (reasons ++ saveReasons) user context.config options).WellFormed
      context.config answers where
  enabled enabled := by
    refine ⟨?_, Bool.eq_false_iff.mpr fun failed => ?_⟩
    · exact Option.isSome_map.trans (Outcome.variation?_isSome_of_isEnabled enabled)
    · exact absurd enabled (Bool.eq_false_iff.mp (Outcome.isEnabled_of_isError failed))
  failed failed := by
    have isError : decided.outcome.isError = true := failed
    refine ⟨Outcome.isEnabled_of_isError isError, ?_, ?_, Reason.report_ne_nil ?_ _⟩
    · simp [ofOutcome, resolveVariables, isError]
    · simp [ofOutcome, isReported, isError]
    · simp only [Reason.hasErrors_append, sound.explained failed, Bool.true_or]
  reported unfailed := by
    have noError : decided.outcome.isError = false := unfailed
    refine ⟨flag, decided, reasons, ?_, ⟨rfl, rfl, rfl, rfl, rfl, rfl⟩, sound.wellFormed, ?_⟩
    · simpa only [ofOutcome, own] using member
    · simp [ofOutcome, isReported, noError]

end FlagDecision

namespace Engine
open Context
variable {σ : Type} (engine : Engine σ) (state : EngineState σ) (config : Config) (user : User)
  (options : DecideOptions)

/-- The answers from which flag decisions are made. -/
def answers (keys : List String) : List Answer :=
  let context := engine.context state config user (engine.effectiveOptions options)
  (context.resolveKeys keys { bandit := state.bandit }).value.1

/-- Whether a query answers with a flag decision, which is made from these answers. -/
inductive Gives : Query → List Answer → FlagDecision → Prop
  | decide (key : String) :
      Gives (.decide key) (engine.answers state config user options [key])
        (engine.decide state config user options key).value
  | decideForKeys {keys : List String} {key : String} {decision : FlagDecision}
      (listed : (engine.decideForKeys state config user options keys).value[key]? = some decision) :
      Gives (.decideForKeys keys) (engine.answers state config user options keys) decision
  | decideAll {key : String} {decision : FlagDecision}
      (listed : (engine.decideAll state config user options).value[key]? = some decision) :
      Gives .decideAll
        (engine.answers state config user options (config.flags.map (·.key))) decision

variable {engine state config user options}

theorem mem_answers_of_decideForKeys {keys : List String} {key : String} {decision : FlagDecision}
    (listed : (engine.decideForKeys state config user options keys).value[key]? = some decision) :
    ∃ saveReasons, ∃ answer ∈ engine.answers state config user options keys, decision =
      keyedDecision config user (engine.effectiveOptions options) saveReasons answer := by
  have member := (List.mem_filter.mp (Dict.getElem?_index listed).1).1
  obtain ⟨answer, answered, rfl⟩ := List.mem_map.mp member
  exact ⟨_, answer, answered, rfl⟩

theorem mem_answers_of_decide (key : String) :
    ∃ saveReasons, ∃ answer ∈ engine.answers state config user options [key],
      (engine.decide state config user options key).value =
        keyedDecision config user (engine.effectiveOptions options) saveReasons answer := by
  let context := engine.context state config user (engine.effectiveOptions options)
  cases known : config.flagsByKey[key]? with
  | none =>
      refine ⟨[], (key, none), ?_, ?_⟩
      · have unknown : context.config.flagsByKey[key]? = none := known
        rw [answers, (resolveKeys_runs_cons (resolveKey_runs_of_unknown unknown _)
          (context.resolveKeys_nil_runs _)).1]
        exact List.mem_singleton.mpr rfl
      · simp only [Engine.decide, known, keyedDecision]
  | some flag =>
      obtain ⟨decided, events, finish, layered⟩ :=
        exists_layered context flag { bandit := state.bandit }
      let reasons := (context.resolveFlag flag { bandit := state.bandit }).reasons
      refine ⟨(saveProfile context finish.tracker state.profiles).reasons,
        (key, some (flag, decided, reasons)), ?_, ?_⟩
      · rw [answers, (resolveKeys_runs_cons (resolveKey_runs_of_layered known layered)
          (context.resolveKeys_nil_runs finish)).1]
        exact List.mem_singleton.mpr rfl
      · simp only [Engine.decide, known, keyedDecision]
        rw [perform_of_runs layered.runs]
        rfl

theorem mem_answers_of_gives {query : Query} {answers : List Answer} {decision : FlagDecision}
    (gives : Gives engine state config user options query answers decision) :
    (∃ keys, answers = engine.answers state config user options keys) ∧
      ∃ saveReasons, ∃ answer ∈ answers, decision =
        keyedDecision config user (engine.effectiveOptions options) saveReasons answer := by
  cases gives with
  | decide key => exact ⟨⟨_, rfl⟩, mem_answers_of_decide key⟩
  | decideForKeys listed | decideAll listed =>
      exact ⟨⟨_, rfl⟩, mem_answers_of_decideForKeys listed⟩

theorem offersForced_ofDatafile {datafile : Datafile} {context : Context σ}
    (made : context.config = .ofDatafile datafile) {key : String} {flag : Flag}
    (known : context.config.flagsByKey[key]? = some flag) : OffersForced context flag := by
  rw [made] at known
  intro variationKey variation found
  rw [made] at found ⊢
  exact Config.canServe_of_flagVariationByKey? known found

theorem getVariation_wellFormed {key : String} {decision : VariationDecision}
    (decides : (engine.getVariation state config user options key).value = .ok decision) :
    ∃ experiment, config.experimentsByKey[key]? = some experiment ∧
      decision.WellFormed experiment := by
  cases known : config.experimentsByKey[key]? with
  | none =>
      simp only [getVariation, known] at decides
      cases decides
  | some experiment =>
      simp only [getVariation, known] at decides
      cases decides
      exact ⟨experiment, rfl, wellFormed_resolveExperiment _ _ _ _⟩

section Datafile
variable {datafile : Datafile}

theorem getVariationForFeature_wellFormed {key : String} {decision : FeatureDecision}
    (decides : (engine.getVariationForFeature state (.ofDatafile datafile) user options key).value =
      .ok decision) :
    ∃ flag, (Config.ofDatafile datafile).flagsByKey[key]? = some flag ∧
      decision.decided.WellFormed (.ofDatafile datafile) flag := by
  cases known : (Config.ofDatafile datafile).flagsByKey[key]? with
  | none =>
      simp only [getVariationForFeature, known] at decides
      cases decides
  | some flag =>
      simp only [getVariationForFeature, known] at decides
      cases decides
      let context :=
        engine.context state (.ofDatafile datafile) user (engine.effectiveOptions options)
      have offers : OffersForced context flag := offersForced_ofDatafile rfl known
      exact ⟨flag, rfl, (sound_resolveFlag known offers { bandit := state.bandit }).wellFormed⟩

theorem gives_wellFormed {query : Query} {answers : List Answer} {decision : FlagDecision}
    (gives : Gives engine state (.ofDatafile datafile) user options query answers decision) :
    decision.WellFormed (.ofDatafile datafile) answers := by
  obtain ⟨⟨keys, rfl⟩, saveReasons, ⟨key, found⟩, member, rfl⟩ := mem_answers_of_gives gives
  cases found with
  | none => exact FlagDecision.unknownFlag_wellFormed key user _ _
  | some found =>
      obtain ⟨flag, decided, reasons⟩ := found
      let context :=
        engine.context state (.ofDatafile datafile) user (engine.effectiveOptions options)
      have sound : Sound context key flag decided reasons :=
        sound_of_mem_resolveKeys (fun _ _ => offersForced_ofDatafile rfl) member
      have own : flag.key = key := (Config.wellIndexed_ofDatafile datafile).flag_key sound.known
      exact FlagDecision.ofOutcome_wellFormed sound own member saveReasons user _

end Datafile

/-- Every decision is well formed, whatever the project, the user and the options, and whatever
state the services are in. -/
theorem decisions_wellFormed (engine : Engine σ) (state : EngineState σ) (datafile : Datafile)
    (user : User) (options : DecideOptions) :
    let config := Config.ofDatafile datafile
    (∀ key decision, (engine.getVariation state config user options key).value = .ok decision →
      ∃ experiment, config.experimentsByKey[key]? = some experiment ∧
        decision.WellFormed experiment) ∧
    (∀ key decision,
      (engine.getVariationForFeature state config user options key).value = .ok decision →
        ∃ flag, config.flagsByKey[key]? = some flag ∧
          decision.decided.WellFormed config flag) ∧
    ∀ query answers decision, Gives engine state config user options query answers decision →
      decision.WellFormed config answers :=
  ⟨fun _ _ => getVariation_wellFormed, fun _ _ => getVariationForFeature_wellFormed,
    fun _ _ _ => gives_wellFormed⟩

namespace Sample

def greeting : Flag := { id := "30", key := "banner", rolloutId := "", experimentIds := ["20"] }

def greeted : Datafile := { experiments := [everyone], flags := [greeting] }

/-- A flag that is left to a bandit, and a bandit that gives no usable answer. -/
def wagered : Datafile :=
  { experiments := [{ everyone with bandit := some { trafficAllocation := 10000 } }]
    flags := [greeting] }

def failing : Engine Unit := { first with bandit := some (.constant (.error .invalidResponse)) }

end Sample

/-- An experiment serves a variation of its own, a user forces one that the flag can serve, and a
bandit fails. -/
theorem decisions_wellFormed_of_each_kind :
    let config := Config.ofDatafile Sample.greeted
    let asked (user : User) :=
      (Sample.first.getVariationForFeature Sample.empty config user ∅ "banner").value
    let forcing := ({ id := "user" } : User).force { flagKey := "banner" } "on"
    let failed := (Sample.failing.decide Sample.empty (.ofDatafile Sample.wagered)
      { id := "user" } ∅ "banner").value
    (∃ decision rule, asked { id := "user" } = .ok decision ∧
      decision.decided.outcome = .served Sample.on .experiment ∧
      decision.decided.rule.map (·.1) = some .experiment ∧
      decision.decided.rule.map (·.2) = some rule ∧ Sample.on ∈ rule.variations) ∧
    (∃ decision, asked forcing = .ok decision ∧
      decision.decided.outcome = .served Sample.on .forced ∧
      config.CanServe Sample.greeting Sample.on) ∧
    failed.error = true ∧ failed.enabled = false ∧ failed.variableValues = ∅ ∧
      failed.reportImpression = false ∧ failed.reasons ≠ [] := by
  intro config asked forcing failed
  refine ⟨?_, ?_, ?_⟩
  · obtain ⟨_, features, _⟩ :=
      decisions_wellFormed Sample.first Sample.empty Sample.greeted { id := "user" } ∅
    obtain ⟨_, known, wellFormed⟩ := features "banner" _ rfl
    obtain ⟨rule, decides, own⟩ := wellFormed.own Sample.on rfl nofun
    exact ⟨_, rule, rfl, rfl, wellFormed.staged .experiment .experiment rfl rfl, decides, own⟩
  · obtain ⟨_, features, _⟩ :=
      decisions_wellFormed Sample.first Sample.empty Sample.greeted forcing ∅
    obtain ⟨_, known, wellFormed⟩ := features "banner" _ rfl
    cases known
    exact ⟨_, rfl, rfl, wellFormed.forced Sample.on rfl rfl⟩
  · have error : failed.error = true := by rfl
    obtain ⟨_, _, wellFormed⟩ := decisions_wellFormed Sample.failing Sample.empty Sample.wagered
      { id := "user" } ∅
    exact ⟨error, (wellFormed _ _ _ (.decide "banner")).failed error⟩

end Engine
end FeatureFlags
