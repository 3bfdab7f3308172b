import Mathlib.Data.List.Basic
import FeatureFlags.Proofs.Decision.RolloutWalk

/-!
What a rollout looks at: the rules on the way from the first one on, each of them once, and nothing
else.
-/

namespace FeatureFlags
namespace Context
variable {σ : Type}

section Looks
variable (context : Context σ) (flag : Flag) (rules : List Experiment)

/-- The name of a rule in notes: its place, unless it is the last one. -/
def ruleName (position : Nat) : String :=
  if position + 1 = rules.length then everyoneElse else toString (position + 1)

/-- The note on a rule that has no traffic for the user. -/
def missNote (position : Nat) : String :=
  if position + 1 = rules.length then
    let place := s!"is not in the traffic group for \"{everyoneElse}\" rule."
    s!"User \"{context.user.id}\" {place}"
  else
    let place := s!"is not in the traffic group for targeting rule \"{ruleName rules position}\"."
    let consequence := s!"Checking \"{everyoneElse}\" rule now."
    s!"User \"{context.user.id}\" {place} {consequence}"

/-- A look at the rule at a position. -/
def lookAt (position : Nat) : Traced Verdict :=
  match rules[position]? with
  | none => return .passed
  | some rule => do
    let verdict ← context.examineRule flag rule (ruleName rules position)
      context.user.bucketingId.value
    if verdict matches .missed then Traced.info (context.missNote rules position)
    return verdict

/-- A computation that looks at the rules at some positions, in this order, and at no others. -/
structure Follows (walked : Traced (Option FlagOutcome)) (position : Nat) (path : List Nat) :
    Prop where
  walk : context.Walk flag rules position path walked.value
  reasons : walked.reasons = path.flatMap fun i => (context.lookAt flag rules i).reasons
  events : walked.events = path.flatMap fun i => (context.lookAt flag rules i).events

variable {context flag rules}

theorem follows_examineLastRule {i : Nat} {rule : Experiment} (here : rules[i]? = some rule)
    (last : i + 1 = rules.length) :
    context.Follows flag rules
      (context.examineLastRule flag rule context.user.bucketingId.value) i [i] := by
  have named : ruleName rules i = everyoneElse := if_pos last
  have judged : context.JudgesAt flag rules i _ :=
    ⟨rule, here, context.judges_examineRule flag rule everyoneElse⟩
  cases verdict : (context.examineRule flag rule everyoneElse
      context.user.bucketingId.value).value with
  | decided decided =>
      rw [verdict] at judged
      constructor
      · simpa [examineLastRule, verdict] using Walk.decides judged
      all_goals simp [examineLastRule, verdict, lookAt, here, named]
  | passed =>
      rw [verdict] at judged
      constructor
      · simpa [examineLastRule, verdict] using Walk.passes judged (.ended (by omega))
      all_goals simp [examineLastRule, verdict, lookAt, here, named]
  | missed =>
      rw [verdict] at judged
      constructor
      · simpa [examineLastRule, verdict] using Walk.missesLast judged last
      all_goals simp [examineLastRule, verdict, lookAt, here, named, missNote, last]

theorem exists_follows_walkRules {rest : List Experiment} {i : Nat} (ahead : rules.drop i = rest) :
    ∃ path, context.Follows flag rules
      (context.walkRules flag context.user.bucketingId.value i rest) i path := by
  -- Induction on the rules ahead. Only a rule that is passed leads to those that follow it.
  induction rest generalizing i with
  | nil => exact ⟨[], .ended (List.drop_eq_nil_iff.mp ahead), rfl, rfl⟩
  | cons rule rest ih =>
      have here : rules[i]? = some rule := by rw [← List.head?_drop, ahead, List.head?_cons]
      have later : rules.drop (i + 1) = rest := by rw [← List.tail_drop, ahead, List.tail_cons]
      have length := congrArg List.length later
      rw [List.length_drop] at length
      have inside := (List.getElem?_eq_some_iff.mp here).1
      cases rest with
      | nil => exact ⟨[i], follows_examineLastRule here (by simp at length; omega)⟩
      | cons next rest =>
          have more : i + 1 < rules.length := by simp at length; omega
          have notLast : i + 1 ≠ rules.length := by omega
          have named : ruleName rules i = toString (i + 1) := if_neg notLast
          have judged : context.JudgesAt flag rules i _ :=
            ⟨rule, here, context.judges_examineRule flag rule (ruleName rules i)⟩
          simp only [walkRules, ← named]
          cases verdict : (context.examineRule flag rule (ruleName rules i)
              context.user.bucketingId.value).value with
          | decided decided =>
              rw [verdict] at judged
              refine ⟨[i], ?_, ?_, ?_⟩
              · simpa [verdict] using Walk.decides judged
              all_goals simp [verdict, lookAt, here]
          | passed =>
              rw [verdict] at judged
              obtain ⟨path, walk, reasons, events⟩ := ih later
              refine ⟨i :: path, ?_, ?_, ?_⟩
              · simpa [verdict] using Walk.passes judged walk
              · simp [verdict, lookAt, here, reasons]
              · simp [verdict, lookAt, here, events]
          | missed =>
              rw [verdict] at judged
              have last : rules[rules.length - 1]? =
                  some ((next :: rest).getLast (List.cons_ne_nil _ _)) := by
                rw [← List.getLast?_eq_getElem?, ← List.getLast?_eq_some_getLast, ← later,
                  List.getLast?_drop, if_neg (by omega)]
              have followed : context.Follows flag rules _ _ _ :=
                follows_examineLastRule last (by omega)
              obtain ⟨walk, reasons, events⟩ := followed
              refine ⟨[i, rules.length - 1], ?_, ?_, ?_⟩
              · simpa [verdict] using Walk.misses judged more walk
              · simp [verdict, lookAt, here, missNote, notLast, reasons]
              · simp [verdict, lookAt, here, events]

theorem events_lookAt (i : Nat) :
    (context.lookAt flag rules i).events =
      if context.bucketsAt flag rules i then
        (rules[i]?).elim [] fun rule => (context.hashed rule).events
      else [] := by
  cases here : rules[i]? with
  | none => simp [lookAt, bucketsAt, here]
  | some rule =>
      simp only [lookAt, bucketsAt, here, Traced.events_bind, events_examineRule, Option.any_some,
        Option.elim_some]
      split <;> split <;> simp

/-- The events of looking at some rules are the hashes of those that bucket the user. -/
theorem events_lookAt_flatMap (path : List Nat) :
    (path.flatMap fun i => (context.lookAt flag rules i).events) =
      (path.filter (context.bucketsAt flag rules)).flatMap fun i =>
        (rules[i]?).elim [] fun rule => (context.hashed rule).events := by
  induction path with
  | nil => rfl
  | cons i path ih =>
      rw [List.flatMap_cons, ih, events_lookAt]
      by_cases buckets : context.bucketsAt flag rules i = true
      · rw [if_pos buckets, List.filter_cons_of_pos buckets, List.flatMap_cons]
      · rw [if_neg buckets, List.filter_cons_of_neg buckets, List.nil_append]

end Looks

/-- The rules of the rollout of a flag. There are none if the rollout does not exist. -/
def rolloutRules (context : Context σ) (flag : Flag) : List Experiment :=
  (context.config.rolloutsById[flag.rolloutId]?).elim [] (·.rules)

/-- The notes before the first rule is looked at. -/
def openingReasons (context : Context σ) (flag : Flag) : List Reason :=
  match context.rolloutRules flag with
  | [] =>
    [{ severity := .info
       message := s!"The feature flag \"{flag.key}\" is not used in a rollout." }]
  | _ => context.user.bucketingId.reasons

theorem resolveRollout_of_nil {context : Context σ} {flag : Flag}
    (empty : context.rolloutRules flag = []) :
    context.resolveRollout flag =
      Traced.info s!"The feature flag \"{flag.key}\" is not used in a rollout." >>=
        fun _ => return none := by
  simp only [rolloutRules] at empty
  simp only [resolveRollout, empty]

theorem resolveRollout_of_ne {context : Context σ} {flag : Flag}
    (inhabited : context.rolloutRules flag ≠ []) :
    context.resolveRollout flag =
      context.user.bucketingId >>= fun bucketingId =>
        context.walkRules flag bucketingId 0 (context.rolloutRules flag) := by
  simp only [resolveRollout]
  split
  · rename_i empty
    exact absurd empty inhabited
  · rfl

/-- A rollout looks at the rules on the way from the first one on, and at nothing else. -/
theorem exists_walk (context : Context σ) (flag : Flag) :
    ∃ path,
      context.Walk flag (context.rolloutRules flag) 0 path (context.resolveRollout flag).value ∧
      (context.resolveRollout flag).reasons = context.openingReasons flag ++
        path.flatMap (fun i => (context.lookAt flag (context.rolloutRules flag) i).reasons) ∧
      (context.resolveRollout flag).events =
        path.flatMap fun i => (context.lookAt flag (context.rolloutRules flag) i).events := by
  have followed : ∃ path, context.Follows flag (context.rolloutRules flag)
      (context.walkRules flag context.user.bucketingId.value 0 (context.rolloutRules flag))
      0 path := exists_follows_walkRules List.drop_zero
  obtain ⟨path, walk, reasons, events⟩ := followed
  refine ⟨path, ?_⟩
  cases listed : context.rolloutRules flag with
  | nil =>
      rw [listed] at walk reasons events
      rw [resolveRollout_of_nil listed]
      refine ⟨walk, ?_, events⟩
      rw [← reasons]
      simp [openingReasons, listed, walkRules, NoteKind.severity]
  | cons rule rest =>
      rw [listed] at walk reasons events
      rw [resolveRollout_of_ne (by simp [listed]), listed]
      refine ⟨walk, ?_, ?_⟩
      · rw [Traced.reasons_bind, reasons, openingReasons, listed]
      · rw [Traced.events_bind, User.events_bucketingId, List.nil_append, events]

section Indifference
variable {context : Context σ} {flag : Flag} {rollouts : Dict Rollout}
  {rules rules' : List Experiment}

theorem lookAt_withRollouts {i : Nat} (length : rules'.length = rules.length)
    (same : rules'[i]? = rules[i]?) :
    (context.withRollouts rollouts).lookAt flag rules' i = context.lookAt flag rules i := by
  have named : ruleName rules' i = ruleName rules i := by simp only [ruleName, length]
  have noted : context.missNote rules' i = context.missNote rules i := by
    simp only [missNote, named, length]
  rw [lookAt, lookAt, same, named, ← noted]
  rfl

theorem openingReasons_withRollouts
    (length : ((context.withRollouts rollouts).rolloutRules flag).length =
      (context.rolloutRules flag).length) :
    (context.withRollouts rollouts).openingReasons flag = context.openingReasons flag := by
  simp only [openingReasons]
  cases listed : context.rolloutRules flag with
  | nil =>
      rw [listed, List.length_nil, List.length_eq_zero_iff] at length
      simp only [length]
  | cons rule rest =>
      rw [listed, List.length_cons] at length
      have inhabited := List.ne_nil_of_length_eq_add_one length
      split
      · rename_i empty
        exact absurd empty inhabited
      · rfl

/-- Rules that are not reached have no part in a rollout. -/
theorem resolveRollout_withRollouts
    (length : ((context.withRollouts rollouts).rolloutRules flag).length =
      (context.rolloutRules flag).length)
    (same : ∀ i, context.Reached flag (context.rolloutRules flag) i →
      ((context.withRollouts rollouts).rolloutRules flag)[i]? = (context.rolloutRules flag)[i]?) :
    (context.withRollouts rollouts).resolveRollout flag = context.resolveRollout flag := by
  obtain ⟨path, walk, reasons, events⟩ := exists_walk context flag
  obtain ⟨path', walk', reasons', events'⟩ := exists_walk (context.withRollouts rollouts) flag
  have alongPath := fun i visited => same i ((walk.mem_iff_reached i).mp visited)
  -- The way through these rules is also one through the others, and there is only one.
  obtain ⟨rfl, value⟩ := walk'.unique (walk.congr length fun i visited _ judged =>
    judged.withRollouts (alongPath i visited))
  have looks : ∀ i ∈ path', (context.withRollouts rollouts).lookAt flag
      ((context.withRollouts rollouts).rolloutRules flag) i =
        context.lookAt flag (context.rolloutRules flag) i :=
    fun i visited => lookAt_withRollouts length (alongPath i visited)
  ext1
  · exact value
  · rw [reasons', reasons, openingReasons_withRollouts length]
    exact congrArg _ (List.flatMap_congr fun i visited => by rw [looks i visited])
  · rw [events', events]
    exact List.flatMap_congr fun i visited => by rw [looks i visited]

end Indifference

/-- A rollout looks at the rules that are reached, each of them once and in order, and decides at
the one that decides. It buckets the user in two rules at most, the second of which is the last one.
After a miss there is nothing to look at but the last rule, and nothing if that is the one that is
missed. Without rules nothing is decided or hashed, and other rules than those that are reached
could be exchanged for any rules. -/
theorem rollout_looks_at_reached_rules (context : Context σ) (flag : Flag) :
    let rules := context.rolloutRules flag
    let rollout := context.resolveRollout flag
    ∃ path : List Nat,
      path.Pairwise (· < ·) ∧
      (∀ i, i ∈ path ↔ context.Reached flag rules i) ∧
      (∀ i decided, path.getLast? = some i ∧ rollout.value = some decided ↔
        context.Reached flag rules i ∧ context.JudgesAt flag rules i (.decided decided)) ∧
      rollout.reasons = context.openingReasons flag ++
        path.flatMap (fun i => (context.lookAt flag rules i).reasons) ∧
      rollout.events = (path.filter (context.bucketsAt flag rules)).flatMap (fun i =>
        (rules[i]?).elim [] fun rule => (context.hashed rule).events) ∧
      (path.filter (context.bucketsAt flag rules)).length ≤ 2 ∧
      (∀ first second, path.filter (context.bucketsAt flag rules) = [first, second] →
        second + 1 = rules.length) ∧
      (∀ i, context.Reached flag rules i → context.JudgesAt flag rules i .missed →
        (i + 1 = rules.length → rollout.value = none) ∧
          (i + 1 < rules.length → context.Reached flag rules (rules.length - 1) ∧
            ∀ later, i < later → later + 1 < rules.length →
              ¬ context.Reached flag rules later)) ∧
      (rules = [] → rollout.value = none ∧ rollout.events = []) ∧
      ∀ rollouts : Dict Rollout,
        let rules' := (context.withRollouts rollouts).rolloutRules flag
        rules'.length = rules.length →
          (∀ i, context.Reached flag rules i → rules'[i]? = rules[i]?) →
          (context.withRollouts rollouts).resolveRollout flag = rollout := by
  intro rules rollout
  obtain ⟨path, walk, reasons, events⟩ := exists_walk context flag
  have reached := walk.mem_iff_reached
  refine ⟨path, walk.increasing, reached, ?_, reasons,
    events.trans (events_lookAt_flatMap path), walk.bucketed.1,
    walk.bucketed.2, ?_, ?_, fun _ => resolveRollout_withRollouts⟩
  · intro i decided
    rw [← reached]
    exact walk.decides_iff i decided
  · intro i visited missed
    refine (walk.miss ((reached i).mpr visited) missed).imp_right fun after more => ?_
    obtain ⟨last, only⟩ := after more
    refine ⟨(reached _).mp last, fun later beyond before visited => ?_⟩
    have : later = rules.length - 1 := only later ((reached later).mpr visited) beyond
    omega
  · intro empty
    rw [show rollout = _ from resolveRollout_of_nil empty]
    exact ⟨rfl, rfl⟩

namespace Sample

def served : Variation := { id := "1", key := "on" }

def targeted (id key : String) (traffic : Nat) : Experiment :=
  { id, key, status := .running, variations := [served]
    trafficAllocation := [{ entityId := "1", endOfRange := traffic }] }

def staggered : Flag := { id := "30", key := "banner", rolloutId := "40" }

/-- The first rule has no traffic, and for the second one the user forces a decision. -/
def staggering : Context Unit :=
  { sharder := fun _ => 0, bandit := none, overrides := {}, profiles := none, options := ∅
    user := User.force { id := "user" } { flagKey := "banner", ruleKey := some "testers" } "on"
    config := .ofDatafile
      { flags := [staggered]
        rollouts := [{ id := "40", rules := [targeted "1" "few" 0, targeted "2" "testers" 10000,
          targeted "3" "everyone" 10000] }] } }

end Sample

theorem rollout_skips_forced_rule :
    let rules := Sample.staggering.rolloutRules Sample.staggered
    let rollout := Sample.staggering.resolveRollout Sample.staggered
    Sample.staggering.JudgesAt Sample.staggered rules 0 .missed ∧
      Sample.staggering.forcedOnRule? Sample.staggered (Sample.targeted "2" "testers" 10000) =
        some Sample.served ∧
      Sample.staggering.Reached Sample.staggered rules 2 ∧
      ¬ Sample.staggering.Reached Sample.staggered rules 1 ∧
      rollout.events = [.hashed "user1", .hashed "user3"] := by
  intro rules rollout
  have missed : Sample.staggering.JudgesAt Sample.staggered rules 0 .missed :=
    ⟨Sample.targeted "1" "few" 0, rfl, .missed rfl rfl rfl⟩
  obtain ⟨_, _, _, _, _, _, _, _, miss, _⟩ :=
    rollout_looks_at_reached_rules Sample.staggering Sample.staggered
  obtain ⟨last, skipped⟩ := (miss 0 (.first (List.cons_ne_nil _ _)) missed).2 (by decide)
  exact ⟨missed, by rfl, last, skipped 1 (by decide) (by decide), by rfl⟩

end Context
end FeatureFlags
