import FeatureFlags.Proofs.Decision.Verdicts

/-!
The way through a rollout. It starts at the first rule; a rule that is passed leads to the next one
and a rule that is missed to the last one. So the positions only grow, and a user who is bucketed a
second time is bucketed in the last rule.
-/

namespace FeatureFlags
namespace Context
variable {σ : Type} (context : Context σ) (flag : Flag) (rules : List Experiment)

/-- What the rule at a position comes to. -/
def JudgesAt (position : Nat) (verdict : Verdict) : Prop :=
  ∃ rule, rules[position]? = some rule ∧ context.Judges flag rule verdict

/-- Whether the user is bucketed in the rule at a position, with success or not. -/
def bucketsAt (position : Nat) : Bool := rules[position]?.any (context.bucketsIn flag)

/-- The positions of the rules that are looked at. -/
inductive Reached : Nat → Prop
  | first (inhabited : rules ≠ []) : Reached 0
  | next {i : Nat} (reached : Reached i) (passed : context.JudgesAt flag rules i .passed)
      (more : i + 1 < rules.length) : Reached (i + 1)
  | last {i : Nat} (reached : Reached i) (missed : context.JudgesAt flag rules i .missed)
      (more : i + 1 < rules.length) : Reached (rules.length - 1)

/-- The way from a position on: the positions that are looked at, and what is decided in the end. -/
inductive Walk : Nat → List Nat → Option FlagOutcome → Prop
  | ended {i : Nat} (beyond : rules.length ≤ i) : Walk i [] none
  | decides {i : Nat} {decided : FlagOutcome}
      (decides : context.JudgesAt flag rules i (.decided decided)) : Walk i [i] (some decided)
  | passes {i : Nat} {path : List Nat} {decided? : Option FlagOutcome}
      (passed : context.JudgesAt flag rules i .passed) (rest : Walk (i + 1) path decided?) :
      Walk i (i :: path) decided?
  | misses {i : Nat} {path : List Nat} {decided? : Option FlagOutcome}
      (missed : context.JudgesAt flag rules i .missed) (more : i + 1 < rules.length)
      (rest : Walk (rules.length - 1) path decided?) : Walk i (i :: path) decided?
  | missesLast {i : Nat} (missed : context.JudgesAt flag rules i .missed)
      (last : i + 1 = rules.length) : Walk i [i] none

variable {context flag rules}

theorem JudgesAt.inside {i : Nat} {verdict : Verdict}
    (judged : context.JudgesAt flag rules i verdict) : i < rules.length := by
  obtain ⟨_, here, _⟩ := judged
  exact (List.getElem?_eq_some_iff.mp here).1

theorem JudgesAt.unique {i : Nat} {verdict verdict' : Verdict}
    (first : context.JudgesAt flag rules i verdict)
    (second : context.JudgesAt flag rules i verdict') : verdict = verdict' := by
  obtain ⟨rule, here, judged⟩ := first
  obtain ⟨rule', here', judged'⟩ := second
  cases here.symm.trans here'
  exact judged.unique judged'

theorem JudgesAt.not_bucketed {i : Nat} (passed : context.JudgesAt flag rules i .passed) :
    ¬ context.bucketsAt flag rules i = true := by
  obtain ⟨rule, here, passed⟩ := passed
  simp [bucketsAt, here, passed.bucketsIn_eq_false]

variable {path : List Nat} {decided? : Option FlagOutcome} {start : Nat}

namespace Walk

theorem bounds (walk : context.Walk flag rules start path decided?) :
    ∀ i ∈ path, start ≤ i ∧ i < rules.length := by
  induction walk with
  | ended => simp
  | decides judged | missesLast judged => simpa using judged.inside
  | passes judged _ ih | misses judged _ _ ih =>
      have inside := judged.inside
      intro i visited
      obtain rfl | later := List.mem_cons.mp visited
      · exact ⟨Nat.le_refl _, inside⟩
      · have := ih i later
        omega

theorem increasing (walk : context.Walk flag rules start path decided?) :
    path.Pairwise (· < ·) := by
  induction walk with
  | ended => exact .nil
  | decides | missesLast => exact List.pairwise_singleton _ _
  | passes _ rest ih | misses _ _ rest ih =>
      refine ih.cons fun later visited => ?_
      have := (rest.bounds later visited).1
      omega

/-- A way that starts within the rollout looks at its start first. -/
theorem head (walk : context.Walk flag rules start path decided?) (inside : start < rules.length) :
    start ∈ path := by
  cases walk with
  | ended beyond => omega
  | decides | passes | misses | missesLast => exact List.mem_cons_self

/-- A way that starts at the last rule also ends there. -/
theorem of_last (walk : context.Walk flag rules start path decided?)
    (last : start + 1 = rules.length) : path = [start] := by
  cases walk with
  | ended => omega
  | decides | missesLast => rfl
  | misses => omega
  | passes _ rest =>
      cases rest with
      | ended => rfl
      | decides judged | passes judged | misses judged | missesLast judged =>
          have := judged.inside
          omega

theorem next (walk : context.Walk flag rules start path decided?) {i : Nat} (visited : i ∈ path)
    (passed : context.JudgesAt flag rules i .passed) (more : i + 1 < rules.length) :
    i + 1 ∈ path := by
  induction walk with
  | ended => cases visited
  | decides judged | missesLast judged =>
      obtain rfl := List.mem_singleton.mp visited
      exact nomatch judged.unique passed
  | passes _ rest ih =>
      obtain rfl | later := List.mem_cons.mp visited
      · exact List.mem_cons_of_mem _ (rest.head more)
      · exact List.mem_cons_of_mem _ (ih later)
  | misses missed _ _ ih =>
      obtain rfl | later := List.mem_cons.mp visited
      · exact nomatch missed.unique passed
      · exact List.mem_cons_of_mem _ (ih later)

/-- After a miss there is nothing to look at but the last rule. -/
theorem miss (walk : context.Walk flag rules start path decided?) {i : Nat} (visited : i ∈ path)
    (missed : context.JudgesAt flag rules i .missed) :
    (i + 1 = rules.length → decided? = none) ∧
      (i + 1 < rules.length → rules.length - 1 ∈ path ∧
        ∀ later ∈ path, i < later → later = rules.length - 1) := by
  induction walk with
  | ended => cases visited
  | decides judged =>
      obtain rfl := List.mem_singleton.mp visited
      exact nomatch judged.unique missed
  | passes passed rest ih =>
      obtain rfl | later := List.mem_cons.mp visited
      · exact nomatch passed.unique missed
      · have := (rest.bounds i later).1
        grind
  | misses _ more rest ih =>
      -- The way jumps to the last rule and ends there, so its path is known.
      obtain rfl := rest.of_last (by omega)
      grind
  | missesLast _ last =>
      obtain rfl := List.mem_singleton.mp visited
      exact ⟨fun _ => rfl, fun more => by omega⟩

theorem reached (walk : context.Walk flag rules start path decided?)
    (began : start < rules.length → context.Reached flag rules start) :
    ∀ i ∈ path, context.Reached flag rules i := by
  induction walk with
  | ended => simp
  | decides judged | missesLast judged => simpa using began judged.inside
  | passes passed _ ih =>
      have reached := began passed.inside
      exact List.forall_mem_cons.mpr ⟨reached, ih fun more => reached.next passed more⟩
  | misses missed more _ ih =>
      have reached := began missed.inside
      exact List.forall_mem_cons.mpr ⟨reached, ih fun _ => reached.last missed more⟩

/-- The way from the first rule on looks at exactly the rules that are reached. -/
theorem mem_iff_reached (walk : context.Walk flag rules 0 path decided?) (i : Nat) :
    i ∈ path ↔ context.Reached flag rules i := by
  constructor
  · exact walk.reached (fun inside => .first (List.ne_nil_of_length_pos inside)) i
  · intro reached
    induction reached with
    | first inhabited => exact walk.head (List.length_pos_iff.mpr inhabited)
    | next _ passed more visited => exact walk.next visited passed more
    | last _ missed more visited => exact ((walk.miss visited missed).2 more).1

theorem exists_of_decided {decided : FlagOutcome}
    (walk : context.Walk flag rules start path (some decided)) :
    ∃ i, path.getLast? = some i ∧ context.JudgesAt flag rules i (.decided decided) := by
  generalize outcome : some decided = decided? at walk
  induction walk with
  | ended | missesLast => cases outcome
  | decides judged =>
      cases outcome
      exact ⟨_, rfl, judged⟩
  | passes _ _ ih | misses _ _ _ ih =>
      obtain ⟨i, last, judged⟩ := ih outcome
      exact ⟨i, by rw [List.getLast?_cons, last, Option.getD_some], judged⟩

theorem ends_at (walk : context.Walk flag rules start path decided?) {i : Nat}
    {decided : FlagOutcome} (visited : i ∈ path)
    (decides : context.JudgesAt flag rules i (.decided decided)) :
    path.getLast? = some i ∧ decided? = some decided := by
  induction walk with
  | ended => cases visited
  | decides judged =>
      obtain rfl := List.mem_singleton.mp visited
      cases judged.unique decides
      exact ⟨rfl, rfl⟩
  | passes judged _ ih | misses judged _ _ ih =>
      obtain rfl | later := List.mem_cons.mp visited
      · exact nomatch judged.unique decides
      · obtain ⟨last, outcome⟩ := ih later
        exact ⟨by rw [List.getLast?_cons, last, Option.getD_some], outcome⟩
  | missesLast missed =>
      obtain rfl := List.mem_singleton.mp visited
      exact nomatch missed.unique decides

/-- What is decided is what the last rule on the way decides, and no other rule on it decides. -/
theorem decides_iff (walk : context.Walk flag rules start path decided?) (i : Nat)
    (decided : FlagOutcome) :
    path.getLast? = some i ∧ decided? = some decided ↔
      i ∈ path ∧ context.JudgesAt flag rules i (.decided decided) := by
  constructor
  · rintro ⟨last, rfl⟩
    obtain ⟨i', last', judged⟩ := walk.exists_of_decided
    cases last.symm.trans last'
    exact ⟨List.mem_of_getLast? last, judged⟩
  · rintro ⟨visited, judged⟩
    exact walk.ends_at visited judged

/-- Of the rules on the way only two can bucket the user, and then the second is the last rule. -/
theorem bucketed (walk : context.Walk flag rules start path decided?) :
    (path.filter (context.bucketsAt flag rules)).length ≤ 2 ∧
      ∀ first second, path.filter (context.bucketsAt flag rules) = [first, second] →
        second + 1 = rules.length := by
  induction walk with
  | ended => simp
  | @decides i | @missesLast i =>
      have length := List.length_filter_le (context.bucketsAt flag rules) [i]
      rw [List.length_singleton] at length
      exact ⟨by omega, fun first second both => by simp [both] at length⟩
  | passes passed _ ih =>
      rw [List.filter_cons_of_neg passed.not_bucketed]
      exact ih
  | misses _ more rest =>
      -- Two rules are left of which two bucket the user, so the second one is the last rule.
      obtain rfl := rest.of_last (by omega)
      refine ⟨List.length_filter_le _ _, fun first second both => ?_⟩
      have length := congrArg List.length both
      have all := List.filter_sublist.eq_of_length length
      cases all.symm.trans both
      omega

theorem unique (walk : context.Walk flag rules start path decided?) {path' : List Nat}
    {decided' : Option FlagOutcome} (other : context.Walk flag rules start path' decided') :
    path = path' ∧ decided? = decided' := by
  induction walk generalizing path' decided' with
  | ended beyond =>
      cases other with
      | ended => exact ⟨rfl, rfl⟩
      | decides judged | passes judged | misses judged | missesLast judged =>
          exact absurd judged.inside (by omega)
  | decides judged =>
      cases other with
      | decides judged' =>
          cases judged.unique judged'
          exact ⟨rfl, rfl⟩
      | ended => exact absurd judged.inside (by omega)
      | passes judged' | misses judged' | missesLast judged' => exact nomatch judged.unique judged'
  | passes judged _ ih =>
      cases other with
      | passes _ rest =>
          obtain ⟨rfl, rfl⟩ := ih rest
          exact ⟨rfl, rfl⟩
      | ended => exact absurd judged.inside (by omega)
      | decides judged' | misses judged' | missesLast judged' => exact nomatch judged.unique judged'
  | misses judged more _ ih =>
      cases other with
      | misses _ _ rest =>
          obtain ⟨rfl, rfl⟩ := ih rest
          exact ⟨rfl, rfl⟩
      | missesLast | ended => omega
      | decides judged' | passes judged' => exact nomatch judged.unique judged'
  | missesLast judged last =>
      cases other with
      | missesLast => exact ⟨rfl, rfl⟩
      | misses | ended => omega
      | decides judged' | passes judged' => exact nomatch judged.unique judged'

end Walk

/-- The same context with other rollouts. -/
def withRollouts (context : Context σ) (rollouts : Dict Rollout) : Context σ :=
  { context with config := { context.config with rolloutsById := rollouts } }

section Indifference
variable {rules' : List Experiment} {rollouts : Dict Rollout}

theorem JudgesAt.withRollouts {i : Nat} {verdict : Verdict}
    (judged : context.JudgesAt flag rules i verdict) (same : rules'[i]? = rules[i]?) :
    (context.withRollouts rollouts).JudgesAt flag rules' i verdict := by
  obtain ⟨rule, here, judged⟩ := judged
  refine ⟨rule, same.trans here, ?_⟩
  cases judged with
  | forced forced => exact .forced forced
  | bucketed unforced meant bucketed => exact .bucketed unforced meant bucketed
  | passed unforced other => exact .passed unforced other
  | missed unforced meant closed => exact .missed unforced meant closed

/-- A way through rules that come to the same in another context is one in that context. -/
theorem Walk.congr {context' : Context σ} {start : Nat} {path : List Nat}
    {decided? : Option FlagOutcome} (walk : context.Walk flag rules start path decided?)
    (length : rules'.length = rules.length)
    (same : ∀ i ∈ path, ∀ verdict, context.JudgesAt flag rules i verdict →
      context'.JudgesAt flag rules' i verdict) :
    context'.Walk flag rules' start path decided? := by
  induction walk with
  | ended beyond => exact .ended (length ▸ beyond)
  | decides judged => exact .decides (same _ List.mem_cons_self _ judged)
  | passes judged _ ih =>
      have rest := ih fun i later => same i (List.mem_cons_of_mem _ later)
      exact .passes (same _ List.mem_cons_self _ judged) rest
  | misses judged more _ ih =>
      have rest := ih fun i later => same i (List.mem_cons_of_mem _ later)
      rw [← length] at rest more
      exact .misses (same _ List.mem_cons_self _ judged) more rest
  | missesLast judged last =>
      exact .missesLast (same _ List.mem_cons_self _ judged) (length ▸ last)

end Indifference

end Context
end FeatureFlags
