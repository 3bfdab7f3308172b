import FeatureFlags.Condition.Tree

/-!
The three-valued logic of conditions. Evaluation stops as soon as the result is settled, and yet
comes to the strong Kleene value of the whole tree: a conjunction is the least of its operands, a
disjunction the greatest. The leaves are looked at in their order, and only those that are looked at
matter.
-/

namespace FeatureFlags

namespace Truth

/-- The place of a truth value in the order `no < unknown < yes`. -/
def rank : Truth → Nat
  | no => 0
  | unknown => 1
  | yes => 2

theorem rank_and (t u : Truth) : (t.and u).rank = min t.rank u.rank := by
  cases t <;> cases u <;> rfl

theorem rank_or (t u : Truth) : (t.or u).rank = max t.rank u.rank := by
  cases t <;> cases u <;> rfl

theorem rank_foldr {join : Truth → Truth → Truth} {combine : Nat → Nat → Nat}
    (rank_join : ∀ t u, (join t u).rank = combine t.rank u.rank) (unit : Truth)
    (truths : List Truth) :
    (truths.foldr join unit).rank = (truths.map rank).foldr combine unit.rank := by
  induction truths with
  | nil => rfl
  | cons truth rest ih => rw [List.foldr_cons, rank_join, ih, List.map_cons, List.foldr_cons]

end Truth

namespace Condition
variable {α : Type}

/-- Induction over a condition: the operands of an operator already have the property. -/
@[elab_as_elim, induction_eliminator]
theorem induct {motive : Condition α → Prop} (leaf : ∀ test, motive (.leaf test))
    (and : ∀ operands, (∀ operand ∈ operands, motive operand) → motive (.and operands))
    (or : ∀ operands, (∀ operand ∈ operands, motive operand) → motive (.or operands))
    (pending : motive (.not none))
    (not : ∀ operand, motive operand → motive (.not (some operand))) :
    ∀ tree, motive tree
  | .leaf test => leaf test
  | .and operands => and operands fun operand _ => induct leaf and or pending not operand
  | .or operands => or operands fun operand _ => induct leaf and or pending not operand
  | .not none => pending
  | .not (some operand) => not operand (induct leaf and or pending not operand)

/-- The strong Kleene laws for the values of conditions over given leaves. -/
structure IsKleene (leafValue : α → Truth) (value : Condition α → Truth) : Prop where
  leaf : ∀ test, value (.leaf test) = leafValue test
  and : ∀ operands, (value (.and operands)).rank =
    (operands.map fun operand => (value operand).rank).foldr min Truth.yes.rank
  or : ∀ operands, (value (.or operands)).rank =
    (operands.map fun operand => (value operand).rank).foldr max Truth.no.rank
  pending : value (.not none) = .unknown
  not : ∀ operand, value (.not (some operand)) = (value operand).not

section Values
variable (leafValue : α → Truth)

theorem valueAll_eq_foldr (operands : List (Condition α)) :
    valueAll leafValue operands = (operands.map (value leafValue)).foldr Truth.and .yes := by
  induction operands with
  | nil => rfl
  | cons operand rest ih => rw [valueAll, ih, List.map_cons, List.foldr_cons]

theorem valueAny_eq_foldr (operands : List (Condition α)) :
    valueAny leafValue operands = (operands.map (value leafValue)).foldr Truth.or .no := by
  induction operands with
  | nil => rfl
  | cons operand rest ih => rw [valueAny, ih, List.map_cons, List.foldr_cons]

theorem leavesOfAll_eq_flatMap (operands : List (Condition α)) :
    leavesOfAll operands = operands.flatMap leaves := by
  induction operands with
  | nil => rfl
  | cons operand rest ih => rw [leavesOfAll, ih, List.flatMap_cons]

theorem isKleene_value : IsKleene leafValue (value leafValue) where
  leaf _ := rfl
  and operands := by
    rw [value, valueAll_eq_foldr, Truth.rank_foldr Truth.rank_and, List.map_map]
    rfl
  or operands := by
    rw [value, valueAny_eq_foldr, Truth.rank_foldr Truth.rank_or, List.map_map]
    rfl
  pending := rfl
  not _ := rfl

end Values

/-- Evaluate operands up to the first one that comes to `stop`, and join their values. -/
def evaluateUntil (leafValue : α → Truth) (stop : Truth) (join : Truth → Truth → Truth)
    (unit : Truth) : List (Condition α) → Evaluation α
  | [] => { truth := unit, visited := [] }
  | operand :: operands =>
    let first := evaluate leafValue operand
    if first.truth = stop then first
    else
      let rest := evaluateUntil leafValue stop join unit operands
      { truth := join first.truth rest.truth, visited := first.visited ++ rest.visited }

section Stopping
variable {leafValue leafValue' : α → Truth} {stop unit : Truth} {join : Truth → Truth → Truth}

theorem evaluateAll_eq_evaluateUntil (operands : List (Condition α)) :
    evaluateAll leafValue operands = evaluateUntil leafValue .no Truth.and .yes operands := by
  induction operands with
  | nil => rfl
  | cons operand rest ih => rw [evaluateAll, evaluateUntil, ih]

theorem evaluateAny_eq_evaluateUntil (operands : List (Condition α)) :
    evaluateAny leafValue operands = evaluateUntil leafValue .yes Truth.or .no operands := by
  induction operands with
  | nil => rfl
  | cons operand rest ih => rw [evaluateAny, evaluateUntil, ih]

theorem evaluateUntil_of_stop {operand : Condition α} {operands : List (Condition α)}
    (stops : (operand.evaluate leafValue).truth = stop) :
    evaluateUntil leafValue stop join unit (operand :: operands) = operand.evaluate leafValue :=
  if_pos stops

theorem evaluateUntil_of_ne {operand : Condition α} {operands : List (Condition α)}
    (goesOn : (operand.evaluate leafValue).truth ≠ stop) :
    evaluateUntil leafValue stop join unit (operand :: operands) =
      let rest := evaluateUntil leafValue stop join unit operands
      { truth := join (operand.evaluate leafValue).truth rest.truth
        visited := (operand.evaluate leafValue).visited ++ rest.visited } :=
  if_neg goesOn

theorem truth_evaluateUntil (settles : ∀ t, join stop t = stop) {operands : List (Condition α)}
    (same : ∀ operand ∈ operands,
      (operand.evaluate leafValue).truth = operand.value leafValue) :
    (evaluateUntil leafValue stop join unit operands).truth =
      (operands.map (value leafValue)).foldr join unit := by
  induction operands with
  | nil => rfl
  | cons operand rest ih =>
      have first := same operand List.mem_cons_self
      have later := ih fun other member => same other (List.mem_cons_of_mem _ member)
      rw [List.map_cons, List.foldr_cons, ← first, ← later]
      by_cases stops : (operand.evaluate leafValue).truth = stop
      · rw [evaluateUntil_of_stop stops, stops, settles]
      · rw [evaluateUntil_of_ne stops]

theorem visited_evaluateUntil_sublist {operands : List (Condition α)}
    (within : ∀ operand ∈ operands,
      (operand.evaluate leafValue).visited.Sublist operand.leaves) :
    (evaluateUntil leafValue stop join unit operands).visited.Sublist
      (operands.flatMap leaves) := by
  induction operands with
  | nil => exact .slnil
  | cons operand rest ih =>
      have first := within operand List.mem_cons_self
      have later := ih fun other member => within other (List.mem_cons_of_mem _ member)
      rw [List.flatMap_cons]
      by_cases stops : (operand.evaluate leafValue).truth = stop
      · rw [evaluateUntil_of_stop stops]
        exact first.trans (List.sublist_append_left _ _)
      · rw [evaluateUntil_of_ne stops]
        exact first.append later

theorem evaluateUntil_congr {operands : List (Condition α)}
    (confined : ∀ operand ∈ operands,
      (∀ test ∈ (operand.evaluate leafValue).visited, leafValue test = leafValue' test) →
        operand.evaluate leafValue' = operand.evaluate leafValue)
    (agree : ∀ test ∈ (evaluateUntil leafValue stop join unit operands).visited,
      leafValue test = leafValue' test) :
    evaluateUntil leafValue' stop join unit operands =
      evaluateUntil leafValue stop join unit operands := by
  induction operands with
  | nil => rfl
  | cons operand rest ih =>
      have first := confined operand List.mem_cons_self
      have later := ih fun other member => confined other (List.mem_cons_of_mem _ member)
      -- An operand that ends the evaluation for one leaf function ends it for the other.
      by_cases stops : (operand.evaluate leafValue).truth = stop
      · rw [evaluateUntil_of_stop stops] at agree ⊢
        rw [evaluateUntil_of_stop (by rw [first agree, stops]), first agree]
      · rw [evaluateUntil_of_ne stops] at agree ⊢
        have same := first fun test member => agree test (List.mem_append_left _ member)
        have same' := later fun test member => agree test (List.mem_append_right _ member)
        rw [evaluateUntil_of_ne (by rwa [same]), same, same']

end Stopping

section Evaluation
variable (leafValue : α → Truth)

theorem truth_evaluate (tree : Condition α) :
    (tree.evaluate leafValue).truth = tree.value leafValue := by
  induction tree with
  | leaf test | pending => rfl
  | and operands ih =>
      rw [evaluate, evaluateAll_eq_evaluateUntil, value, valueAll_eq_foldr]
      exact truth_evaluateUntil (fun _ => rfl) ih
  | or operands ih =>
      rw [evaluate, evaluateAny_eq_evaluateUntil, value, valueAny_eq_foldr]
      exact truth_evaluateUntil (fun _ => rfl) ih
  | not operand ih => exact congrArg Truth.not ih

theorem visited_sublist_leaves (tree : Condition α) :
    (tree.evaluate leafValue).visited.Sublist tree.leaves := by
  induction tree with
  | leaf test => exact List.Sublist.refl _
  | pending => exact .slnil
  | and operands ih =>
      rw [evaluate, evaluateAll_eq_evaluateUntil, leaves, leavesOfAll_eq_flatMap]
      exact visited_evaluateUntil_sublist ih
  | or operands ih =>
      rw [evaluate, evaluateAny_eq_evaluateUntil, leaves, leavesOfAll_eq_flatMap]
      exact visited_evaluateUntil_sublist ih
  | not operand ih => exact ih

theorem evaluate_congr {leafValue' : α → Truth} {tree : Condition α}
    (agree : ∀ test ∈ (tree.evaluate leafValue).visited, leafValue test = leafValue' test) :
    tree.evaluate leafValue' = tree.evaluate leafValue := by
  induction tree with
  | leaf test =>
      have same := agree test List.mem_cons_self
      rw [evaluate, evaluate, same]
  | pending => rfl
  | and operands ih =>
      rw [evaluate, evaluateAll_eq_evaluateUntil] at agree ⊢
      rw [evaluate, evaluateAll_eq_evaluateUntil]
      exact evaluateUntil_congr ih agree
  | or operands ih =>
      rw [evaluate, evaluateAny_eq_evaluateUntil] at agree ⊢
      rw [evaluate, evaluateAny_eq_evaluateUntil]
      exact evaluateUntil_congr ih agree
  | not operand ih =>
      have same := ih agree
      rw [evaluate, evaluate, same]

/-- Stopping early makes no difference: the result is the Kleene value of the tree, the leaves that
are looked at come in the order of the tree, and no other leaf has a part in the evaluation. -/
theorem evaluate_agrees_with_kleene (tree : Condition α) :
    IsKleene leafValue (value leafValue) ∧
      (tree.evaluate leafValue).truth = tree.value leafValue ∧
      (tree.evaluate leafValue).visited.Sublist tree.leaves ∧
      ∀ leafValue' : α → Truth,
        (∀ test ∈ (tree.evaluate leafValue).visited, leafValue test = leafValue' test) →
          tree.evaluate leafValue' = tree.evaluate leafValue :=
  ⟨isKleene_value leafValue, truth_evaluate leafValue tree, visited_sublist_leaves leafValue tree,
    fun _ agree => evaluate_congr leafValue agree⟩

/-- Behind an operand that holds, a disjunction does not look at anything. -/
theorem evaluate_stops_at_yes :
    let tree : Condition Nat := .or [.leaf 0, .not (some (.leaf 1)), .leaf 2]
    let first : Nat → Truth := fun test => if test = 0 then .unknown else .no
    let second : Nat → Truth := fun test => if test = 2 then .yes else first test
    (tree.evaluate first).visited = [0, 1] ∧ tree.evaluate second = tree.evaluate first := by
  intro tree first second
  obtain ⟨_, _, _, settled⟩ := evaluate_agrees_with_kleene first tree
  exact ⟨rfl, settled second (by decide)⟩

end Evaluation
end Condition
end FeatureFlags
