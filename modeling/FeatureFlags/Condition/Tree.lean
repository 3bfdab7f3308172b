import FeatureFlags.Condition.Truth

/-!
Boolean expressions over leaves, with three-valued leaves. Evaluation goes from left to right and
stops as soon as the result is settled; it reports the leaves it looked at. `value` is the plain
value computed from all leaves.
-/

namespace FeatureFlags

inductive Condition (α : Type) where
  | leaf (test : α)
  | and (operands : List (Condition α))
  | or (operands : List (Condition α))
  /-- Without an operand it is always unknown. -/
  | not (operand : Option (Condition α))

/-- The result of an evaluation, and the leaves that were looked at, in order. -/
structure Evaluation (α : Type) where
  truth : Truth
  visited : List α

namespace Condition
variable {α β : Type}

mutual

/-- Evaluate from left to right, no further than needed. -/
def evaluate (leafValue : α → Truth) : Condition α → Evaluation α
  | .leaf test => { truth := leafValue test, visited := [test] }
  | .and operands => evaluateAll leafValue operands
  | .or operands => evaluateAny leafValue operands
  | .not none => { truth := .unknown, visited := [] }
  | .not (some operand) =>
    let result := evaluate leafValue operand
    { result with truth := result.truth.not }

/-- The conjunction of a list. It ends at the first operand that does not hold. -/
def evaluateAll (leafValue : α → Truth) : List (Condition α) → Evaluation α
  | [] => { truth := .yes, visited := [] }
  | operand :: operands =>
    let first := evaluate leafValue operand
    if first.truth = .no then first
    else
      let rest := evaluateAll leafValue operands
      { truth := first.truth.and rest.truth, visited := first.visited ++ rest.visited }

/-- The disjunction of a list. It ends at the first operand that holds. -/
def evaluateAny (leafValue : α → Truth) : List (Condition α) → Evaluation α
  | [] => { truth := .no, visited := [] }
  | operand :: operands =>
    let first := evaluate leafValue operand
    if first.truth = .yes then first
    else
      let rest := evaluateAny leafValue operands
      { truth := first.truth.or rest.truth, visited := first.visited ++ rest.visited }

end

mutual

def value (leafValue : α → Truth) : Condition α → Truth
  | .leaf test => leafValue test
  | .and operands => valueAll leafValue operands
  | .or operands => valueAny leafValue operands
  | .not none => .unknown
  | .not (some operand) => (value leafValue operand).not

def valueAll (leafValue : α → Truth) : List (Condition α) → Truth
  | [] => .yes
  | operand :: operands => (value leafValue operand).and (valueAll leafValue operands)

def valueAny (leafValue : α → Truth) : List (Condition α) → Truth
  | [] => .no
  | operand :: operands => (value leafValue operand).or (valueAny leafValue operands)

end

mutual

def leaves : Condition α → List α
  | .leaf test => [test]
  | .and operands | .or operands => leavesOfAll operands
  | .not none => []
  | .not (some operand) => leaves operand

def leavesOfAll : List (Condition α) → List α
  | [] => []
  | operand :: operands => leaves operand ++ leavesOfAll operands

end

mutual

def bind (tree : α → Condition β) : Condition α → Condition β
  | .leaf test => tree test
  | .and operands => .and (bindAll tree operands)
  | .or operands => .or (bindAll tree operands)
  | .not none => .not none
  | .not (some operand) => .not (some (bind tree operand))

def bindAll (tree : α → Condition β) : List (Condition α) → List (Condition β)
  | [] => []
  | operand :: operands => bind tree operand :: bindAll tree operands

end

end Condition
end FeatureFlags
