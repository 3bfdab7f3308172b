/-!
The fewest digits that read back as a given double, and among those the nearest ones. A double
stands for an interval of numbers that round to it; the search looks at its neighbours on the grids
of one, two, … seventeen digits and takes the first grid that has a point in the interval.
-/

namespace FeatureFlags

/-- The number `d₀.d₁d₂… × 10 ^ exponent`, by its digits. -/
structure Decimal where
  digits : List Char
  exponent : Int
  deriving DecidableEq, Repr

/-- The number `value / scale` and the ends of the interval that rounds to it. -/
structure RoundingInterval where
  low : Nat
  value : Nat
  high : Nat
  scale : Nat
  closed : Bool
  deriving DecidableEq, Repr

namespace RoundingInterval

/-- The interval of the magnitude of a finite double. Below a power of two the doubles lie twice as
dense, so the lower end is nearer there. -/
def ofFloat (x : Float) : RoundingInterval :=
  let bits := x.toBits.toNat
  let fraction := bits % Nat.pow 2 52
  let field := bits / Nat.pow 2 52 % 2048
  let significand := if field = 0 then fraction else Nat.pow 2 52 + fraction
  let shift := max field 1
  -- The unit is a quarter of the last place of the significand.
  let unit := if shift ≥ 1075 then Nat.pow 2 (shift - 1075) else 1
  let scale := if shift ≥ 1075 then 4 else 4 * Nat.pow 2 (1075 - shift)
  let below := if fraction = 0 ∧ field > 1 then 1 else 2
  { low := (4 * significand - below) * unit
    value := 4 * significand * unit
    high := (4 * significand + 2) * unit
    scale := scale
    closed := significand % 2 = 0 }

/-- Measured in units of `10 ^ place`. -/
def inUnitsOf (i : RoundingInterval) (place : Int) : RoundingInterval :=
  let factor := Nat.pow 10 place.natAbs
  if place ≥ 0 then { i with scale := i.scale * factor }
  else { i with low := i.low * factor, value := i.value * factor, high := i.high * factor }

def contains (i : RoundingInterval) (n : Nat) : Bool :=
  if i.closed then i.low ≤ n * i.scale && n * i.scale ≤ i.high
  else i.low < n * i.scale && n * i.scale < i.high

/-- Whether the value is nearer to `n` than to `n + 1`. A tie goes to the even one. -/
def nearerBelow (i : RoundingInterval) (n : Nat) : Bool :=
  let below := i.value - n * i.scale
  let above := (n + 1) * i.scale - i.value
  if below = above then n % 2 = 0 else below < above

/-- The whole number of the interval that is nearest to its value. -/
def integer? (i : RoundingInterval) : Option Nat :=
  let n := i.value / i.scale
  match i.contains n, i.contains (n + 1) with
  | true, true => some (if i.nearerBelow n then n else n + 1)
  | true, false => some n
  | false, true => some (n + 1)
  | false, false => none

/-- The place of the leading digit. No double is below `10 ^ (-324)`. -/
def leadingPlace (i : RoundingInterval) : Int :=
  (Nat.toDigits 10 (i.value * Nat.pow 10 324 / i.scale)).length - 325

end RoundingInterval

namespace Decimal

/-- The number `coefficient × 10 ^ place`, without trailing zeros. -/
def ofCoefficient (coefficient : Nat) (place : Int) : Decimal :=
  let digits := Nat.toDigits 10 coefficient
  { digits := (digits.reverse.dropWhile (· = '0')).reverse
    exponent := place + digits.length - 1 }

/-- The shortest decimal of a finite double other than zero, without its sign. -/
def shortest (x : Float) : Decimal :=
  let interval := RoundingInterval.ofFloat x
  let lead := interval.leadingPlace
  let found := (List.range 17).findSome? fun (n : Nat) =>
    (interval.inUnitsOf (lead - n)).integer?.map fun c => ofCoefficient c (lead - n)
  found.getD (ofCoefficient 0 lead)

end Decimal
end FeatureFlags
