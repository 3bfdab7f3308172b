import FeatureFlags.Json.Basic
import FeatureFlags.Decimal.Reading

/-!
Number literals. Digits are gathered into a significand of 64 bits as long as they fit; digits of
the whole part that do not fit count as a power of ten, digits of the fraction that do not fit are
dropped. The double is the rounded significand, multiplied by or divided by a power of ten, with
one rounding for each step.
-/

namespace FeatureFlags.Json

structure Numeral where
  negative : Bool
  whole : List Char
  fraction : List Char
  exponent : Option Int
  deriving DecidableEq

namespace Numeral

/-- Gather digits behind `n` while the result fits into 64 bits, and return the others. -/
def gather : Nat → List Char → Nat × List Char
  | n, [] => (n, [])
  | n, c :: digits =>
    if n * 10 + digitValue c < UInt64.size then gather (n * 10 + digitValue c) digits
    else (n, c :: digits)

def powerOfTen (n : Nat) : Float := FloatText.rounded 1 n

/-- `x × 10 ^ exponent` for a whole number `x` below `2 ^ 64`, or nothing if it is too large. -/
def scale (x : Float) (exponent : Int) : Option Float :=
  let e := exponent.natAbs
  if x == 0 then some 0
  else if exponent < 0 then
    some (if e ≤ 308 then x / powerOfTen e
      else if e ≤ 616 then x / powerOfTen 308 / powerOfTen (e - 308)
      else 0)
  else if e ≤ 308 then
    let product := x * powerOfTen e
    if product.isFinite then some product else none
  else none

/-- The double of a literal, unless it is out of range. -/
def toFloat? (literal : Numeral) : Option Float :=
  let (head, overflow) := gather 0 literal.whole
  let (significand, dropped) := gather head literal.fraction
  let place : Int := overflow.length - (literal.fraction.length - dropped.length : Nat)
  (scale (FloatText.rounded significand 0) (place + literal.exponent.getD 0)).map fun x =>
    if literal.negative then -x else x

/-- A literal without fraction and exponent is whole if it fits into 64 bits. A negative zero is a
double, which keeps the sign. -/
def toInteger? (literal : Numeral) : Option Int :=
  let n := ofDigits literal.whole
  if literal.fraction.isEmpty && literal.exponent.isNone then
    if literal.negative then (if 0 < n ∧ n ≤ UInt64.size / 2 then some (-n) else none)
    else if n < UInt64.size then some n else none
  else none

def value? (literal : Numeral) : Option Number :=
  match literal.toInteger? with
  | some n => some (.integer n)
  | none => literal.toFloat?.map .real

end Numeral
end FeatureFlags.Json
