import FeatureFlags.Decimal.Shortest

/-!
Decimal text of doubles. A format says which exponents are written positionally; the others are
written with one digit before the point. Positional text always has a fraction.
-/

namespace FeatureFlags

structure DecimalFormat where
  /-- Whether a number with this exponent of its leading digit is written positionally. -/
  positional : Int → Bool

namespace Decimal

private def zeros (n : Nat) : List Char := List.replicate n '0'

/-- Digits around the point, with at least one digit on either side. -/
def positionalText (d : Decimal) : List Char :=
  if d.exponent < 0 then '0' :: '.' :: zeros (d.exponent.natAbs - 1) ++ d.digits
  else
    let wholeLength := d.exponent.toNat + 1
    let whole := d.digits.take wholeLength ++ zeros (wholeLength - d.digits.length)
    let fraction := d.digits.drop wholeLength
    whole ++ '.' :: (if fraction.isEmpty then ['0'] else fraction)

/-- One digit, the others behind a point if there are any, and a signed exponent. -/
def scientificText (d : Decimal) : List Char :=
  let tail := d.digits.drop 1
  d.digits.take 1 ++ (if tail.isEmpty then [] else '.' :: tail) ++
    'e' :: (if d.exponent < 0 then '-' else '+') :: Nat.toDigits 10 d.exponent.natAbs

end Decimal

namespace DecimalFormat

/-- The text of a finite double. Zero keeps its sign. -/
def write (format : DecimalFormat) (x : Float) : String :=
  let magnitude :=
    if x == 0 then ['0', '.', '0']
    else
      let d := Decimal.shortest x
      if format.positional d.exponent then d.positionalText else d.scientificText
  String.ofList (if x.toBits ≥ 0x8000000000000000 then '-' :: magnitude else magnitude)

end DecimalFormat
end FeatureFlags
