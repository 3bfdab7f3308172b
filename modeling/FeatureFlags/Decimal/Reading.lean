/-!
Reading numbers from plain text: whole numbers of 64 bits with a sign, and doubles, rounded to
nearest. The whole text has to be the number; no blank is skipped.
-/

namespace FeatureFlags

def digitValue (c : Char) : Nat := c.toNat - '0'.toNat

def ofDigits (digits : List Char) : Nat :=
  digits.foldl (fun n c => n * 10 + digitValue c) 0

def spanDigits (text : List Char) : List Char × List Char :=
  text.span Char.isDigit

/-- An optional sign, as whether it is a minus, and the rest. -/
def spanSign : List Char → Bool × List Char
  | '-' :: rest => (true, rest)
  | '+' :: rest => (false, rest)
  | rest => (false, rest)

def readInteger (text : String) : Option Int :=
  let (negative, digits) := spanSign text.toList
  if digits.isEmpty || !digits.all Char.isDigit then none
  else
    let n : Int := if negative then -(ofDigits digits : Int) else ofDigits digits
    if Int64.minValue.toInt ≤ n ∧ n ≤ Int64.maxValue.toInt then some n else none

/-!
Doubles are told by their bits: a sign, and a magnitude that counts the doubles from zero up to
infinity.
-/

namespace FloatText

def infinity : Nat := 2047 * Nat.pow 2 52

def notANumber : Nat := infinity + Nat.pow 2 51

/-- How many of the smallest double make up one. -/
def unitsPerOne : Nat := Nat.pow 2 1074

/-- The whole number nearest to a fraction. Of two that are equally near it is the even one. -/
def roundToEven (numerator denominator : Nat) : Nat :=
  let floor := numerator / denominator
  match compare (2 * (numerator % denominator)) denominator with
  | .lt => floor
  | .eq => floor + floor % 2
  | .gt => floor + 1

/-- The magnitude nearest to a fraction, as if there were no largest one. The significand has 53
places, or less above the last place of the smallest double, and each power of two begins with the
next multiple of `2 ^ 52`. -/
def nearestMagnitude (numerator denominator : Nat) : Nat :=
  let scaled := numerator * unitsPerOne
  let shift := (scaled / denominator).log2 - 52
  shift * Nat.pow 2 52 + roundToEven scaled (denominator * Nat.pow 2 shift)

/-- The magnitude of the double nearest to `coefficient × 10 ^ exponent`. Far outside the range of
doubles the power of ten is not computed. -/
def nearest (coefficient : Nat) (exponent : Int) : Nat :=
  let size := exponent + (Nat.toDigits 10 coefficient).length
  if coefficient = 0 ∨ size < -400 then 0
  else if size > 400 then infinity
  else
    min infinity (nearestMagnitude (coefficient * Nat.pow 10 exponent.toNat)
      (Nat.pow 10 (-exponent).toNat))

/-- An exponent mark with its digits, or nothing at all. -/
def readExponent : List Char → Option Int
  | [] => some 0
  | mark :: rest =>
    let (negative, digits) := spanSign rest
    if (mark = 'e' ∨ mark = 'E') ∧ !digits.isEmpty ∧ digits.all Char.isDigit then
      some (if negative then -(ofDigits digits : Int) else ofDigits digits)
    else none

/-- Digits with an optional point, at least one digit, and an optional exponent. -/
def readDecimal (text : List Char) : Option Nat :=
  let (whole, rest) := spanDigits text
  let (fraction, rest) := match rest with
    | '.' :: rest => spanDigits rest
    | rest => ([], rest)
  if whole.isEmpty && fraction.isEmpty then none
  else (readExponent rest).map fun exponent =>
    nearest (ofDigits (whole ++ fraction)) (exponent - fraction.length)

/-- The magnitude of a double: a decimal, or a name of infinity or of the undefined value in
letters of either case. -/
def readMagnitude (text : List Char) : Option Nat :=
  let name := String.ofList (text.map Char.toLower)
  if name = "inf" ∨ name = "infinity" then some infinity
  else if name = "nan" then some notANumber
  else readDecimal text

def signed (negative : Bool) (magnitude : Nat) : Float :=
  Float.ofBits (UInt64.ofNat (if negative then Nat.pow 2 63 + magnitude else magnitude))

/-- The double nearest to `coefficient × 10 ^ exponent`. -/
def rounded (coefficient : Nat) (exponent : Int) : Float := signed false (nearest coefficient exponent)

end FloatText

def readFloat (text : String) : Option Float :=
  let (negative, rest) := spanSign text.toList
  (FloatText.readMagnitude rest).map (FloatText.signed negative)

end FeatureFlags
