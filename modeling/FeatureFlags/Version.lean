import FeatureFlags.Decimal.Reading

/-!
Versions with one, two or three numbers: `2`, `2.1` and `2.1.0-beta.1+build.5`. A version is
compared with a target only as far as the target goes, so `2.1.5` equals the target `2.1`.
-/

namespace FeatureFlags

namespace Version

/-- A part of a pre-release: a number, or a word with at least one letter or hyphen. -/
inductive Identifier where
  | number (n : Nat)
  | word (text : String)
  deriving DecidableEq, Repr

end Version

inductive Version where
  | majorOnly (major : Nat)
  | majorMinor (major minor : Nat)
  /-- A release has no pre-release parts. -/
  | full (major minor patch : Nat) (pre : List Version.Identifier) (build : List String)
  deriving DecidableEq, Repr

namespace Version

namespace Identifier

/-- Numbers sort before words. -/
def compare : Identifier → Identifier → Ordering
  | .number m, .number n => Ord.compare m n
  | .number _, .word _ => .lt
  | .word _, .number _ => .gt
  | .word s, .word t => Ord.compare s t

def render : Identifier → String
  | .number n => toString n
  | .word text => text

end Identifier

def isPrerelease : Version → Bool
  | .full _ _ _ pre _ => !pre.isEmpty
  | _ => false

/-- The numbers of a version, the most significant first. -/
def numbers : Version → List Nat
  | .majorOnly major => [major]
  | .majorMinor major minor => [major, minor]
  | .full major minor patch _ _ => [major, minor, patch]

/-- Compare numbers as far as the target goes. A version that ends earlier is less. -/
def compareNumbers : List Nat → List Nat → Ordering
  | _, [] => .eq
  | [], _ :: _ => .lt
  | m :: version, n :: target => (compare m n).then (compareNumbers version target)

/-- Part by part; of two lists that agree as far as they go the longer one is greater. -/
def compareParts : List Identifier → List Identifier → Ordering
  | [], [] => .eq
  | [], _ :: _ => .lt
  | _ :: _, [] => .gt
  | p :: ps, q :: qs => (p.compare q).then (compareParts ps qs)

/-- A release is greater than every pre-release of it. -/
def comparePre : List Identifier → List Identifier → Ordering
  | [], [] => .eq
  | [], _ :: _ => .gt
  | _ :: _, [] => .lt
  | ps, qs => compareParts ps qs

/-- Compare a version with a target, to the precision of the target. -/
def compareToTarget (version target : Version) : Ordering :=
  let order := compareNumbers version.numbers target.numbers
  match version, target with
  | .full _ _ _ pre _, .full _ _ _ targetPre _ => order.then (comparePre pre targetPre)
  | _, _ => order

/-- A number without leading zeros that fits into 64 bits, and the text behind it. -/
def readNumber (text : List Char) : Option (Nat × List Char) :=
  let (digits, rest) := spanDigits text
  match digits with
  | [] => none
  | '0' :: _ :: _ => none
  | _ => if ofDigits digits < UInt64.size then some (ofDigits digits, rest) else none

def splitDots : List Char → List (List Char)
  | [] => [[]]
  | c :: text =>
    match splitDots text with
    | piece :: pieces => if c = '.' then [] :: piece :: pieces else (c :: piece) :: pieces
    | [] => []

def isIdentifierChar (c : Char) : Bool := c.isAlphanum || c = '-'

def readBuildPart (piece : List Char) : Option String :=
  if !piece.isEmpty && piece.all isIdentifierChar then some (String.ofList piece) else none

/-- A part of a pre-release. One of digits alone has no leading zeros. -/
def readPrePart (piece : List Char) : Option Identifier :=
  match readBuildPart piece with
  | none => none
  | some text =>
    if piece.all Char.isDigit then
      match piece with
      | '0' :: _ :: _ => none
      | _ => some (.number (ofDigits piece))
    else some (.word text)

/-- What may stand behind the third number. -/
def readSuffix : List Char → Option (List Identifier × List String)
  | [] => some ([], [])
  | '+' :: build => do return ([], ← (splitDots build).mapM readBuildPart)
  | '-' :: text => do
    let (pre, rest) := text.span (· ≠ '+')
    let pre ← (splitDots pre).mapM readPrePart
    match rest with
    | [] => return (pre, [])
    | _ :: build => return (pre, ← (splitDots build).mapM readBuildPart)
  | _ => none

def parse (text : String) : Option Version := do
  let (major, rest) ← readNumber text.toList
  match rest with
  | [] => return .majorOnly major
  | '.' :: rest =>
    let (minor, rest) ← readNumber rest
    match rest with
    | [] => return .majorMinor major minor
    | '.' :: rest =>
      let (patch, rest) ← readNumber rest
      let (pre, build) ← readSuffix rest
      return .full major minor patch pre build
    | _ => none
  | _ => none

def render (version : Version) : String :=
  let numbers := ".".intercalate (version.numbers.map toString)
  match version with
  | .full _ _ _ pre build =>
    numbers ++ (if pre.isEmpty then "" else "-" ++ ".".intercalate (pre.map Identifier.render)) ++
      (if build.isEmpty then "" else "+" ++ ".".intercalate build)
  | _ => numbers

end Version
end FeatureFlags
