import FeatureFlags.Json.Numeral

/-!
JSON text as a tree. The grammar is the strict one: no trailing text, no trailing comma, no raw
control character in a string. Strings with unpaired surrogates and numbers out of range are
grammatical; they only fail when their value is asked for, so a reader may skip them.
-/

namespace FeatureFlags.Json

/-- JSON text as written: members in order, with repetitions, and numbers as literals. -/
inductive Document where
  | null
  | bool (value : Bool)
  | number (literal : Numeral)
  /-- A string, or nothing if it has an unpaired surrogate. -/
  | string (value : Option String)
  | array (items : List Document)
  | object (members : List (Option String × Document))

namespace Document

def isBlank (c : Char) : Bool := c = ' ' || c = '\t' || c = '\n' || c = '\r'

def skipBlanks (text : List Char) : List Char := text.dropWhile isBlank

def spanMinus : List Char → Bool × List Char
  | '-' :: rest => (true, rest)
  | rest => (false, rest)

/-- The digits of the whole part: a zero alone, or digits that begin with another one. -/
def readWhole (text : List Char) : Option (List Char × List Char) :=
  let (whole, rest) := spanDigits text
  if whole = ['0'] ∨ whole.head?.any (· ≠ '0') then some (whole, rest) else none

/-- The digits behind a point, if there is a point. -/
def readFraction : List Char → Option (List Char × List Char)
  | '.' :: rest =>
    let (fraction, rest) := spanDigits rest
    if fraction.isEmpty then none else some (fraction, rest)
  | rest => some ([], rest)

/-- The number behind an exponent mark, if there is a mark. -/
def readExponent : List Char → Option (Option Int × List Char)
  | [] => some (none, [])
  | mark :: rest =>
    if mark = 'e' ∨ mark = 'E' then
      let (minus, rest) := spanSign rest
      let (digits, rest) := spanDigits rest
      if digits.isEmpty then none
      else some (some (if minus then -(ofDigits digits : Int) else ofDigits digits), rest)
    else some (none, mark :: rest)

def readNumeral (text : List Char) : Option (Numeral × List Char) := do
  let (negative, rest) := spanMinus text
  let (whole, rest) ← readWhole rest
  let (fraction, rest) ← readFraction rest
  let (exponent, rest) ← readExponent rest
  return ({ negative, whole, fraction, exponent }, rest)

/-- A character of a string, or a 16-bit unit that is written as an escape. -/
inductive StringPart where
  | char (c : Char)
  | unit (code : Nat)

def hexValue? (c : Char) : Option Nat :=
  if c.isDigit then some (c.toNat - '0'.toNat)
  else if 'a' ≤ c ∧ c ≤ 'f' then some (c.toNat - 'a'.toNat + 10)
  else if 'A' ≤ c ∧ c ≤ 'F' then some (c.toNat - 'A'.toNat + 10)
  else none

def unit? (a b c d : Char) : Option Nat := do
  return (((← hexValue? a) * 16 + (← hexValue? b)) * 16 + (← hexValue? c)) * 16 + (← hexValue? d)

/-- What a backslash before this character stands for. -/
def unescape? : Char → Option Char
  | '"' => some '"'
  | '\\' => some '\\'
  | '/' => some '/'
  | 'b' => some '\x08'
  | 'f' => some '\x0c'
  | 'n' => some '\n'
  | 'r' => some '\r'
  | 't' => some '\t'
  | _ => none

/-- The parts of a string up to its closing quote, the last one first, and the text behind it. -/
def readParts (done : List StringPart) : List Char → Option (List StringPart × List Char)
  | '"' :: rest => some (done, rest)
  | '\\' :: 'u' :: a :: b :: c :: d :: rest =>
    match unit? a b c d with
    | some code => readParts (.unit code :: done) rest
    | none => none
  | '\\' :: mark :: rest =>
    match unescape? mark with
    | some c => readParts (.char c :: done) rest
    | none => none
  | c :: rest => if c.toNat < 0x20 then none else readParts (.char c :: done) rest
  | [] => none

/-- Put the characters of reversed parts in front of `tail`. A low surrogate has to follow a high
one, and a high one has to be followed. -/
def joinParts (tail : List Char) : List StringPart → Option (List Char)
  | [] => some tail
  | .char c :: parts => joinParts (c :: tail) parts
  | .unit low :: .unit high :: parts =>
    if 0xdc00 ≤ low ∧ low < 0xe000 then
      if 0xd800 ≤ high ∧ high < 0xdc00 then
        joinParts (Char.ofNat (0x10000 + (high - 0xd800) * 0x400 + (low - 0xdc00)) :: tail) parts
      else none
    else if 0xd800 ≤ low ∧ low < 0xdc00 then none
    else joinParts (Char.ofNat low :: tail) (.unit high :: parts)
  | .unit code :: parts =>
    if 0xd800 ≤ code ∧ code < 0xe000 then none
    else joinParts (Char.ofNat code :: tail) parts

def readString (text : List Char) : Option (Option String × List Char) :=
  (readParts [] text).map fun (parts, rest) => ((joinParts [] parts).map String.ofList, rest)

mutual

def readValue : Nat → List Char → Option (Document × List Char)
  | 0, _ => none
  | fuel + 1, text =>
    match skipBlanks text with
    | 'n' :: 'u' :: 'l' :: 'l' :: rest => some (.null, rest)
    | 't' :: 'r' :: 'u' :: 'e' :: rest => some (.bool true, rest)
    | 'f' :: 'a' :: 'l' :: 's' :: 'e' :: rest => some (.bool false, rest)
    | '"' :: rest => (readString rest).map fun (value, rest) => (.string value, rest)
    | '[' :: rest =>
      match skipBlanks rest with
      | ']' :: rest => some (.array [], rest)
      | rest => readItems fuel [] rest
    | '\x7b' :: rest =>
      match skipBlanks rest with
      | '\x7d' :: rest => some (.object [], rest)
      | rest => readMembers fuel [] rest
    | text => (readNumeral text).map fun (literal, rest) => (.number literal, rest)

/-- The items of an array behind those read so far, the last of them first. -/
def readItems : Nat → List Document → List Char → Option (Document × List Char)
  | 0, _, _ => none
  | fuel + 1, done, text => do
    let (item, rest) ← readValue fuel text
    match skipBlanks rest with
    | ',' :: rest => readItems fuel (item :: done) rest
    | ']' :: rest => some (.array (item :: done).reverse, rest)
    | _ => none

/-- The members of an object behind those read so far, the last of them first. -/
def readMembers : Nat → List (Option String × Document) → List Char →
    Option (Document × List Char)
  | 0, _, _ => none
  | fuel + 1, done, text =>
    match skipBlanks text with
    | '"' :: rest => do
      let (key, rest) ← readString rest
      match skipBlanks rest with
      | ':' :: rest =>
        let (value, rest) ← readValue fuel rest
        match skipBlanks rest with
        | ',' :: rest => readMembers fuel ((key, value) :: done) rest
        | '\x7d' :: rest => some (.object ((key, value) :: done).reverse, rest)
        | _ => none
      | _ => none
    | _ => none

end

/-- The tree of a text. An opening bracket takes two steps and every other step has a character of
its own, so the fuel suffices. -/
def read (text : String) : Option Document := do
  let characters := text.toList
  let (document, rest) ← readValue (2 * characters.length + 2) characters
  guard (skipBlanks rest).isEmpty
  return document

mutual

/-- The value of a tree with at most `room` levels of arrays and objects. Of members with the same
key the last one counts. -/
def toJson? (room : Nat) : Document → Option Json
  | .null => some .null
  | .bool value => some (.bool value)
  | .number literal => literal.value?.map .number
  | .string value => value.map .string
  | .array items =>
    match room with
    | 0 => none
    | room + 1 => (itemsToJson? room items).map .array
  | .object members =>
    match room with
    | 0 => none
    | room + 1 => (membersToJson? room members).map ofMembers

def itemsToJson? (room : Nat) : List Document → Option (List Json)
  | [] => some []
  | item :: items => do
    let value ← toJson? room item
    return value :: (← itemsToJson? room items)

def membersToJson? (room : Nat) :
    List (Option String × Document) → Option (List (String × Json))
  | [] => some []
  | (key, member) :: members => do
    let key ← key
    let value ← toJson? room member
    return (key, value) :: (← membersToJson? room members)

end

end Document

def maxDepth : Nat := 127

def read (text : String) : Option Json :=
  (Document.read text).bind (·.toJson? maxDepth)

end FeatureFlags.Json
