import FeatureFlags.Json.Basic
import FeatureFlags.Decimal.Layout

/-!
Compact JSON text, without blanks. Strings keep all characters but quotes, backslashes and control
characters, which are escaped.
-/

namespace FeatureFlags.Json

/-- Doubles are written positionally from `0.00001` up to sixteen digits before the point, always
with a fraction. -/
def decimalFormat : DecimalFormat :=
  { positional := fun exponent => -5 ≤ exponent && exponent ≤ 15 }

private def hexDigit (n : Nat) : Char := (Nat.digitChar n)

def escapeChar : Char → List Char
  | '"' => ['\\', '"']
  | '\\' => ['\\', '\\']
  | '\x08' => ['\\', 'b']
  | '\x0c' => ['\\', 'f']
  | '\n' => ['\\', 'n']
  | '\r' => ['\\', 'r']
  | '\t' => ['\\', 't']
  | c =>
    if c.toNat < 0x20 then ['\\', 'u', '0', '0', hexDigit (c.toNat / 16), hexDigit (c.toNat % 16)]
    else [c]

def renderString (text : String) : String :=
  String.ofList ('"' :: text.toList.flatMap escapeChar ++ ['"'])

def Number.render : Number → String
  | .integer n => toString n
  | .real x => decimalFormat.write x

mutual

def render : Json → String
  | .null => "null"
  | .bool value => if value then "true" else "false"
  | .number value => value.render
  | .string value => renderString value
  | .array items => "[" ++ ",".intercalate (renderItems items) ++ "]"
  | .object members => "\x7b" ++ ",".intercalate (renderMembers members) ++ "\x7d"

def renderItems : List Json → List String
  | [] => []
  | item :: items => render item :: renderItems items

def renderMembers : List (String × Json) → List String
  | [] => []
  | (key, value) :: members => (renderString key ++ ":" ++ render value) :: renderMembers members

end

end FeatureFlags.Json
