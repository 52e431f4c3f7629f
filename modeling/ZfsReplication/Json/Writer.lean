import ZfsReplication.Json.Value
import ZfsReplication.Decimal.Layout

/-!
# Writing JSON text

Compact text: no whitespace between tokens, members in the order held. In strings the quote, the
backslash and the control characters are escaped, the five with short escapes by those and the
others as `\u00xx` in lower-case hex; all other characters are written as they are. A float is
written with its shortest digits, positionally while its point position lies in `(-5, 16]` and with
a signed exponent otherwise, and an integral float keeps `.0`.
-/

set_option autoImplicit false

namespace ZfsReplication.Json

open Decimal

/-- Floats in JSON text: positional with at most 16 digits before the point and at most four zeros
after it, otherwise a mantissa and a signed exponent: `1.5`, `100.0`, `1e+20`, `1e-7`,
`1.5e+300`. Of two equally near shortest decimals the one with an even last digit is written. -/
def floatLayout : Layout := ⟨some (-5, 16), ".0", true, .even⟩

/-- The lower-case hex digit of `n < 16`. -/
def hexDigit (n : Nat) : Char :=
  if n < 10 then Char.ofNat ('0'.toNat + n) else Char.ofNat ('a'.toNat + n - 10)

/-- One character of a string body, escaped as needed. -/
def escapeChar (c : Char) : List Char :=
  match c with
  | '"' => ['\\', '"']
  | '\\' => ['\\', '\\']
  | '\n' => ['\\', 'n']
  | '\r' => ['\\', 'r']
  | '\t' => ['\\', 't']
  | '\x08' => ['\\', 'b']
  | '\x0c' => ['\\', 'f']
  | c =>
    if c.toNat < 0x20 then ['\\', 'u', '0', '0', hexDigit (c.toNat / 16), hexDigit (c.toNat % 16)]
    else [c]

/-- A string as a quoted JSON string. -/
def quote (s : String) : String :=
  "\"" ++ String.ofList (s.toList.flatMap escapeChar) ++ "\""

/-- The text of a number; a float that is not finite is written `null`. -/
def Number.render : Number → String
  | .unsigned n => toString n
  | .signed i => toString i
  | .float x => if x.isNaN || x.isInf then "null" else floatLayout.renderFloat x

mutual

/-- The compact text of a value. -/
def render : Json → String
  | .null => "null"
  | .bool b => if b then "true" else "false"
  | .num n => n.render
  | .str s => quote s
  | .arr items => "[" ++ renderItems items ++ "]"
  | .obj members => "\x7b" ++ renderMembers members ++ "\x7d"

/-- Array items separated by commas. -/
def renderItems : List Json → String
  | [] => ""
  | [j] => render j
  | j :: rest => render j ++ "," ++ renderItems rest

/-- Object members separated by commas. -/
def renderMembers : List (String × Json) → String
  | [] => ""
  | [(k, v)] => quote k ++ ":" ++ render v
  | (k, v) :: rest => quote k ++ ":" ++ render v ++ "," ++ renderMembers rest

end

example : floatLayout.render false ⟨1, 20⟩ = "1e+20" := by decide
example : floatLayout.render false ⟨1234, 30⟩ = "1.234e+33" := by decide
example : floatLayout.render false ⟨1, 15⟩ = "1000000000000000.0" := by decide
example : floatLayout.render false ⟨1234, -8⟩ = "0.00001234" := by decide
example : floatLayout.render false ⟨1234, -9⟩ = "1.234e-6" := by decide
example : floatLayout.render false ⟨1, -7⟩ = "1e-7" := by decide
example : floatLayout.render false ⟨15, -1⟩ = "1.5" := by decide
example : floatLayout.render false ⟨3, 0⟩ = "3.0" := by decide

end ZfsReplication.Json
