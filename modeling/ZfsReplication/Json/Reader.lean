import ZfsReplication.Json.Value
import ZfsReplication.Decimal.Read

/-!
# Reading JSON text

A strict reader of RFC 8259 text. Strings refuse raw control characters and unpaired surrogates.
An integer keeps its integer kind while it fits 64 bits and becomes a float otherwise, as does
`-0`; a number with a fraction or an exponent is a float, and one beyond the float range is refused.
Containers nest at most 127 deep.

A float is read the way fast 64-bit readers do: its significand takes digits while it stays below
`2 ^ 64`, further digits before the point only raise the power of ten and further digits after it
are dropped, and the value is then found in two rounding steps (`Decimal.twoStep`).
-/

set_option autoImplicit false

namespace ZfsReplication.Json

open Decimal

/-- JSON whitespace. -/
def isSpace (c : Char) : Bool :=
  c == ' ' || c == '\t' || c == '\n' || c == '\r'

/-- The value of a hexadecimal digit. -/
def hexValue (c : Char) : Option Nat :=
  if c.isDigit then some (c.toNat - '0'.toNat)
  else if 'a' ≤ c && c ≤ 'f' then some (c.toNat - 'a'.toNat + 10)
  else if 'A' ≤ c && c ≤ 'F' then some (c.toNat - 'A'.toNat + 10)
  else none

/-- Four hexadecimal digits and what follows them. -/
def readHex4 : List Char → Option (Nat × List Char)
  | a :: b :: c :: d :: rest => do
    let a ← hexValue a
    let b ← hexValue b
    let c ← hexValue c
    let d ← hexValue d
    some (((a * 16 + b) * 16 + c) * 16 + d, rest)
  | _ => none

/-- The character of a `\u` escape, after the `\u`: a surrogate pair counts as one. -/
def readUnicodeEscape (cs : List Char) : Option (Char × List Char) := do
  let (hi, rest) ← readHex4 cs
  if 0xD800 ≤ hi && hi < 0xDC00 then
    match rest with
    | '\\' :: 'u' :: more =>
      let (lo, rest') ← readHex4 more
      if 0xDC00 ≤ lo && lo < 0xE000 then
        some (Char.ofNat (0x10000 + (hi - 0xD800) * 0x400 + (lo - 0xDC00)), rest')
      else none
    | _ => none
  else if 0xDC00 ≤ hi && hi < 0xE000 then none
  else some (Char.ofNat hi, rest)

/-- The body of a string after its opening quote, up to and without the closing quote. -/
def readStringBody : List Char → List Char → Option (String × List Char)
  | _, [] => none
  | acc, '"' :: rest => some (String.ofList acc.reverse, rest)
  | acc, '\\' :: c :: rest =>
    match c with
    | '"' => readStringBody ('"' :: acc) rest
    | '\\' => readStringBody ('\\' :: acc) rest
    | '/' => readStringBody ('/' :: acc) rest
    | 'b' => readStringBody ('\x08' :: acc) rest
    | 'f' => readStringBody ('\x0c' :: acc) rest
    | 'n' => readStringBody ('\n' :: acc) rest
    | 'r' => readStringBody ('\r' :: acc) rest
    | 't' => readStringBody ('\t' :: acc) rest
    | 'u' =>
      match readUnicodeEscape rest with
      | some (ch, rest') =>
        -- the escape consumed at least four characters, so the rest is shorter
        if rest'.length < rest.length then readStringBody (ch :: acc) rest' else none
      | none => none
    | _ => none
  | acc, c :: rest => if c.toNat < 0x20 then none else readStringBody (c :: acc) rest
termination_by _ cs => cs.length

/-- Takes decimal digits into `acc` while it stays below `2 ^ 64`; the value, and how many digits
were left over at the first that would not fit. -/
def takeDigits : Nat → List Char → Nat × Nat
  | acc, [] => (acc, 0)
  | acc, c :: rest =>
    let next := acc * 10 + (c.toNat - '0'.toNat)
    if next > maxUnsigned64 then (acc, rest.length + 1) else takeDigits next rest

/-- The significand kept of the digits before and after the point, and the power of ten it stands
for: digits left over before the point each raise the power, those left over after it are dropped. -/
def significandOf (whole frac : List Char) : Nat × Int :=
  let (m, skipped) := takeDigits 0 whole
  let (m, leftover) := takeDigits m frac
  (m, (skipped : Int) - ((frac.length - leftover : Nat) : Int))

/-- The number at the front of `cs`, and what follows it. -/
def readNumber (cs : List Char) : Option (Number × List Char) :=
  let (negative, body) := match cs with
    | '-' :: rest => (true, rest)
    | _ => (false, cs)
  let whole := body.takeWhile Char.isDigit
  let afterWhole := body.dropWhile Char.isDigit
  let leadingZero := match whole with
    | '0' :: _ :: _ => true
    | _ => false
  if whole.isEmpty || leadingZero then none
  else
    let fraction : Option (List Char × List Char) := match afterWhole with
      | '.' :: rest =>
        let ds := rest.takeWhile Char.isDigit
        if ds.isEmpty then none else some (ds, rest.dropWhile Char.isDigit)
      | _ => some ([], afterWhole)
    match fraction with
    | none => none
    | some (frac, afterFraction) =>
      let exponent : Option (Bool × Int × List Char) := match afterFraction with
        | c :: rest =>
          if c == 'e' || c == 'E' then
            let (expNegative, more) := match rest with
              | '-' :: ds => (true, ds)
              | '+' :: ds => (false, ds)
              | ds => (false, ds)
            let ds := more.takeWhile Char.isDigit
            if ds.isEmpty then none
            else
              let v := (digitsValue ds : Int)
              some (true, (if expNegative then -v else v), more.dropWhile Char.isDigit)
          else some (false, 0, afterFraction)
        | [] => some (false, 0, [])
      match exponent with
      | none => none
      | some (hasExponent, e, rest) =>
        let (m, scale) := significandOf whole frac
        let float (x : Float) : Number := .float (if negative then -x else x)
        if frac.isEmpty && !hasExponent && scale == 0 then
          if !negative then some (.unsigned m, rest)
          else if 0 < m && m ≤ maxSigned64 + 1 then some (.signed (-(m : Int)), rest)
          else some (float (nearest m 1), rest)
        else (twoStep m (scale + e)).map fun x => (float x, rest)

/-- `cs` without leading whitespace. -/
def skipSpace (cs : List Char) : List Char := cs.dropWhile isSpace

/-- Whether `word` starts `cs`, and the rest after it. -/
def dropWord (word : List Char) (cs : List Char) : Option (List Char) :=
  if word.isPrefixOf cs then some (cs.drop word.length) else none

mutual

/-- A value after optional whitespace, with at most `depth - 1` further levels of nesting. Each
call spends one unit of `fuel`. -/
def readValue : Nat → Nat → List Char → Option (Json × List Char)
  | 0, _, _ => none
  | fuel + 1, depth, cs =>
    match skipSpace cs with
    | 'n' :: _ => (dropWord "null".toList (skipSpace cs)).map fun r => (.null, r)
    | 't' :: _ => (dropWord "true".toList (skipSpace cs)).map fun r => (.bool true, r)
    | 'f' :: _ => (dropWord "false".toList (skipSpace cs)).map fun r => (.bool false, r)
    | '"' :: rest => (readStringBody [] rest).map fun (s, r) => (.str s, r)
    | '[' :: rest =>
      if depth ≤ 1 then none
      else
        match skipSpace rest with
        | ']' :: r => some (.arr [], r)
        | _ => readItems fuel (depth - 1) [] rest
    | '{' :: rest =>
      if depth ≤ 1 then none
      else
        match skipSpace rest with
        | '}' :: r => some (.obj [], r)
        | _ => readMembers fuel (depth - 1) [] rest
    | c :: _ =>
      if c == '-' || c.isDigit then
        (readNumber (skipSpace cs)).map fun (n, r) => (.num n, r)
      else none
    | [] => none

/-- The items of an array after its opening bracket or a comma, and what follows the closing
bracket. -/
def readItems : Nat → Nat → List Json → List Char → Option (Json × List Char)
  | 0, _, _, _ => none
  | fuel + 1, depth, acc, cs =>
    match readValue fuel depth cs with
    | none => none
    | some (v, rest) =>
      match skipSpace rest with
      | ',' :: more => readItems fuel depth (v :: acc) more
      | ']' :: more => some (.arr (v :: acc).reverse, more)
      | _ => none

/-- The members of an object after its opening brace or a comma, and what follows the closing
brace. -/
def readMembers : Nat → Nat → List (String × Json) → List Char → Option (Json × List Char)
  | 0, _, _, _ => none
  | fuel + 1, depth, acc, cs =>
    match skipSpace cs with
    | '"' :: rest =>
      match readStringBody [] rest with
      | none => none
      | some (key, afterKey) =>
        match skipSpace afterKey with
        | ':' :: afterColon =>
          match readValue fuel depth afterColon with
          | none => none
          | some (v, afterValue) =>
            match skipSpace afterValue with
            | ',' :: more => readMembers fuel depth ((key, v) :: acc) more
            | '}' :: more => some (.obj ((key, v) :: acc).reverse, more)
            | _ => none
        | _ => none
    | _ => none

end

/-- Reads a whole JSON text: one value with optional whitespace around it. -/
def read (text : String) : Option Json :=
  let cs := text.toList
  match readValue (2 * cs.length + 2) 128 cs with
  | some (v, rest) => if (skipSpace rest).isEmpty then some v else none
  | none => none

end ZfsReplication.Json
