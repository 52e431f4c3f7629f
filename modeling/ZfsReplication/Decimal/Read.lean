import ZfsReplication.Decimal.Nearest

/-!
# Reading numbers from text

Unsigned and signed integers in decimal, with the four ways such a reading fails, and decimal
floating-point texts rounded to the nearest binary64 value.
-/

set_option autoImplicit false

namespace ZfsReplication.Decimal

/-- Why a text is not an integer of the wanted width. -/
inductive IntegerError where
  | empty
  | invalidDigit
  | tooLarge
  | tooSmall
deriving DecidableEq, Repr

/-- The standard wording of an integer reading failure. -/
def IntegerError.message : IntegerError → String
  | .empty => "cannot parse integer from empty string"
  | .invalidDigit => "invalid digit found in string"
  | .tooLarge => "number too large to fit in target type"
  | .tooSmall => "number too small to fit in target type"

/-- The value of an ASCII decimal digit. -/
def digitValue (c : Char) : Option Nat :=
  if c.isDigit then some (c.toNat - '0'.toNat) else none

/-- Accumulates decimal digits from the left, failing at the first character that is no digit or
as soon as the value exceeds `limit`; the failure for exceeding is `overflow`. -/
def accumulate (limit : Nat) (overflow : IntegerError) : Nat → List Char → Except IntegerError Nat
  | acc, [] => .ok acc
  | acc, c :: rest =>
    match digitValue c with
    | none => .error .invalidDigit
    | some d =>
      let next := acc * 10 + d
      if next > limit then .error overflow else accumulate limit overflow next rest

/-- Reads an unsigned integer at most `limit`: an optional `+`, then decimal digits only. -/
def readUnsigned (limit : Nat) (s : List Char) : Except IntegerError Nat :=
  match s with
  | [] => .error .empty
  | ['+'] | ['-'] => .error .invalidDigit
  | '+' :: rest => accumulate limit .tooLarge 0 rest
  | _ => accumulate limit .tooLarge 0 s

/-- Reads a signed integer in `[-(limit + 1), limit]`: an optional sign, then decimal digits. -/
def readSigned (limit : Nat) (s : List Char) : Except IntegerError Int :=
  match s with
  | [] => .error .empty
  | ['+'] | ['-'] => .error .invalidDigit
  | '-' :: rest => (accumulate (limit + 1) .tooSmall 0 rest).map fun n => -(n : Int)
  | '+' :: rest => (accumulate limit .tooLarge 0 rest).map fun n => (n : Int)
  | _ => (accumulate limit .tooLarge 0 s).map fun n => (n : Int)

/-- The largest value of an unsigned 64-bit word. -/
def maxUnsigned64 : Nat := Nat.pow 2 64 - 1

/-- The largest value of a signed 64-bit word. -/
def maxSigned64 : Nat := Nat.pow 2 63 - 1

/-- The value of a digit string, read as a natural number. -/
def digitsValue (ds : List Char) : Nat :=
  ds.foldl (fun acc c => acc * 10 + (c.toNat - '0'.toNat)) 0

/-- The binary64 value nearest to `m * 10 ^ e`, with the given sign. -/
def nearestFloat (negative : Bool) (m : Nat) (e : Int) : Float :=
  let magnitude := nearestDecimal m e
  if negative then -magnitude else magnitude

/-- Whether `cs` spells `word` in any letter case. -/
def spellsIgnoringCase (cs : List Char) (word : String) : Bool :=
  cs.map Char.toLower == word.toList

/-- Reads a decimal floating-point text: an optional sign, then `inf`, `infinity` or `nan` in any
letter case, or digits with an optional point and an optional exponent `e` or `E` with an optional
sign, at least one digit before the exponent. `5.` and `.5` are texts of this form, `e5`, `1e` and
`1_0` are not. -/
def readFloat (s : List Char) : Option Float :=
  let (negative, body) := match s with
    | '-' :: rest => (true, rest)
    | '+' :: rest => (false, rest)
    | _ => (false, s)
  if spellsIgnoringCase body "inf" || spellsIgnoringCase body "infinity" then
    some (if negative then -(1.0 / 0.0) else 1.0 / 0.0)
  else if spellsIgnoringCase body "nan" then some (0.0 / 0.0)
  else
    let whole := body.takeWhile Char.isDigit
    let afterWhole := body.dropWhile Char.isDigit
    let (fraction, afterFraction) := match afterWhole with
      | '.' :: rest => (rest.takeWhile Char.isDigit, rest.dropWhile Char.isDigit)
      | _ => ([], afterWhole)
    if whole.isEmpty && fraction.isEmpty then none
    else
      let exponent : Option Int := match afterFraction with
        | [] => some 0
        | c :: rest =>
          if c == 'e' || c == 'E' then
            let (expNegative, digits) := match rest with
              | '-' :: ds => (true, ds)
              | '+' :: ds => (false, ds)
              | ds => (false, ds)
            if digits.isEmpty || !digits.all Char.isDigit then none
            else
              let v := (digitsValue digits : Int)
              some (if expNegative then -v else v)
          else none
      exponent.map fun e =>
        nearestFloat negative (digitsValue (whole ++ fraction)) (e - (fraction.length : Int))

example : readUnsigned maxUnsigned64 "+5".toList = .ok 5 := by rfl
example : readUnsigned maxUnsigned64 "18446744073709551616".toList = .error .tooLarge := by rfl
example : readUnsigned maxUnsigned64 "".toList = .error .empty := by rfl

end ZfsReplication.Decimal
