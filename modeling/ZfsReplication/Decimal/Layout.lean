import ZfsReplication.Decimal.Shortest

/-!
# Laying out a decimal as text

A decimal `digits * 10 ^ exponent` is written either positionally or as a mantissa with one digit
before the point and a power of ten. A `Layout` records the choices a format makes: where positional
notation is used, what follows an integral value, whether a positive exponent carries a sign, and
how a tie between two shortest decimals is broken.
-/

set_option autoImplicit false

namespace ZfsReplication.Decimal

/-- The choices of a number format. The point position of a decimal is the number of its digits
plus its exponent: `12.5` has point position 2, `0.001` has point position -2. -/
structure Layout where
  /-- Positional notation is used when the point position `k` has `lo < k ≤ hi`; `none` means
  always. -/
  window : Option (Int × Int)
  /-- Written after a positional integral value, such as `".0"`. -/
  integralSuffix : String
  /-- Whether a positive exponent is written with `+`. -/
  plusExponent : Bool
  /-- Which of two equally near shortest decimals is written. -/
  tie : Tie

/-- `n` zero digits. -/
def zeros (n : Nat) : List Char := List.replicate n '0'

/-- The decimal `d` with the given sign, laid out by `l`. -/
def Layout.render (l : Layout) (negative : Bool) (d : Scaled) : String :=
  let sign := if negative then "-" else ""
  if d.digits == 0 then sign ++ "0" ++ l.integralSuffix
  else
    let ds := Nat.toDigits 10 d.digits
    let n := ds.length
    let k : Int := (n : Int) + d.exponent
    let positional := match l.window with
      | none => true
      | some (lo, hi) => decide (lo < k) && decide (k ≤ hi)
    if positional then
      if 0 ≤ d.exponent then
        sign ++ String.ofList (ds ++ zeros d.exponent.toNat) ++ l.integralSuffix
      else if 0 < k then
        sign ++ String.ofList (ds.take k.toNat ++ '.' :: ds.drop k.toNat)
      else
        sign ++ "0." ++ String.ofList (zeros (-k).toNat ++ ds)
    else
      let e := k - 1
      let mantissa := match ds with
        | [c] => [c]
        | c :: rest => c :: '.' :: rest
        | [] => []
      let expSign := if e < 0 then "-" else if l.plusExponent then "+" else ""
      sign ++ String.ofList mantissa ++ "e" ++ expSign ++ toString e.natAbs

/-- Whether the sign bit of `x` is set; true for negative zero. -/
def signBit (x : Float) : Bool :=
  x.toBits >>> 63 == 1

/-- The shortest decimal of `x` laid out by `l`; a NaN is `NaN` and an infinity `inf`. -/
def Layout.renderFloat (l : Layout) (x : Float) : String :=
  if x.isNaN then "NaN"
  else if x.isInf then (if signBit x then "-inf" else "inf")
  else l.render (signBit x) (ofFloat l.tie x)

/-- Positional always, an integral value without a point, a tie going to the larger decimal: `1e20`
is `100000000000000000000`, `-0.0` is `-0`. -/
def Layout.plain : Layout := ⟨none, "", false, .up⟩

example : Layout.plain.render false ⟨1, 20⟩ = "100000000000000000000" := by decide
example : Layout.plain.render true ⟨0, 0⟩ = "-0" := by decide
example : Layout.plain.render false ⟨1, -7⟩ = "0.0000001" := by decide
example : Layout.plain.render false ⟨125, -1⟩ = "12.5" := by decide

end ZfsReplication.Decimal
