import ZfsReplication.Decimal.Shortest

/-!
# The nearest binary64 value

A non-negative fraction is rounded to the binary64 value nearest to it, an exact tie going to the
even significand; beyond the largest finite value it rounds to infinity, below the smallest normal
value to a subnormal or zero. All arithmetic is on natural numbers, and the result is given by its
bits.

Two readings of a decimal `m * 10 ^ e` rest on it:

* `nearestDecimal` rounds the exact value once;
* `twoStep` first rounds `m`, then multiplies or divides by the rounded power `10 ^ |e|`, rounding
  the exact product or quotient once more, as fast JSON readers do. The two agree whenever `m` and
  the power are exact in binary64, and may differ in the last bit otherwise.
-/

set_option autoImplicit false

namespace ZfsReplication.Decimal

/-- The exponent `k` of the leading bit of `num / den`, so that `2 ^ k ≤ num / den < 2 ^ (k + 1)`,
for positive `num` and `den`. -/
def leadingBit (num den : Nat) : Int :=
  -- `num / den` lies in `[2 ^ (k - 1), 2 ^ (k + 1))` for this first estimate
  let k : Int := (Nat.log2 num : Int) - (Nat.log2 den : Int)
  if num * Nat.pow 2 (-k).toNat ≥ den * Nat.pow 2 k.toNat then k else k - 1

/-- The bits of positive infinity. -/
def infinityBits : UInt64 := 0x7FF0000000000000

/-- The bits of the binary64 value nearest to `num / den`; zero when either is zero. -/
def nearestBits (num den : Nat) : UInt64 :=
  if num == 0 || den == 0 then 0
  else
    -- the significand's unit, `2 ^ q`, is at least the subnormal unit `2 ^ -1074`
    let q : Int := max (leadingBit num den - 52) (-1074)
    let n := num * Nat.pow 2 (-q).toNat
    let d := den * Nat.pow 2 q.toNat
    let s := n / d
    let r := n % d
    let s := if 2 * r > d || (2 * r == d && s % 2 == 1) then s + 1 else s
    -- rounding up may reach the next binade
    let (s, q) := if s == Nat.pow 2 53 then (Nat.pow 2 52, q + 1) else (s, q)
    if q > 971 then infinityBits
    else if s < Nat.pow 2 52 then s.toUInt64
    else ((q + 1075).toNat * Nat.pow 2 52 + (s - Nat.pow 2 52)).toUInt64

/-- The binary64 value nearest to `num / den`. -/
def nearest (num den : Nat) : Float := Float.ofBits (nearestBits num den)

/-- The exact value of a finite magnitude as a fraction. -/
def Binary.fraction (x : Binary) : Nat × Nat :=
  (x.mantissa * Nat.pow 2 x.exponent.toNat, Nat.pow 2 (-x.exponent).toNat)

/-- The binary64 value nearest to `m * 10 ^ e`. Exponents far beyond the range give an infinity or
a zero without computing the power. -/
def nearestDecimal (m : Nat) (e : Int) : Float :=
  if m == 0 then 0.0
  else
    let point := (digitCount m : Int) + e
    if point > 310 then Float.ofBits infinityBits
    else if point < -400 then 0.0
    else nearest (m * Nat.pow 10 e.toNat) (Nat.pow 10 (-e).toNat)

/-- The product (`up`) or quotient of the finite magnitudes in the bits `a` and `b`, rounded. -/
def scaleBits (up : Bool) (a b : UInt64) : UInt64 :=
  let (an, ad) := (Binary.ofBits a).fraction
  let (bn, bd) := (Binary.ofBits b).fraction
  if up then nearestBits (an * bn) (ad * bd) else nearestBits (an * bd) (ad * bn)

/-- `10 ^ k` rounded to binary64. -/
def powerBits (k : Nat) : UInt64 := nearestBits (Nat.pow 10 k) 1

/-- The two-step value of `m * 10 ^ e`: `m` rounded, then multiplied or divided by `10 ^ |e|`
rounded, for `|e| ≤ 308`. A smaller exponent first divides by `10 ^ 308` until it is in range or the
value is zero, which takes at most three divisions; a larger one gives `none` unless the value is
zero. A product beyond the finite range gives `none` too. -/
def twoStep (m : Nat) (e : Int) : Option Float :=
  go 4 (nearestBits m 1) e
where
  go : Nat → UInt64 → Int → Option Float
    | 0, _, _ => some 0.0
    | fuel + 1, f, e =>
      if e.natAbs ≤ 308 then
        let r := scaleBits (0 ≤ e) f (powerBits e.natAbs)
        if r == infinityBits then none else some (Float.ofBits r)
      else if f == 0 then some 0.0
      else if 0 < e then none
      else go fuel (scaleBits false f (powerBits 308)) (e + 308)

example : nearestBits 1 1 = 0x3FF0000000000000 := by decide +kernel
example : nearestBits 1 10 = 0x3FB999999999999A := by decide +kernel
example : nearestBits 1 (2 ^ 1075) = 0 := by decide +kernel
example : nearestBits 3 (2 ^ 1076) = 1 := by decide +kernel

end ZfsReplication.Decimal
