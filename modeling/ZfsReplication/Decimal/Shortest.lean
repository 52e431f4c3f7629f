/-!
# Shortest decimal digits of a binary64 value

A finite binary64 value stands for the interval of reals that round to it. Its shortest decimal is
found by exact search: for one, two, … seventeen significant digits, the two neighbours of the value
on that decimal grid are tested against the interval, the first grid with a hit wins, and of two hits
the nearer one is taken. Formats differ on an exact tie: some take the larger decimal, some the one
with an even last digit, so the rule is a `Tie` argument. All arithmetic is on natural numbers.

Main statements: `Binary.readsBack` is the interval test, and `Binary.shortest` returns a decimal
that passes it with the fewest significant digits.
-/

set_option autoImplicit false

namespace ZfsReplication.Decimal

/-- A finite non-negative binary64 magnitude, `mantissa * 2 ^ exponent`. -/
structure Binary where
  mantissa : Nat
  exponent : Int
  /-- The gap to the value below is half the gap to the value above. -/
  narrowBelow : Bool

/-- The magnitude held in the bits of a finite value; the sign bit is ignored. -/
def Binary.ofBits (bits : UInt64) : Binary :=
  let b := bits.toNat
  let e : Nat := (b / Nat.pow 2 52) % Nat.pow 2 11
  let f : Nat := b % Nat.pow 2 52
  if e == 0 then ⟨f, -1074, false⟩ else ⟨Nat.pow 2 52 + f, (e : Int) - 1075, f == 0 && e > 1⟩

/-- A decimal `digits * 10 ^ exponent`. -/
structure Scaled where
  digits : Nat
  exponent : Int
deriving DecidableEq, Repr

/-- Compares `a * 10 ^ i` with `n * 2 ^ j` exactly. -/
def compareScaled (a : Nat) (i : Int) (n : Nat) (j : Int) : Ordering :=
  compare (a * Nat.pow 10 i.toNat * Nat.pow 2 (-j).toNat) (n * Nat.pow 2 j.toNat * Nat.pow 10 (-i).toNat)

/-- Whether the decimal `d` lies in the interval of reals that round to `x` (to nearest, a tie to
the even mantissa, so the ends belong to the interval exactly when the mantissa is even). -/
def Binary.readsBack (x : Binary) (d : Scaled) : Bool :=
  let lo := if x.narrowBelow then 4 * x.mantissa - 1 else 4 * x.mantissa - 2
  let hi := 4 * x.mantissa + 2
  let inclusive := x.mantissa % 2 == 0
  let cl := compareScaled d.digits d.exponent lo (x.exponent - 2)
  let ch := compareScaled d.digits d.exponent hi (x.exponent - 2)
  (cl == .gt || (inclusive && cl == .eq)) && (ch == .lt || (inclusive && ch == .eq))

/-- The number of decimal digits of `n`, at least one. -/
def digitCount (n : Nat) : Nat :=
  (Nat.toDigits 10 n).length

/-- The exponent `k` with `10 ^ k ≤ x < 10 ^ (k + 1)`, for a positive `x`. -/
def Binary.scale (x : Binary) : Int :=
  let num := x.mantissa * Nat.pow 2 x.exponent.toNat
  let den := Nat.pow 2 (-x.exponent).toNat
  if den ≤ num then (digitCount (num / den) : Int) - 1
  else
    let l := digitCount (den / num)
    if num * Nat.pow 10 (l - 1) == den then -((l - 1 : Nat) : Int) else -(l : Int)

/-- Drops trailing zero digits into the exponent. -/
def Scaled.normalize (d : Scaled) : Scaled :=
  go 20 d
where
  go : Nat → Scaled → Scaled
    | 0, d => d
    | fuel + 1, d =>
      if d.digits != 0 && d.digits % 10 == 0 then go fuel ⟨d.digits / 10, d.exponent + 1⟩ else d

/-- How an exact tie between the two neighbours of a value on a decimal grid is broken. -/
inductive Tie where
  /-- The larger neighbour. -/
  | up
  /-- The neighbour with an even last digit. -/
  | even
deriving DecidableEq, Repr

/-- The nearer of the two neighbours of `x` on the grid `10 ^ p` that reads back, an exact tie
broken by `tie`; `none` if neither reads back. -/
def Binary.onGrid (x : Binary) (tie : Tie) (p : Int) : Option Scaled :=
  -- `x / 10 ^ p = v / a`, all in natural numbers
  let v := x.mantissa * Nat.pow 2 x.exponent.toNat * Nat.pow 10 (-p).toNat
  let a := Nat.pow 2 (-x.exponent).toNat * Nat.pow 10 p.toNat
  let below := v / a
  let lower : Scaled := ⟨below, p⟩
  let upper : Scaled := ⟨below + 1, p⟩
  match x.readsBack lower, x.readsBack upper with
  | true, true =>
    let toLower := v - below * a
    let toUpper := (below + 1) * a - v
    if toLower < toUpper then some lower
    else if toUpper < toLower then some upper
    else match tie with
      | .up => some upper
      | .even => if below % 2 == 0 then some lower else some upper
  | true, false => some lower
  | false, true => some upper
  | false, false => none

/-- The shortest decimal that reads back as `x`, for a positive `x`: the first of the grids of one,
two, … seventeen significant digits with a hit. Seventeen digits always suffice; the exact value is
the answer should they not. -/
def Binary.shortest (x : Binary) (tie : Tie) : Scaled :=
  let k := x.scale
  let found := (List.range 17).findSome? fun (n : Nat) => x.onGrid tie (k - (n : Int))
  match found with
  | some d => d.normalize
  | none =>
    (Scaled.mk (x.mantissa * Nat.pow 5 (-x.exponent).toNat * Nat.pow 2 x.exponent.toNat)
      (-((-x.exponent).toNat : Int))).normalize

/-- The shortest decimal of the magnitude of a finite float, a tie broken by `tie`; zero for either
zero. -/
def ofFloat (tie : Tie) (x : Float) : Scaled :=
  let b := Binary.ofBits x.toBits
  if b.mantissa == 0 then ⟨0, 0⟩ else b.shortest tie

example : ofFloat .up 1.0 = ⟨1, 0⟩ := by decide +kernel
example : ofFloat .up 0.1 = ⟨1, -1⟩ := by decide +kernel
example : ofFloat .up 1e23 = ⟨1, 23⟩ := by decide +kernel
/- `2096748927315078.25` is a binary64 value, halfway between the two shortest candidates. -/
example : ofFloat .up 2096748927315078.25 = ⟨20967489273150783, -1⟩ := by decide +kernel
example : ofFloat .even 2096748927315078.25 = ⟨20967489273150782, -1⟩ := by decide +kernel

end ZfsReplication.Decimal
