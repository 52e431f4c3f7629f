/-!
# Similar words

When a word on the command line is not one the grammar knows, the error suggests the known words
that are close to it. Closeness is the Jaro similarity of the two character sequences: characters
match when equal and at most `max (|a|, |b|) / 2 - 1` positions apart (each character of `b`
matching at most once, the first free one winning), and the score is
`(m / |a| + m / |b| + (m - t) / m) / 3` for `m` matches and `t` half the number of matched pairs
that appear in a different order. A word is suggested when its score exceeds `0.7`.

Scores are kept as exact fractions, so comparing them needs no rounding.
-/

set_option autoImplicit false

namespace ZfsReplication.Cli

/-- A Jaro score as the fraction `numerator / denominator`. -/
structure Score where
  numerator : Nat
  denominator : Nat
deriving DecidableEq, Repr

namespace Score

/-- Whether `s` is at most `t`, compared as fractions. -/
def le (s t : Score) : Bool := s.numerator * t.denominator ≤ t.numerator * s.denominator

/-- Whether the score is high enough for a suggestion, that is above `7 / 10`. -/
def suggests (s : Score) : Bool := 7 * s.denominator < 10 * s.numerator

end Score

/-- The first position in `positions` where `b` holds `c` and no earlier match took it. -/
def freeMatch (b : Array Char) (taken : Array Bool) (c : Char) (positions : List Nat) :
    Option Nat :=
  positions.find? fun j => b[j]? == some c && taken[j]? == some false

/-- Match the characters of `a`, from position `i` on, against `b` inside the window `range`,
returning which positions of `a` and of `b` matched. -/
def matchFlags (b : Array Char) (range : Nat) :
    List Char → Nat → List Bool → Array Bool → List Bool × Array Bool
  | [], _, aFlags, taken => (aFlags.reverse, taken)
  | c :: rest, i, aFlags, taken =>
    let lo := i - range
    let hi := min b.size (i + range + 1)
    match freeMatch b taken c (List.range' lo (hi - lo)) with
    | some j => matchFlags b range rest (i + 1) (true :: aFlags) (taken.set! j true)
    | none => matchFlags b range rest (i + 1) (false :: aFlags) taken

/-- The characters of `xs` whose flag is set, in order. -/
def selected (xs : List Char) (flags : List Bool) : List Char :=
  (xs.zip flags).filterMap fun (c, keep) => if keep then some c else none

/-- The Jaro similarity of `a` and `b`. -/
def jaro (a b : String) : Score :=
  let xs := a.toList
  let ys := b.toList
  if xs.isEmpty && ys.isEmpty then ⟨1, 1⟩
  else if xs.isEmpty || ys.isEmpty then ⟨0, 1⟩
  else
    let range := max xs.length ys.length / 2 - 1
    let (aFlags, taken) := matchFlags ys.toArray range xs 0 [] (Array.replicate ys.length false)
    let fromA := selected xs aFlags
    let fromB := selected ys taken.toList
    let m := fromA.length
    let t := ((fromA.zip fromB).filter fun (c, d) => c != d).length / 2
    if m = 0 then ⟨0, 1⟩
    else
      let la := xs.length
      let lb := ys.length
      ⟨m * m * lb + m * m * la + (m - t) * la * lb, 3 * la * lb * m⟩

/-- The candidates similar enough to `word`, from the least to the most similar; candidates with
equal scores keep their order. -/
def similar (word : String) (candidates : List String) : List String :=
  let scored := (candidates.map fun c => (jaro word c, c)).filter fun (s, _) => s.suggests
  (scored.mergeSort fun x y => x.1.le y.1).map (·.2)

/-- The most similar candidate, if any is similar enough. -/
def mostSimilar (word : String) (candidates : List String) : Option String :=
  (similar word candidates).getLast?

example : similar "snp" ["tree", "snap", "backup"] = ["snap"] := by decide +kernel
example : similar "middle" ["source", "target"] = [] := by decide +kernel
example : similar "Target" ["source", "target"] = ["target"] := by decide +kernel
example : similar "side" ["verbose", "help"] = [] := by decide +kernel

end ZfsReplication.Cli
