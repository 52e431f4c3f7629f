/-!
# Chains of named items

A chain is a list of items with names, oldest first, such as the snapshots of one dataset. Two
chains of the same history are aligned by name into one list of positions, each present on side
`a`, side `b` or both. From an alignment, the views used for planning are read off: the items of
one side newer than everything on the other (`disjointHead`), older than everything on the other
(`disjointTail`), and the oldest items of one side that the other side holds too (`overlapTail`).

An alignment only exists when both chains are free of repeated names and overlap as two windows of
one history; `AlignmentError` says which of these fails first.
-/

set_option autoImplicit false

namespace ZfsReplication

/-- Things with a name by which chains are aligned. -/
class Named (α : Type) where
  name : α → String

instance : Named String := ⟨id⟩

/-- One aligned position: present on side `a`, side `b`, or both. -/
inductive Paired (α : Type) where
  | onlyA (x : α)
  | onlyB (y : α)
  | both (x y : α)
deriving Repr

namespace Paired

variable {α : Type}

/-- The position from its two sides; `none` if both are absent. -/
def ofPair? : Option α → Option α → Option (Paired α)
  | some x, some y => some (.both x y)
  | some x, none => some (.onlyA x)
  | none, some y => some (.onlyB y)
  | none, none => none

/-- The item on side `a`. -/
def a? : Paired α → Option α
  | .onlyA x | .both x _ => some x
  | .onlyB _ => none

/-- The item on side `b`. -/
def b? : Paired α → Option α
  | .onlyB y | .both _ y => some y
  | .onlyA _ => none

/-- Whether both sides are present. -/
def isBoth : Paired α → Bool
  | .both _ _ => true
  | _ => false

/-- Whichever item is present, side `a` first. -/
def item : Paired α → α
  | .onlyA x | .both x _ | .onlyB x => x

/-- The position seen from the other side. -/
def swap : Paired α → Paired α
  | .onlyA x => .onlyB x
  | .onlyB y => .onlyA y
  | .both x y => .both y x

end Paired

/-- Why two chains, or a chain and its counterpart, cannot be reconciled. -/
inductive AlignmentError where
  | noOverlap (a b : String)
  | gap (after : String)
  | nameMismatch (a b : String)
  | missingAnchor (name : String)
  | headMismatch (name : String)
  | overlapMismatch (name : String)
  | duplicateName (name : String)
  | notConsecutive
deriving DecidableEq, Repr

/-- The text of an alignment error. -/
def AlignmentError.message : AlignmentError → String
  | .noOverlap a b =>
    "no common snapshot, chains start at `" ++ a ++ "` and `" ++ b ++ "`: history has diverged"
  | .gap after => "gap in snapshot series after `" ++ after ++ "`"
  | .nameMismatch a b => "inconsistent snapshot names: `" ++ a ++ "` aligned with `" ++ b ++ "`"
  | .missingAnchor name =>
    "last element `" ++ name ++ "` of the other side is not part of this side"
  | .headMismatch name =>
    "no clean match between the other side and the head of this side at `" ++ name ++ "`"
  | .overlapMismatch name => "no clean match in overlap area starting at `" ++ name ++ "`"
  | .duplicateName name => "duplicate name `" ++ name ++ "`"
  | .notConsecutive => "sequence is not consecutive"

namespace Chain

variable {α : Type} [Named α]

/-- The position of the first item named `n`. -/
def findName (xs : List α) (n : String) : Option Nat :=
  xs.findIdx? fun x => Named.name x == n

/-- The names of a chain. -/
def names (xs : List α) : List String := xs.map Named.name

/-- The first name that occurs a second time, at its second occurrence. -/
def firstRepeat? (xs : List α) : Option String :=
  go [] xs
where
  go (seen : List String) : List α → Option String
    | [] => none
    | x :: rest => if seen.contains (Named.name x) then some (Named.name x)
      else go (Named.name x :: seen) rest

/-- Fails with the first repeated name. -/
def checkUnique (xs : List α) : Except AlignmentError Unit :=
  match firstRepeat? xs with
  | some n => .error (.duplicateName n)
  | none => .ok ()

/-- Succeeds when the present items form one block: absent items, then present ones, then absent
ones. Otherwise fails with a gap after the last item of the first block. -/
def checkSingleRun (xs : List (Option α)) : Except AlignmentError Unit :=
  go xs false 0 ""
where
  go : List (Option α) → Bool → Nat → String → Except AlignmentError Unit
    | [], _, _, _ => .ok ()
    | x :: rest, present, changes, last =>
      let changes := if x.isSome != present then changes + 1 else changes
      if changes > 2 then .error (.gap last)
      else go rest x.isSome changes (match x with
        | some v => Named.name v
        | none => last)

/-- The items of `xs` between its first and last present item, all of which must be present. -/
def consecutive (xs : List (Option α)) : Except AlignmentError (List α) :=
  let inner := ((xs.dropWhile Option.isNone).reverse.dropWhile Option.isNone).reverse
  inner.mapM fun x => match x with
    | some v => .ok v
    | none => .error .notConsecutive

/-- Whether two chains have the same names in the same order. -/
def sameNames (xs ys : List α) : Bool := names xs == names ys

/-- Aligns two chains by name. Fails on a repeated name (in `as` first), on chains neither of
whose first names occurs in the other, on a gap in either padded side, and at the first position
where both sides hold different names or neither side holds anything. -/
def align (as bs : List α) : Except AlignmentError (List (Paired α)) := do
  checkUnique as
  checkUnique bs
  match as, bs with
  | [], [] => pure []
  | [], _ => pure (bs.map .onlyB)
  | _, [] => pure (as.map .onlyA)
  | a0 :: _, b0 :: _ =>
    let startB := findName as (Named.name b0)
    let startA := findName bs (Named.name a0)
    if startA.isNone && startB.isNone then
      throw (.noOverlap (Named.name a0) (Named.name b0))
    let paddedA := List.replicate (startA.getD 0) none ++ as.map some
    let paddedB := List.replicate (startB.getD 0) none ++ bs.map some
    let len := max paddedA.length paddedB.length
    let paddedA := paddedA ++ List.replicate (len - paddedA.length) none
    let paddedB := paddedB ++ List.replicate (len - paddedB.length) none
    checkSingleRun paddedA
    checkSingleRun paddedB
    (paddedA.zip paddedB).mapM fun (x, y) =>
      match Paired.ofPair? x y with
      | some (.both x y) =>
        if Named.name x == Named.name y then .ok (.both x y)
        else .error (.nameMismatch (Named.name x) (Named.name y))
      | some p => .ok p
      | none => .error .notConsecutive

/-- The items of `source` newer than the newest item of `target`: after the item named like
`target`'s last, provided the items of `target` and of `source` up to there end alike. -/
def disjointHead (source target : List (Option α)) : Except AlignmentError (List α) := do
  let source ← consecutive source
  let target ← consecutive target
  checkUnique source
  checkUnique target
  match target.getLast? with
  | none => pure source
  | some anchor =>
    if source.isEmpty then pure source
    else
      match findName source (Named.name anchor) with
      | none => throw (.missingAnchor (Named.name anchor))
      | some i =>
        let old := source.take (i + 1)
        let matched :=
          if old.length ≤ target.length then sameNames (target.drop (target.length - old.length)) old
          else sameNames target (old.drop (old.length - target.length))
        if matched then pure (source.drop (i + 1))
        else throw (.headMismatch (Named.name anchor))

/-- The items of `source` older than the oldest item of `target`: `disjointHead` of the reversed
chains, reversed. -/
def disjointTail (source target : List (Option α)) : Except AlignmentError (List α) :=
  (disjointHead source.reverse target.reverse).map List.reverse

/-- The oldest items of `source` whose names `target` holds too, which must stand in `target` as
one block in the same order. -/
def overlapTail (source target : List (Option α)) : Except AlignmentError (List α) := do
  let source ← consecutive source
  let target ← consecutive target
  if source.isEmpty || target.isEmpty then pure []
  else
    checkUnique source
    checkUnique target
    let targetNames := names target
    let overlap := source.takeWhile fun x => targetNames.contains (Named.name x)
    match overlap with
    | [] => pure []
    | first :: _ =>
      let matched := match findName target (Named.name first) with
        | some i =>
          let block := (target.drop i).take overlap.length
          block.length == overlap.length && sameNames block overlap
        | none => false
      if matched then pure overlap else throw (.overlapMismatch (Named.name first))

/-- A chain with unmarked items folded into the next marked one. -/
structure Squashed (α : Type) where
  /-- The marked items, in order. -/
  kept : List α
  /-- Per kept name, the unmarked items right before it; no entry for none. -/
  intermediates : List (String × List α)
  /-- The unmarked items after the last marked one. -/
  trailing : List α

/-- Folds the unmarked items of a chain into the next marked item. A later kept item of a name
replaces the entry of an earlier one. -/
def squash (isMarked : α → Bool) (xs : List α) : Squashed α :=
  xs.foldl (fun s x =>
    if isMarked x then
      let entries :=
        if s.trailing.isEmpty then s.intermediates
        else s.intermediates.filter (·.1 != Named.name x) ++ [(Named.name x, s.trailing)]
      { kept := s.kept ++ [x], intermediates := entries, trailing := [] }
    else { s with trailing := s.trailing ++ [x] })
    { kept := [], intermediates := [], trailing := [] }

end Chain

end ZfsReplication
