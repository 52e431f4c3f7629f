/-!
# JSON values

A JSON value keeps the kind of its numbers as a reader of 64-bit data sees them: an unsigned
integer below `2 ^ 64`, a negative integer down to `-2 ^ 63`, or a binary64 float. Objects keep
their members in text order, duplicates included; a look-up takes the last member of a name, as a
map built from the members in order would hold it.
-/

set_option autoImplicit false

namespace ZfsReplication

/-- A JSON number as 64-bit data holds it. -/
inductive Json.Number where
  /-- An integer in `[0, 2 ^ 64)`. -/
  | unsigned (n : Nat)
  /-- An integer in `[-2 ^ 63, 0)`. -/
  | signed (i : Int)
  /-- Any other number. -/
  | float (x : Float)

/-- A JSON value. -/
inductive Json where
  | null
  | bool (b : Bool)
  | num (n : Json.Number)
  | str (s : String)
  | arr (items : List Json)
  | obj (members : List (String × Json))

namespace Json

instance : Inhabited Json := ⟨.null⟩

/-- A non-negative integer as a JSON number. -/
def nat (n : Nat) : Json := .num (.unsigned n)

/-- An integer as a JSON number. -/
def int (i : Int) : Json := if i < 0 then .num (.signed i) else .num (.unsigned i.toNat)

/-- The last member named `key` of an object. -/
def field? (j : Json) (key : String) : Option Json :=
  match j with
  | .obj members => (members.reverse.find? (·.1 == key)).map (·.2)
  | _ => none

/-- Entries as a map keyed by strings holds them: sorted by key, the last of equal keys. -/
def lastByKey {α : Type} (entries : List (String × α)) : List (String × α) :=
  let lastOnly := entries.reverse.foldl
    (fun acc m => if acc.any (·.1 == m.1) then acc else m :: acc) []
  lastOnly.mergeSort (fun a b => decide (a.1 ≤ b.1))

/-- The members of an object as a map holds them: sorted by name, the last of equal names. -/
def mapMembers (members : List (String × Json)) : List (String × Json) := lastByKey members

mutual

/-- The value as a document built from maps holds it: every object's members sorted by name, the
last of equal names kept. -/
def normalize : Json → Json
  | .arr items => .arr (normalizeItems items)
  | .obj members => .obj (mapMembers (normalizeMembers members))
  | j => j

/-- Every item normalized. -/
def normalizeItems : List Json → List Json
  | [] => []
  | j :: rest => normalize j :: normalizeItems rest

/-- Every member's value normalized. -/
def normalizeMembers : List (String × Json) → List (String × Json)
  | [] => []
  | (k, v) :: rest => (k, normalize v) :: normalizeMembers rest

end

/-- The string held by `j`, if it is one. -/
def str? : Json → Option String
  | .str s => some s
  | _ => none

/-- The boolean held by `j`, if it is one. -/
def bool? : Json → Option Bool
  | .bool b => some b
  | _ => none

/-- The non-negative integer held by `j`, if it is one. -/
def nat? : Json → Option Nat
  | .num (.unsigned n) => some n
  | _ => none

/-- The integer held by `j`, if it is one. -/
def int? : Json → Option Int
  | .num (.unsigned n) => some n
  | .num (.signed i) => some i
  | _ => none

/-- The items of an array. -/
def arr? : Json → Option (List Json)
  | .arr items => some items
  | _ => none

/-- Whether `j` is `null`. -/
def isNull : Json → Bool
  | .null => true
  | _ => false

end Json

end ZfsReplication
