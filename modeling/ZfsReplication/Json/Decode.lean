import ZfsReplication.Json.Value
import ZfsReplication.Json.Writer
import ZfsReplication.Text.Unicode

/-!
# Decoding records from JSON values

Sets of strings, kept sorted and without repetitions by their type, and typed decoding of JSON
values with the usual wording of its failures: a value of the wrong kind, a number out of range, an
array of the wrong length, an unknown or a missing field. A record is read from an object, whose
members are taken as a map (sorted, the last of equal names), or from an array holding its fields
in order.
-/

set_option autoImplicit false

namespace ZfsReplication

/-- A set of strings as an ordered set holds it: sorted, without repetitions. -/
structure StringSet where
  names : List String
  sorted : names.Pairwise (· < ·)

namespace StringSet

instance : DecidableEq StringSet := fun a b =>
  decidable_of_iff (a.names = b.names) (by
    cases a; cases b
    exact ⟨fun same => by cases same; rfl, fun same => by cases same; rfl⟩)

instance : Repr StringSet := ⟨fun s prec => reprPrec s.names prec⟩

/-- The set without members. -/
def empty : StringSet := ⟨[], .nil⟩

instance : EmptyCollection StringSet := ⟨empty⟩

/-- Whether `name` is a member. -/
def contains (s : StringSet) (name : String) : Bool := s.names.contains name

/-- The items of `items` in order, each once, at its first occurrence. -/
def distinct (items : List String) : List String :=
  items.foldl (fun acc s => if acc.contains s then acc else acc ++ [s]) []

theorem nodup_foldl_distinct (items acc : List String) (unique : acc.Nodup) :
    (items.foldl (fun acc s => if acc.contains s then acc else acc ++ [s]) acc).Nodup := by
  induction items generalizing acc with
  | nil => exact unique
  | cons item rest ih =>
    rw [List.foldl_cons]
    apply ih
    by_cases seen : acc.contains item = true
    · rw [if_pos seen]
      exact unique
    · rw [if_neg seen]
      have fresh : item ∉ acc := fun member => seen (List.contains_iff_mem.2 member)
      exact List.nodup_append.2 ⟨unique, List.nodup_cons.2 ⟨List.not_mem_nil, List.nodup_nil⟩,
        fun a inAcc b inItem => by
          rw [List.mem_singleton] at inItem
          exact fun same => fresh (inItem ▸ same ▸ inAcc)⟩

/-- The items sorted by the order of strings, each once. -/
def sortDistinct (items : List String) : List String :=
  (distinct items).mergeSort fun a b => decide (a ≤ b)

theorem sorted_sortDistinct (items : List String) : (sortDistinct items).Pairwise (· < ·) := by
  have ordered : (sortDistinct items).Pairwise fun a b => decide (a ≤ b) = true :=
    List.pairwise_mergeSort
      (fun a b c ab bc => by
        simp only [decide_eq_true_eq] at ab bc ⊢
        exact String.le_trans ab bc)
      (fun a b => by
        rw [Bool.or_eq_true, decide_eq_true_eq, decide_eq_true_eq]
        exact String.le_total a b) _
  have unique : (sortDistinct items).Nodup :=
    (List.mergeSort_perm _ _).nodup_iff.2 (nodup_foldl_distinct items [] List.nodup_nil)
  refine (ordered.and unique).imp fun ⟨le, ne⟩ => ?_
  simp only [decide_eq_true_eq] at le
  exact Decidable.byContradiction fun notLT =>
    ne (String.le_antisymm le (String.not_lt.1 notLT))

/-- The set of the strings of `items`. -/
def ofList (items : List String) : StringSet := ⟨sortDistinct items, sorted_sortDistinct items⟩

end StringSet

end ZfsReplication

namespace ZfsReplication.Json

/-- What was found where something else was expected. -/
inductive Found where
  | null
  | bool (b : Bool)
  | unsigned (n : Nat)
  | signed (i : Int)
  | float (x : Float)
  | string (s : String)
  | sequence
  | map

/-- The character `c` inside a quoted string of a message, escaped as a debugging view shows it. -/
def debugEscape (c : Char) : List Char :=
  match c with
  | '"' => ['\\', '"']
  | '\\' => ['\\', '\\']
  | '\n' => ['\\', 'n']
  | '\r' => ['\\', 'r']
  | '\t' => ['\\', 't']
  | '\x00' => ['\\', '0']
  | c =>
    if Text.needsCodeEscape c then "\\u\x7b".toList ++ (Nat.toDigits 16 c.toNat) ++ ['\x7d']
    else [c]

/-- The description of what was found. -/
def Found.describe : Found → String
  | .null => "null"
  | .bool b => "boolean `" ++ (if b then "true" else "false") ++ "`"
  | .unsigned n => "integer `" ++ toString n ++ "`"
  | .signed i => "integer `" ++ toString i ++ "`"
  | .float x => "floating point `" ++ floatLayout.renderFloat x ++ "`"
  | .string s => "string \"" ++ String.ofList (s.toList.flatMap debugEscape) ++ "\""
  | .sequence => "sequence"
  | .map => "map"

/-- What a value is, for messages. -/
def found : Json → Found
  | .null => .null
  | .bool b => .bool b
  | .num (.unsigned n) => .unsigned n
  | .num (.signed i) => .signed i
  | .num (.float x) => .float x
  | .str s => .string s
  | .arr _ => .sequence
  | .obj _ => .map

/-- Why a value could not be decoded. -/
inductive DecodeError where
  | invalidType (found : Found) (expected : String)
  | invalidValue (found : Found) (expected : String)
  | invalidLength (length : Nat) (expected : String)
  | unknownField (field : String) (expected : List String)
  | missingField (field : String)
  | custom (message : String)

/-- Backquoted names in a sentence: `` `a` ``, `` `a` or `b` ``, `` one of `a`, `b`, `c` ``. -/
def expectedNames : List String → String
  | [] => "there are no fields"
  | [a] => "expected `" ++ a ++ "`"
  | [a, b] => "expected `" ++ a ++ "` or `" ++ b ++ "`"
  | names => "expected one of " ++ ", ".intercalate (names.map fun n => "`" ++ n ++ "`")

/-- The text of a decoding failure. -/
def DecodeError.message : DecodeError → String
  | .invalidType f e => "invalid type: " ++ f.describe ++ ", expected " ++ e
  | .invalidValue f e => "invalid value: " ++ f.describe ++ ", expected " ++ e
  | .invalidLength n e => "invalid length " ++ toString n ++ ", expected " ++ e
  | .unknownField f names => "unknown field `" ++ f ++ "`, " ++ expectedNames names
  | .missingField f => "missing field `" ++ f ++ "`"
  | .custom m => m

/-- A decoder of values of type `α`. -/
abbrev Decoder (α : Type) := Json → Except DecodeError α

/-- A boolean. -/
def decodeBool : Decoder Bool
  | .bool b => .ok b
  | j => .error (.invalidType (found j) "a boolean")

/-- A string. -/
def decodeString : Decoder String
  | .str s => .ok s
  | j => .error (.invalidType (found j) "a string")

/-- A non-negative integer at most `limit`, named `kind` in messages (such as `u16`). -/
def decodeUnsigned (limit : Nat) (kind : String) : Decoder Nat
  | .num (.unsigned n) => if n ≤ limit then .ok n else .error (.invalidValue (.unsigned n) kind)
  | .num (.signed i) => .error (.invalidValue (.signed i) kind)
  | j => .error (.invalidType (found j) kind)

/-- A signed 64-bit integer. -/
def decodeSigned64 : Decoder Int
  | .num (.unsigned n) =>
    if n < Nat.pow 2 63 then .ok n else .error (.invalidValue (.unsigned n) "i64")
  | .num (.signed i) => .ok i
  | j => .error (.invalidType (found j) "i64")

/-- An optional value: `null` is none. -/
def decodeOption {α : Type} (d : Decoder α) : Decoder (Option α)
  | .null => .ok none
  | j => (d j).map some

/-- The items of an array, each decoded by `d`, stopping at the first failure. -/
def decodeList {α : Type} (d : Decoder α) : Decoder (List α)
  | .arr items => items.mapM d
  | j => .error (.invalidType (found j) "a sequence")

/-- A set of strings, from an array of strings in any order and with any repetitions. -/
def decodeStringSet : Decoder StringSet := fun j => do
  let items ← decodeList decodeString j
  pure (StringSet.ofList items)

/-- A field of a record: its name and whether it may be left out. -/
structure FieldSpec where
  name : String
  optional : Bool

/-- Decodes the present fields of a record against `check`, which decodes one field's value and
forgets the result. From an object every member must name a field, checked in map order, and every
field that may not be left out must be present; from an array the items fill the fields in order,
and items beyond the fields are refused unless `extraItems` allows them, when they are ignored.
The answer lists the present fields with their values. -/
def recordFields (extraItems : Bool) (record : String) (fields : List FieldSpec)
    (check : String → Json → Except DecodeError Unit) (j : Json) :
    Except DecodeError (List (String × Json)) :=
  match j with
  | .obj members => do
    let entries := mapMembers members
    for (k, v) in entries do
      if fields.any (·.name == k) then check k v
      else throw (.unknownField k (fields.map (·.name)))
    for f in fields do
      if !f.optional && !entries.any (·.1 == f.name) then throw (.missingField f.name)
    pure entries
  | .arr items => do
    let expected := "struct " ++ record ++ " with " ++ toString fields.length ++ " elements"
    let mut present : List (String × Json) := []
    for (f, i) in fields.zipIdx do
      match items[i]? with
      | some v => check f.name v; present := present ++ [(f.name, v)]
      | none => if !f.optional then throw (.invalidLength i expected)
    if !extraItems && items.length > fields.length then
      throw (.invalidLength items.length "fewer elements in array")
    pure present
  | j => .error (.invalidType (found j) ("struct " ++ record))

/-- The value of field `name` decoded by `d`, or `default` when the field is absent. -/
def fieldOr {α : Type} (present : List (String × Json)) (name : String) (d : Decoder α)
    (default : α) : Except DecodeError α :=
  match present.lookup name with
  | some v => d v
  | none => .ok default

end ZfsReplication.Json
