import ZfsReplication.Json.Value

/-!
# TOML documents and reading them

The values of a configuration document, and a reader of TOML 1.0 documents whose values are strings, integers, booleans, arrays and tables.
Floats and date-times have no place in a configuration, so the reader refuses them.

Tables are built by the rules of the format: a header defines a table once, the tables on its path
exist implicitly until their own header comes; a dotted key creates and extends tables of its own,
which no header may define afterwards; an inline table and an array given as a value are closed to
later additions; an array of tables grows by one table per header, and later headers below it
extend its last table.
-/

set_option autoImplicit false

/-!
## TOML values

The values a configuration document holds: strings, 64-bit integers, booleans, arrays and tables.
A table keeps its keys in document order.
-/

namespace ZfsReplication.Toml

/-- A TOML value of a configuration document. -/
inductive Value where
  | str (s : String)
  | int (i : Int)
  | bool (b : Bool)
  | arr (items : List Value)
  | table (entries : List (String × Value))

instance : Inhabited Value := ⟨.bool false⟩

/-- Characters of a bare key: ASCII letters and digits, `_` and `-`. -/
def isBareKeyChar (c : Char) : Bool := c.isAlphanum || c == '_' || c == '-'

mutual

/-- The same value as JSON: a table becomes an object. -/
def Value.toJson : Value → Json
  | .str s => .str s
  | .int i => Json.int i
  | .bool b => .bool b
  | .arr items => .arr (Value.itemsToJson items)
  | .table entries => .obj (Value.entriesToJson entries)

/-- Array items as JSON. -/
def Value.itemsToJson : List Value → List Json
  | [] => []
  | v :: rest => v.toJson :: Value.itemsToJson rest

/-- Table entries as JSON members. -/
def Value.entriesToJson : List (String × Value) → List (String × Json)
  | [] => []
  | (k, v) :: rest => (k, v.toJson) :: Value.entriesToJson rest

end

end ZfsReplication.Toml

namespace ZfsReplication.Toml

/-- A table under construction, with how it came to exist. -/
inductive Node where
  /-- A value given with `=`, closed to additions. -/
  | value (v : Value)
  /-- A table; `implicit` while no header of its own defined it, `dotted` if a dotted key made it. -/
  | table (implicit dotted : Bool) (entries : List (String × Node))
  /-- An array of tables, one per `[[...]]` header. -/
  | tables (items : List (List (String × Node)))

instance : Inhabited Node := ⟨.value default⟩

mutual

/-- The finished value of a node. -/
def Node.toValue : Node → Value
  | .value v => v
  | .table _ _ entries => .table (Node.entriesToValue entries)
  | .tables items => .arr (Node.tablesToValue items)

/-- Finished table entries. -/
def Node.entriesToValue : List (String × Node) → List (String × Value)
  | [] => []
  | (k, n) :: rest => (k, n.toValue) :: Node.entriesToValue rest

/-- Finished tables of an array. -/
def Node.tablesToValue : List (List (String × Node)) → List Value
  | [] => []
  | t :: rest => .table (Node.entriesToValue t) :: Node.tablesToValue rest

end

/-- Entries with the node of `key` set: replaced in place, or added at the end. -/
def setEntry (entries : List (String × Node)) (key : String) (n : Node) : List (String × Node) :=
  if entries.any (·.1 == key) then entries.map fun e => if e.1 == key then (key, n) else e
  else entries ++ [(key, n)]

/-- Applies `f` to the last table of an array of tables. -/
def updateLast (items : List (List (String × Node)))
    (f : List (String × Node) → Option (List (String × Node))) :
    Option (List (List (String × Node))) :=
  match items.getLast? with
  | some last => (f last).map fun last' => items.dropLast ++ [last']
  | none => none

/-- Opens the table (or, with `isArray`, a new table of the array of tables) named by a header
path below `entries`. -/
def openHeader (isArray : Bool) : List String → List (String × Node) →
    Option (List (String × Node))
  | [], _ => none
  | [key], entries =>
    match entries.lookup key, isArray with
    | none, false => some (setEntry entries key (.table false false []))
    | none, true => some (setEntry entries key (.tables [[]]))
    | some (.table true false sub), false => some (setEntry entries key (.table false false sub))
    | some (.tables items), true => some (setEntry entries key (.tables (items ++ [[]])))
    | _, _ => none
  | key :: rest, entries =>
    match entries.lookup key with
    | none => (openHeader isArray rest []).map fun sub => setEntry entries key (.table true false sub)
    | some (.table i d sub) =>
      (openHeader isArray rest sub).map fun sub' => setEntry entries key (.table i d sub')
    | some (.tables items) =>
      (updateLast items (openHeader isArray rest)).map fun items' =>
        setEntry entries key (.tables items')
    | some (.value _) => none

/-- Applies `f` to the table that a header path names; arrays of tables lead to their last table. -/
def atTable (f : List (String × Node) → Option (List (String × Node))) :
    List String → List (String × Node) → Option (List (String × Node))
  | [], entries => f entries
  | key :: rest, entries =>
    match entries.lookup key with
    | some (.table i d sub) => (atTable f rest sub).map fun sub' => setEntry entries key (.table i d sub')
    | some (.tables items) =>
      (updateLast items (atTable f rest)).map fun items' => setEntry entries key (.tables items')
    | _ => none

/-- Adds `keys = v` to a table. The tables along a dotted key are created, or must be implicit;
the table receiving the last key must be one that dotted keys made, unless the key has no dots
(`receives` tells which holds for `entries`). -/
def insertKey (v : Value) : List String → Bool → List (String × Node) →
    Option (List (String × Node))
  | [], _, _ => none
  | [key], receives, entries =>
    if !receives || (entries.lookup key).isSome then none else some (entries ++ [(key, .value v)])
  | key :: rest, _, entries =>
    match entries.lookup key with
    | none => (insertKey v rest true []).map fun sub => setEntry entries key (.table true true sub)
    | some (.table i d sub) =>
      if !i then none
      else (insertKey v rest d sub).map fun sub' => setEntry entries key (.table i d sub')
    | some (.tables items) =>
      (updateLast items (insertKey v rest false)).map fun items' =>
        setEntry entries key (.tables items')
    | some (.value _) => none

/-! ## Characters -/

/-- Space or tab. -/
def isSpace (c : Char) : Bool := c == ' ' || c == '\t'

/-- Control characters other than tab, which no comment or string may hold as they are. -/
def isControl (c : Char) : Bool := (c.toNat < 0x20 && c != '\t') || c.toNat == 0x7f

/-- `cs` without leading spaces and tabs. -/
def skipSpace (cs : List Char) : List Char := cs.dropWhile isSpace

/-- The rest of a comment after `#`, up to the end of its line (kept). -/
def skipCommentBody : List Char → Option (List Char)
  | [] => some []
  | '\n' :: rest => some ('\n' :: rest)
  | '\r' :: '\n' :: rest => some ('\r' :: '\n' :: rest)
  | c :: rest => if isControl c then none else skipCommentBody rest

mutual

/-- Skips spaces, newlines and comments, as between the items of an array. -/
def skipGaps : List Char → Option (List Char)
  | ' ' :: rest => skipGaps rest
  | '\t' :: rest => skipGaps rest
  | '\n' :: rest => skipGaps rest
  | '\r' :: '\n' :: rest => skipGaps rest
  | '#' :: rest => skipGapsInComment rest
  | cs => some cs

/-- Skips the rest of a comment, then further gaps. -/
def skipGapsInComment : List Char → Option (List Char)
  | [] => some []
  | '\n' :: rest => skipGaps rest
  | '\r' :: '\n' :: rest => skipGaps rest
  | c :: rest => if isControl c then none else skipGapsInComment rest

end

/-- The end of a line after a key-value pair or header: spaces, an optional comment, then a
newline or the end of the text. Answers what follows the newline. -/
def lineEnd (cs : List Char) : Option (List Char) := do
  let cs := skipSpace cs
  let cs ← match cs with
    | '#' :: rest => skipCommentBody rest
    | _ => some cs
  match cs with
  | [] => some []
  | '\n' :: rest => some rest
  | '\r' :: '\n' :: rest => some rest
  | _ => none

/-- `cs` without one leading newline, if it starts with one. -/
def dropNewline : List Char → List Char
  | '\n' :: rest => rest
  | '\r' :: '\n' :: rest => rest
  | cs => cs

/-- Spaces, tabs and newlines skipped after a line-ending backslash. -/
def skipBlankLines : List Char → List Char
  | ' ' :: rest => skipBlankLines rest
  | '\t' :: rest => skipBlankLines rest
  | '\n' :: rest => skipBlankLines rest
  | '\r' :: '\n' :: rest => skipBlankLines rest
  | cs => cs

/-! ## Strings -/

/-- The value of a hexadecimal digit. -/
def hexValue (c : Char) : Option Nat :=
  if c.isDigit then some (c.toNat - '0'.toNat)
  else if 'a' ≤ c && c ≤ 'f' then some (c.toNat - 'a'.toNat + 10)
  else if 'A' ≤ c && c ≤ 'F' then some (c.toNat - 'A'.toNat + 10)
  else none

/-- `n` hexadecimal digits as a number, and what follows them. -/
def readHex : Nat → Nat → List Char → Option (Nat × List Char)
  | 0, acc, cs => some (acc, cs)
  | n + 1, acc, c :: rest => (hexValue c).bind fun d => readHex n (acc * 16 + d) rest
  | _ + 1, _, [] => none

/-- The character with code point `n`, if `n` is a Unicode scalar value. -/
def scalar? (n : Nat) : Option Char :=
  if n < 0xD800 || (0xE000 ≤ n && n ≤ 0x10FFFF) then some (Char.ofNat n) else none

/-- An escape sequence after its backslash. -/
def readEscape : List Char → Option (Char × List Char)
  | 'b' :: rest => some ('\x08', rest)
  | 't' :: rest => some ('\t', rest)
  | 'n' :: rest => some ('\n', rest)
  | 'f' :: rest => some ('\x0c', rest)
  | 'r' :: rest => some ('\r', rest)
  | '"' :: rest => some ('"', rest)
  | '\\' :: rest => some ('\\', rest)
  | 'u' :: rest => (readHex 4 0 rest).bind fun (n, r) => (scalar? n).map fun c => (c, r)
  | 'U' :: rest => (readHex 8 0 rest).bind fun (n, r) => (scalar? n).map fun c => (c, r)
  | _ => none

/-- The body of a basic string after its opening quote; `acc` holds the characters so far, last
first. Each step spends one unit of fuel. -/
def readBasic : Nat → List Char → List Char → Option (String × List Char)
  | 0, _, _ => none
  | _ + 1, acc, '"' :: rest => some (String.ofList acc.reverse, rest)
  | fuel + 1, acc, '\\' :: rest =>
    (readEscape rest).bind fun (c, r) => readBasic fuel (c :: acc) r
  | fuel + 1, acc, c :: rest => if isControl c then none else readBasic fuel (c :: acc) rest
  | _ + 1, _, [] => none

/-- The body of a literal string after its opening quote. -/
def readLiteral : List Char → List Char → Option (String × List Char)
  | acc, '\'' :: rest => some (String.ofList acc.reverse, rest)
  | acc, c :: rest => if isControl c then none else readLiteral (c :: acc) rest
  | _, [] => none

/-- The end of a multi-line string at a run of `n ≥ 3` delimiters: up to two of them belong to
the body. -/
def closeRun (q : Char) (n : Nat) (acc : List Char) (rest : List Char) :
    Option (String × List Char) :=
  if n ≤ 5 then some (String.ofList (List.replicate (n - 3) q ++ acc).reverse, rest) else none

/-- The body of a multi-line basic string after its opening delimiter and first newline. -/
def readMultiBasic : Nat → List Char → List Char → Option (String × List Char)
  | 0, _, _ => none
  | fuel + 1, acc, '"' :: rest =>
    let n := 1 + (rest.takeWhile (· == '"')).length
    let after := rest.dropWhile (· == '"')
    if n < 3 then readMultiBasic fuel (List.replicate n '"' ++ acc) after
    else closeRun '"' n acc after
  | fuel + 1, acc, '\\' :: rest =>
    match skipSpace rest with
    | '\n' :: _ => readMultiBasic fuel acc (skipBlankLines (skipSpace rest))
    | '\r' :: '\n' :: _ => readMultiBasic fuel acc (skipBlankLines (skipSpace rest))
    | _ => (readEscape rest).bind fun (c, r) => readMultiBasic fuel (c :: acc) r
  | fuel + 1, acc, '\r' :: '\n' :: rest => readMultiBasic fuel ('\n' :: acc) rest
  | fuel + 1, acc, '\n' :: rest => readMultiBasic fuel ('\n' :: acc) rest
  | fuel + 1, acc, c :: rest => if isControl c then none else readMultiBasic fuel (c :: acc) rest
  | _ + 1, _, [] => none

/-- The body of a multi-line literal string after its opening delimiter and first newline. -/
def readMultiLiteral : Nat → List Char → List Char → Option (String × List Char)
  | 0, _, _ => none
  | fuel + 1, acc, '\'' :: rest =>
    let n := 1 + (rest.takeWhile (· == '\'')).length
    let after := rest.dropWhile (· == '\'')
    if n < 3 then readMultiLiteral fuel (List.replicate n '\'' ++ acc) after
    else closeRun '\'' n acc after
  | fuel + 1, acc, '\r' :: '\n' :: rest => readMultiLiteral fuel ('\n' :: acc) rest
  | fuel + 1, acc, '\n' :: rest => readMultiLiteral fuel ('\n' :: acc) rest
  | fuel + 1, acc, c :: rest => if isControl c then none else readMultiLiteral fuel (c :: acc) rest
  | _ + 1, _, [] => none

/-! ## Keys and values -/

/-- One part of a key: bare, basic-quoted or literal-quoted. -/
def readSimpleKey (fuel : Nat) : List Char → Option (String × List Char)
  | '"' :: rest => readBasic fuel [] rest
  | '\'' :: rest => readLiteral [] rest
  | cs =>
    let k := cs.takeWhile isBareKeyChar
    if k.isEmpty then none else some (String.ofList k, cs.dropWhile isBareKeyChar)

/-- A possibly dotted key, with spaces allowed around the dots. -/
def readKey : Nat → List Char → Option (List String × List Char)
  | 0, _ => none
  | fuel + 1, cs => do
    let (k, rest) ← readSimpleKey fuel cs
    match skipSpace rest with
    | '.' :: more =>
      let (ks, r) ← readKey fuel (skipSpace more)
      pure (k :: ks, r)
    | _ => pure ([k], rest)

/-- Characters that may occur in a number or date-time token. -/
def isNumberChar (c : Char) : Bool :=
  c.isAlphanum || c == '_' || c == '+' || c == '-' || c == '.' || c == ':'

/-- The value of digits in base `b`, each underscore standing between two digits. -/
def radixValue (b : Nat) (cs : List Char) : Option Nat :=
  let digit (c : Char) : Option Nat := (hexValue c).bind fun d => if d < b then some d else none
  let rec go : List Char → Bool → Nat → Option Nat
    | [], afterDigit, acc => if afterDigit then some acc else none
    | '_' :: rest, afterDigit, acc => if afterDigit then go rest false acc else none
    | c :: rest, _, acc => (digit c).bind fun d => go rest true (acc * b + d)
  match cs with
  | [] => none
  | '_' :: _ => none
  | _ => go cs false 0

/-- An integer token: decimal with an optional sign and no leading zero, or hexadecimal, octal or
binary after `0x`, `0o`, `0b`, in the signed 64-bit range. -/
def integerValue (tok : List Char) : Option Int :=
  let inRange (i : Int) : Option Int := if -(Int.pow 2 63 : Int) ≤ i && i < Int.pow 2 63 then some i else none
  let decimal (ds : List Char) : Option Nat :=
    match ds with
    | '0' :: _ :: _ => none
    | _ => radixValue 10 ds
  match tok with
  | '0' :: 'x' :: ds => (radixValue 16 ds).bind fun n => inRange n
  | '0' :: 'o' :: ds => (radixValue 8 ds).bind fun n => inRange n
  | '0' :: 'b' :: ds => (radixValue 2 ds).bind fun n => inRange n
  | '+' :: ds => (decimal ds).bind fun n => inRange n
  | '-' :: ds => (decimal ds).bind fun n => inRange (-(n : Int))
  | ds => (decimal ds).bind fun n => inRange n

mutual

/-- A value at the front of `cs`. -/
def readValue : Nat → List Char → Option (Value × List Char)
  | 0, _ => none
  | fuel + 1, cs =>
    match cs with
    | '"' :: '"' :: '"' :: rest =>
      (readMultiBasic fuel [] (dropNewline rest)).map fun (s, r) => (.str s, r)
    | '"' :: rest => (readBasic fuel [] rest).map fun (s, r) => (.str s, r)
    | '\'' :: '\'' :: '\'' :: rest =>
      (readMultiLiteral fuel [] (dropNewline rest)).map fun (s, r) => (.str s, r)
    | '\'' :: rest => (readLiteral [] rest).map fun (s, r) => (.str s, r)
    | '[' :: rest => readArray fuel [] rest
    | '{' :: rest =>
      match skipSpace rest with
      | '}' :: r => some (.table [], r)
      | r => readInline fuel [] r
    | 't' :: 'r' :: 'u' :: 'e' :: rest => some (.bool true, rest)
    | 'f' :: 'a' :: 'l' :: 's' :: 'e' :: rest => some (.bool false, rest)
    | _ =>
      let tok := cs.takeWhile isNumberChar
      (integerValue tok).map fun i => (.int i, cs.dropWhile isNumberChar)

/-- The items of an array after `[` or a comma. -/
def readArray : Nat → List Value → List Char → Option (Value × List Char)
  | 0, _, _ => none
  | fuel + 1, acc, cs => do
    let cs ← skipGaps cs
    match cs with
    | ']' :: rest => pure (.arr acc.reverse, rest)
    | _ =>
      let (v, r) ← readValue fuel cs
      let r ← skipGaps r
      match r with
      | ',' :: more => readArray fuel (v :: acc) more
      | ']' :: more => pure (.arr (v :: acc).reverse, more)
      | _ => none

/-- The key-value pairs of an inline table after `{` or a comma. -/
def readInline : Nat → List (String × Node) → List Char → Option (Value × List Char)
  | 0, _, _ => none
  | fuel + 1, entries, cs => do
    let (keys, r) ← readKey fuel (skipSpace cs)
    match skipSpace r with
    | '=' :: afterEq =>
      let (v, afterValue) ← readValue fuel (skipSpace afterEq)
      let entries' ← insertKey v keys true entries
      match skipSpace afterValue with
      | ',' :: more => readInline fuel entries' more
      | '}' :: more => pure (.table (Node.entriesToValue entries'), more)
      | _ => none
    | _ => none

end

/-- The lines of a document; `current` is the path of the last header. -/
def readLines : Nat → List (String × Node) → List String → List Char →
    Option (List (String × Node))
  | 0, _, _, _ => none
  | fuel + 1, root, current, cs =>
    match skipSpace cs with
    | [] => some root
    | '\n' :: rest => readLines fuel root current rest
    | '\r' :: '\n' :: rest => readLines fuel root current rest
    | '#' :: rest => (lineEnd ('#' :: rest)).bind (readLines fuel root current)
    | '[' :: '[' :: rest => do
      let (path, r) ← readKey fuel (skipSpace rest)
      match skipSpace r with
      | ']' :: ']' :: more =>
        let root' ← openHeader true path root
        let next ← lineEnd more
        readLines fuel root' path next
      | _ => none
    | '[' :: rest => do
      let (path, r) ← readKey fuel (skipSpace rest)
      match skipSpace r with
      | ']' :: more =>
        let root' ← openHeader false path root
        let next ← lineEnd more
        readLines fuel root' path next
      | _ => none
    | line => do
      let (keys, r) ← readKey fuel line
      match skipSpace r with
      | '=' :: afterEq =>
        let (v, afterValue) ← readValue fuel (skipSpace afterEq)
        let root' ← atTable (insertKey v keys true) current root
        let next ← lineEnd afterValue
        readLines fuel root' current next
      | _ => none

/-- Reads a document into its root table; `none` for a text that is no such document. -/
def read (text : String) : Option (List (String × Value)) :=
  let cs := match text.toList with
    | '﻿' :: rest => rest
    | cs => cs
  (readLines (2 * cs.length + 8) [] [] cs).map Node.entriesToValue

end ZfsReplication.Toml
