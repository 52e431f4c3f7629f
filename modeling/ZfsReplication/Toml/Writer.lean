import ZfsReplication.Toml.Reader

/-!
# Writing TOML documents

A table is written as its key-value pairs, then each sub-table under a `[header]` line preceded by a
blank line. Arrays are written inline. A string takes the first form that writes it without
escapes: a basic string, a literal string, a multi-line basic string, a multi-line literal string.
Only text with control characters other than tab and newline is escaped.
-/

set_option autoImplicit false

namespace ZfsReplication.Toml

/-- What the text of a string holds, as far as choosing its written form goes. -/
structure StringShape where
  /-- The longest run of single quotes. -/
  singleRun : Nat := 0
  /-- The longest run of double quotes; a single quote does not end a run. -/
  doubleRun : Nat := 0
  /-- A control character other than tab and newline, which only an escape can write. -/
  control : Bool := false
  /-- A backslash, which a basic string has to escape. -/
  backslash : Bool := false
  newline : Bool := false
deriving DecidableEq, Repr

/-- Whether `c` is a control character, below space or delete, which a basic string writes as an
escape. -/
def isEscapeControl (c : Char) : Bool := c.toNat ≤ 0x1f || c.toNat == 0x7f

/-- The shape of a string's characters so far, with the quote runs still open after them. -/
def shapeStep (st : StringShape × Nat × Nat) (c : Char) : StringShape × Nat × Nat :=
  let (sh, singles, doubles) := st
  if c == '\'' then (sh, singles + 1, doubles)
  else
    let sh := { sh with singleRun := max sh.singleRun singles }
    if c == '"' then (sh, 0, doubles + 1)
    else
      let sh := { sh with doubleRun := max sh.doubleRun doubles }
      let sh :=
        if c == '\\' then { sh with backslash := true }
        else if c == '\n' then { sh with newline := true }
        else if c == '\t' then sh
        else if isEscapeControl c then { sh with control := true }
        else sh
      (sh, 0, 0)

/-- The shape of the text `s`. -/
def shapeOf (s : List Char) : StringShape :=
  let (sh, singles, doubles) := s.foldl shapeStep ({}, 0, 0)
  { sh with singleRun := max sh.singleRun singles, doubleRun := max sh.doubleRun doubles }

/-- The written forms of a string. -/
inductive StringForm where
  /-- Between double quotes, with escapes. -/
  | basic
  /-- Between single quotes, as it is. -/
  | literal
  /-- Between three double quotes, with escapes; newlines as they are. -/
  | multiBasic
  /-- Between three single quotes, as it is. -/
  | multiLiteral
deriving DecidableEq, Repr

/-- The form a string is written in: the first that needs no escape among a basic string, a
literal string, a multi-line basic string and a multi-line literal string, each only where it can
hold the text; failing all four, a basic string with escapes, multi-line when the text has a
newline. -/
def chooseForm (sh : StringShape) : StringForm :=
  if !sh.control && !sh.backslash && sh.doubleRun == 0 && !sh.newline then .basic
  else if !sh.control && sh.singleRun == 0 && !sh.newline then .literal
  else if !sh.control && !sh.backslash && sh.doubleRun ≤ 2 then .multiBasic
  else if !sh.control && sh.singleRun ≤ 2 then .multiLiteral
  else if sh.newline then .multiBasic
  else .basic

/-- The upper-case hex digit of `n < 16`. -/
def hexDigitUpper (n : Nat) : Char :=
  if n < 10 then Char.ofNat ('0'.toNat + n) else Char.ofNat ('A'.toNat + n - 10)

/-- One character of a basic string other than a double quote, escaped as needed. -/
def escapeBasic (multiLine : Bool) (c : Char) : List Char :=
  match c with
  | '\x08' => ['\\', 'b']
  | '\t' => ['\\', 't']
  | '\n' => if multiLine then ['\n'] else ['\\', 'n']
  | '\x0c' => ['\\', 'f']
  | '\r' => ['\\', 'r']
  | '\\' => ['\\', '\\']
  | c =>
    if isEscapeControl c then
      ['\\', 'u', '0', '0', hexDigitUpper (c.toNat / 16), hexDigitUpper (c.toNat % 16)]
    else [c]

/-- The body of a basic string: a double quote is escaped when it would make a run of more than
`quotes` of them, and the run starts again after it. -/
def escapeBody (multiLine : Bool) (quotes : Nat) : Nat → List Char → List Char
  | _, [] => []
  | run, '"' :: rest =>
    if run + 1 > quotes then '\\' :: '"' :: escapeBody multiLine quotes 0 rest
    else '"' :: escapeBody multiLine quotes (run + 1) rest
  | _, c :: rest => escapeBasic multiLine c ++ escapeBody multiLine quotes 0 rest

/-- Three single quotes. -/
def tripleSingle : String := String.ofList ['\'', '\'', '\'']

/-- Three double quotes. -/
def tripleDouble : String := String.ofList ['"', '"', '"']

/-- A string as TOML text. A multi-line string holding a newline starts its body on a new line. -/
def quote (s : String) : String :=
  let cs := s.toList
  let sh := shapeOf cs
  let opening := if sh.newline then "\n" else ""
  match chooseForm sh with
  | .basic => "\"" ++ String.ofList (escapeBody false 0 0 cs) ++ "\""
  | .literal => "'" ++ s ++ "'"
  | .multiBasic => tripleDouble ++ opening ++ String.ofList (escapeBody true 2 0 cs) ++ tripleDouble
  | .multiLiteral => tripleSingle ++ opening ++ s ++ tripleSingle

/-- A key: bare when it can be; otherwise a basic string when that needs no escape, a literal
string when the key has no single quote and no control character, and a basic string with escapes
failing both. -/
def writeKey (k : String) : String :=
  let cs := k.toList
  let control := cs.any isEscapeControl
  if !k.isEmpty && cs.all isBareKeyChar then k
  else if !control && !cs.contains '\\' && !cs.contains '"' then "\"" ++ k ++ "\""
  else if !control && !cs.contains '\'' then "'" ++ k ++ "'"
  else "\"" ++ String.ofList (escapeBody false 0 0 cs) ++ "\""

mutual

/-- A value written inline. -/
def writeInline : Value → String
  | .str s => quote s
  | .int i => toString i
  | .bool b => if b then "true" else "false"
  | .arr items => "[" ++ writeItems items ++ "]"
  | .table entries => "\x7b " ++ writePairs entries ++ " \x7d"

/-- Array items separated by `, `. -/
def writeItems : List Value → String
  | [] => ""
  | [v] => writeInline v
  | v :: rest => writeInline v ++ ", " ++ writeItems rest

/-- Inline table pairs separated by `, `. -/
def writePairs : List (String × Value) → String
  | [] => ""
  | [(k, v)] => writeKey k ++ " = " ++ writeInline v
  | (k, v) :: rest => writeKey k ++ " = " ++ writeInline v ++ ", " ++ writePairs rest

end

/-- The key-value lines of `entries`, leaving out the tables when `sections` holds. -/
def writeValueLines (sections : Bool) (entries : List (String × Value)) : String :=
  String.join (entries.filterMap fun (k, v) =>
    match v, sections with
    | .table _, true => none
    | _, _ => some (writeKey k ++ " = " ++ writeInline v ++ "\n"))

/-- A document: the plain entries of the root, then one section per table entry, each preceded by
a blank line; tables below those are written inline. -/
def write (root : List (String × Value)) : String :=
  let sections := root.filterMap fun (k, v) =>
    match v with
    | .table entries => some ("[" ++ writeKey k ++ "]\n" ++ writeValueLines false entries)
    | _ => none
  let head := writeValueLines true root
  sections.foldl (fun acc s => if acc.isEmpty then s else acc ++ "\n" ++ s) head

example : quote "lit\\eral" = "'lit\\eral'" := by decide
example : quote "x\ty" = "\"x\\ty\"" := by decide
example : quote "multi\nline" = "\"\"\"\nmulti\nline\"\"\"" := by decide
example : quote "a\"b" = "'a\"b'" := by decide
example : quote "'\"" = "\"\"\"'\"\"\"\"" := by decide
example : quote "a\\b'" = tripleSingle ++ "a\\b'" ++ tripleSingle := by decide

end ZfsReplication.Toml
