/-!
# Quoting words for a POSIX shell

A word is written so that a POSIX shell reads it back as that word. Characters that no shell
treats specially (ASCII letters and digits and `, . / _ -`) and all non-ASCII characters are
written as they are; runs of other characters go inside single quotes; a single quote is written
`\'`, after closing a quoted run if one is open. The empty word is `''`.

Reading shell text splits it into words again, so that reading the text of a word gives the word.
-/

set_option autoImplicit false

namespace ZfsReplication.Shell

/-- ASCII characters that no shell treats specially. -/
def isInert (c : Char) : Bool :=
  c.isAlphanum || c == ',' || c == '.' || c == '/' || c == '_' || c == '-'

/-- Characters written as they are, inside a quoted run or not. -/
def isBare (c : Char) : Bool := isInert c || c.toNat ≥ 0x80

/-- The quoted form of the characters of a word; `inside` tells whether a quoted run is open. -/
def quoteChars : List Char → Bool → List Char
  | [], inside => if inside then ['\''] else []
  | c :: rest, inside =>
    if isBare c then c :: quoteChars rest inside
    else if c == '\'' then
      if inside then '\'' :: '\\' :: '\'' :: quoteChars rest false
      else '\\' :: '\'' :: quoteChars rest false
    else if inside then c :: quoteChars rest true
    else '\'' :: c :: quoteChars rest true

/-- A word as shell text. -/
def quote (word : String) : String :=
  if word.isEmpty then "''"
  else if word.toList.all isInert then word
  else String.ofList (quoteChars word.toList false)

/-! ## Reading shell words back -/

/-- A word of shell text, or a lone unquoted `|`, which separates the stages of a pipeline. -/
inductive Token where
  | word (text : String)
  | bar
deriving DecidableEq, Repr

/-- The token of a finished word from its characters and whether any of them was quoted or
escaped: only an unquoted `|` on its own is a bar. -/
def Token.ofChars (cs : List Char) (literal : Bool) : Token :=
  if !literal && cs == ['|'] then .bar else .word (String.ofList cs)

/-- Splits shell text into words the way a POSIX shell does for simple commands: outside single
quotes a space ends the word being read, a backslash takes the next character literally and a
single quote opens a quoted run, in which every character up to the closing quote is literal.
`started` tells whether a word is being read, `literal` whether any of its characters was quoted or
escaped, and `word` holds its characters, the latest first. -/
def readTokens : List Char → (quoted started literal : Bool) → List Char → List Token
  | [], _, started, literal, word => if started then [Token.ofChars word.reverse literal] else []
  | c :: rest, true, _, _, word =>
    if c == '\'' then readTokens rest false true true word
    else readTokens rest true true true (c :: word)
  | ' ' :: rest, false, started, literal, word =>
    (if started then [Token.ofChars word.reverse literal] else []) ++
      readTokens rest false false false []
  | '\'' :: rest, false, _, _, word => readTokens rest true true true word
  | '\\' :: c :: rest, false, _, _, word => readTokens rest false true true (c :: word)
  | c :: rest, false, _, literal, word => readTokens rest false true literal (c :: word)

/-- The words of shell text, the bars between stages included. -/
def tokens (text : String) : List Token := readTokens text.toList false false false []

example : quote "tank@1" = "tank'@1'" := by decide
example : quote "it's" = "it\\'s" := by decide
example : quote "a b'c" = "a' b'\\'c" := by decide
example : quote "" = "''" := by decide
example : tokens "zfs send tank'@1' | a' b'\\'c ''" =
    [.word "zfs", .word "send", .word "tank@1", .bar, .word "a b'c", .word ""] := by decide +kernel

end ZfsReplication.Shell
