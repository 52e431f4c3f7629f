import ZfsReplication.Cli.Grammar
import ZfsReplication.Cli.Similarity
import ZfsReplication.Config.Basic

/-!
# Reading the command line

The command line is read one word at a time. At the top level a word naming a command hands the
rest of the line to that command; `help` instead names the command whose help page to print.
Below the top level the first plain word is the configuration path, `--name` and `--name=value`
are long flags and options, `-abc` is a cluster of short flags, and after `--` every word is a
plain value.

An option's value, like a positional value, is checked only when the next flag is recognised or
the line ends, so a later problem can be the one reported. A flag given twice, an option given
twice, a value outside an option's choices and an empty path are refused; a word the command
does not know is refused with the most similar known word, when one is close enough.

Each refusal carries the text printed for it: the problem, hints, a usage line and a pointer to
the help.
-/

set_option autoImplicit false

namespace ZfsReplication.Cli

/-- Why the command line was not turned into an invocation. -/
inductive ErrorKind where
  | displayHelp
  | displayVersion
  | displayHelpOnMissing
  | invalidSubcommand
  | missingSubcommand
  | missingRequiredArgument
  | invalidValue
  | unknownArgument
  | argumentConflict
  | tooManyValues
deriving DecidableEq, Repr

namespace ErrorKind

/-- The name of the kind, as reports spell it. -/
def name : ErrorKind → String
  | .displayHelp => "DisplayHelp"
  | .displayVersion => "DisplayVersion"
  | .displayHelpOnMissing => "DisplayHelpOnMissingArgumentOrSubcommand"
  | .invalidSubcommand => "InvalidSubcommand"
  | .missingSubcommand => "MissingSubcommand"
  | .missingRequiredArgument => "MissingRequiredArgument"
  | .invalidValue => "InvalidValue"
  | .unknownArgument => "UnknownArgument"
  | .argumentConflict => "ArgumentConflict"
  | .tooManyValues => "TooManyValues"

/-- The exit status: 0 when help or the version was asked for, 2 otherwise. -/
def exitCode : ErrorKind → Nat
  | .displayHelp | .displayVersion => 0
  | _ => 2

end ErrorKind

/-- A command line that was not turned into an invocation, with the text printed for it. -/
structure Refusal where
  kind : ErrorKind
  message : String
deriving DecidableEq, Repr

/-- The parts of an error message. -/
structure Complaint where
  kind : ErrorKind
  problem : String
  /-- The suggestion of a similar word. -/
  similar : Option String := none
  /-- Further hints, one per line. -/
  tips : List String := []
  /-- The usage line, without its heading. -/
  usage : Option String := none
  /-- Whether the text ends by pointing to the help flag; not for a command without one. -/
  pointer : Bool := true

/-- The text of a complaint: the problem, then the suggestion and hints, then the usage line, then
the pointer to the help. -/
def Complaint.render (c : Complaint) : Refusal :=
  let similar := match c.similar with
    | some s => "\n\n  tip: " ++ s
    | none => ""
  let tips := if c.tips.isEmpty then ""
    else (if c.similar.isSome then "" else "\n") ++ String.join (c.tips.map ("\n  tip: " ++ ·))
  let usage := match c.usage with
    | some u => "\n\nUsage: " ++ u
    | none => ""
  let pointer := if c.pointer then "\n\nFor more information, try '--help'.\n" else "\n"
  ⟨c.kind, "error: " ++ c.problem ++ similar ++ tips ++ usage ++ pointer⟩

/-- The text printed for the version. -/
def versionText : String := programName ++ " " ++ programVersion ++ "\n"

/-- Quote a word as messages do. -/
def quoted (s : String) : String := "'" ++ s ++ "'"

/-- The line listing what a value or command could have been. -/
def valuesLine (title : String) (values : List String) : String :=
  if values.isEmpty then "" else "\n  [" ++ title ++ ": " ++ ", ".intercalate values ++ "]"

/-! ## Refusals -/

/-- No value for an argument that needs one. -/
def emptyValue (a : ArgSpec) : Refusal :=
  Complaint.render {
    kind := .invalidValue,
    problem := "a value is required for " ++ quoted a.display ++ " but none was supplied" ++
      valuesLine "possible values" a.choices }

/-- A value outside the argument's choices. -/
def invalidValue (a : ArgSpec) (value : String) : Refusal :=
  if value.isEmpty then emptyValue a
  else Complaint.render {
    kind := .invalidValue,
    problem := "invalid value " ++ quoted value ++ " for " ++ quoted a.display ++
      valuesLine "possible values" a.choices,
    similar := (mostSimilar value a.choices).map fun s => "a similar value exists: " ++ quoted s }

/-- An argument given a second time. -/
def usedTwice (c : CommandSpec) (called : String) (a : ArgSpec) : Refusal :=
  Complaint.render {
    kind := .argumentConflict,
    problem := "the argument " ++ quoted a.display ++ " cannot be used multiple times",
    usage := some (c.fullUsage called) }

/-- The usage line for an error, naming the arguments in `used` when there are any. -/
def usageFor (c : CommandSpec) (called : String) (used : List String) : String :=
  if used.isEmpty then c.fullUsage called else c.smartUsage called used

/-! ## Matching the arguments of one command -/

/-- What has been read of a command's arguments. -/
structure Matched where
  /-- The arguments given, in the order first given, with their value once accepted. -/
  present : List (String × Option String) := []
  /-- An argument read but not yet checked, with its values. -/
  pending : Option (ArgSpec × List String) := none
  /-- Whether the pending argument is an option still waiting for its value. -/
  expecting : Bool := false
  /-- How many positional values were read. -/
  position : Nat := 0
  /-- Whether a word `--` was read, after which every word is a value. -/
  trailing : Bool := false

namespace Matched

/-- The names of the arguments given. -/
def ids (m : Matched) : List String := m.present.map (·.1)

/-- Whether the argument `id` was given. -/
def has (m : Matched) (id : String) : Bool := m.ids.contains id

/-- The value given for `id`. -/
def value? (m : Matched) (id : String) : Option String :=
  (m.present.find? (·.1 == id)).bind (·.2)

/-- Note that `a` was given, keeping the place of an earlier mention. -/
def start (m : Matched) (a : ArgSpec) : Matched :=
  if m.has a.id then m else { m with present := m.present ++ [(a.id, none)] }

/-- Record `value` for `a`, given for the first time. -/
def record (m : Matched) (a : ArgSpec) (value : String) : Matched :=
  { m with present := m.present ++ [(a.id, some value)] }

end Matched

/-- Accept `a` with `values` for the command `c` called as `called`: the new state, and why the
arguments are refused when they are. An argument whose value is refused still counts as given. -/
def accept (c : CommandSpec) (called : String) (m : Matched) (a : ArgSpec) (values : List String) :
    Matched × Option Refusal :=
  match a.reaction with
  | .showHelp => (m, some ⟨.displayHelp, c.helpPage called⟩)
  | .showVersion => (m, some ⟨.displayVersion, versionText⟩)
  | .record =>
    if a.takesValue && values.isEmpty then (m, some (emptyValue a))
    else if m.has a.id then (m, some (usedTwice c called a))
    else
      let started := { m with present := m.present ++ [(a.id, none)] }
      match a.takes, values with
      | .nothing, _ => (m.record a "true", none)
      | .choice _ choices _, v :: _ =>
        if choices.contains v then (m.record a v, none) else (started, some (invalidValue a v))
      | .positional .., v :: _ =>
        if v.isEmpty then (started, some (emptyValue a)) else (m.record a v, none)
      | _, [] => (m, some (emptyValue a))

/-- Check the pending argument, if any. -/
def resolve (c : CommandSpec) (called : String) (m : Matched) : Matched × Option Refusal :=
  match m.pending with
  | none => (m, none)
  | some (a, values) => accept c called { m with pending := none, expecting := false } a values

/-- Check the pending argument, then accept `a` with `values`. -/
def react (c : CommandSpec) (called : String) (m : Matched) (a : ArgSpec) (values : List String) :
    Matched × Option Refusal :=
  match resolve c called m with
  | (m', some r) => (m', some r)
  | (m', none) => accept c called m' a values

/-- Split the text after `--` at its first `=` into the flag's name and its attached value. -/
def splitAttached (s : String) : String × Option String :=
  match s.toList.span (· != '=') with
  | (name, []) => (String.ofList name, none)
  | (name, _ :: value) => (String.ofList name, some (String.ofList value))

/-- Whether a word is a long flag: it starts with `--` and has more after it. -/
def isLongWord (s : String) : Bool := s.startsWith "--" && s.length > 2

/-- Whether a word is a cluster of short flags: one `-` followed by something other than `-`. -/
def isShortWord (s : String) : Bool := s.startsWith "-" && !s.startsWith "--" && s.length > 1

/-- The hint for passing a word that looks like a flag as a value. -/
def asValueTip (word : String) : String :=
  "to pass " ++ quoted word ++ " as a value, use " ++ quoted ("-- " ++ word)

/-- A long flag `--name` that command `c` does not know, read in state `m`. -/
def unknownLong (c : CommandSpec) (called : String) (m : Matched) (name : String) : Refusal :=
  let m := (resolve c called m).1
  let suggestion := mostSimilar name c.longs
  let m := match suggestion.bind c.findLong with
    | some a => m.start a
    | none => m
  let tips := if suggestion.isNone && !m.trailing && !c.positionals.isEmpty
    then [asValueTip ("--" ++ name)] else []
  Complaint.render {
    kind := .unknownArgument,
    problem := "unexpected argument " ++ quoted ("--" ++ name) ++ " found",
    similar := suggestion.map fun s => "a similar argument exists: " ++ quoted ("--" ++ s),
    tips := tips, usage := some (usageFor c called m.ids) }

/-- A flag that takes no value, given one. The usage line names the arguments given so far but
the required ones, with the groups they belong to, and the flag. -/
def unneededValue (c : CommandSpec) (called : String) (m : Matched) (a : ArgSpec) (value : String) :
    Refusal :=
  let required := c.positionals.map (·.id)
  let used := ((c.withGroups m.ids).filter fun id => !required.contains id) ++ [a.id]
  Complaint.render {
    kind := .tooManyValues,
    problem := "unexpected value " ++ quoted value ++ " for " ++ quoted a.display ++
      " found; no more were expected",
    usage := some (usageFor c called used) }

/-- A word starting with `-` whose letter `ch` the command does not know. -/
def unknownShort (c : CommandSpec) (called : String) (m : Matched) (ch : Char) : Refusal :=
  let word := "-" ++ ch.toString
  Complaint.render {
    kind := .unknownArgument,
    problem := "unexpected argument " ++ quoted word ++ " found",
    tips := if !m.trailing && !c.positionals.isEmpty then [asValueTip word] else [],
    usage := some (c.fullUsage called) }

/-- Read a cluster of short flags. -/
def readShorts (c : CommandSpec) (called : String) : Matched → List Char → Except Refusal Matched
  | m, [] => .ok m
  | m, ch :: rest =>
    match c.findShort ch with
    | none => .error (unknownShort c called m ch)
    | some a =>
      if a.takesValue then
        let attached := match rest with
          | '=' :: value => String.ofList value
          | _ => String.ofList rest
        if attached.isEmpty then
          match resolve c called m with
          | (_, some r) => .error r
          | (m', none) => .ok { m' with pending := some (a, []), expecting := true }
        else
          match react c called m a [attached] with
          | (_, some r) => .error r
          | (m', none) => .ok m'
      else
        match react c called m a [] with
        | (_, some r) => .error r
        | (m', none) => readShorts c called m' rest

/-- Read the words given to command `c`, called as `called`. -/
def readWords (c : CommandSpec) (called : String) : Matched → List String → Except Refusal Matched
  | m, [] =>
    match resolve c called m with
    | (_, some r) => .error r
    | (m', none) => .ok m'
  | m, word :: rest =>
    if !m.trailing && word == "--" then readWords c called { m with trailing := true } rest
    else if !m.trailing && isLongWord word then
      let (name, attached) := splitAttached (word.drop 2).toString
      match c.findLong name, attached with
      | none, _ => .error (unknownLong c called m name)
      | some a, some value =>
        if a.takesValue then
          match react c called m a [value] with
          | (_, some r) => .error r
          | (m', none) => readWords c called m' rest
        else .error (unneededValue c called m a value)
      | some a, none =>
        if a.takesValue then
          match resolve c called m with
          | (_, some r) => .error r
          | (m', none) => readWords c called { m' with pending := some (a, []), expecting := true } rest
        else
          match react c called m a [] with
          | (_, some r) => .error r
          | (m', none) => readWords c called m' rest
    else if !m.trailing && isShortWord word then
      match readShorts c called m (word.toList.drop 1) with
      | .error r => .error r
      | .ok m' => readWords c called m' rest
    else if !m.trailing && m.expecting then
      match m.pending with
      | some (a, values) =>
        readWords c called { m with pending := some (a, values ++ [word]), expecting := false } rest
      | none => readWords c called { m with expecting := false } rest
    else
      match c.positionals[m.position]? with
      | some p =>
        match resolve c called m with
        | (_, some r) => .error r
        | (m', none) =>
          readWords c called { m' with pending := some (p, [word]), position := m.position + 1 } rest
      | none =>
        .error (Complaint.render {
          kind := .unknownArgument,
          problem := "unexpected argument " ++ quoted word ++ " found",
          usage := some (c.fullUsage called) })

/-- Read the words given to command `c` and check that every required value was given. -/
def readCommand (c : CommandSpec) (called : String) (words : List String) : Except Refusal Matched :=
  match readWords c called {} words with
  | .error r => .error r
  | .ok m =>
    let missing := c.positionals.filter fun a =>
      (match a.takes with
        | .positional _ required _ => required
        | _ => false) && !m.has a.id
    if missing.isEmpty then .ok m
    else .error (Complaint.render {
      kind := .missingRequiredArgument,
      problem := "the following required arguments were not provided:" ++
        String.join (missing.map fun a => "\n  " ++ a.display),
      usage := some (c.smartUsage called (m.ids ++ missing.map (·.id))) })

/-! ## The top level -/

/-- The name a program path is shown by: its last component, unless there is none or it is `..`. -/
def programFileName (path : String) : Option String :=
  match ((path.splitOn "/").filter fun p => p != "" && p != ".").getLast? with
  | some ".." => none
  | other => other

/-- The name the top level is called by in usage lines. -/
def topCalled (bin : Option String) : String := bin.getD programName

/-- The name a command below the top level is called by in usage lines. -/
def commandCalled (bin : Option String) (name : String) : String :=
  match bin with
  | some b => b ++ " " ++ name
  | none => name

/-- The names of the commands. -/
def commandNames : List String := topCommand.commands.map (·.1)

/-- The refusal for `help` followed by `words`: the help page of the command they name, or the
first word naming no command. -/
def helpFor (bin : Option String) (words : List String) : Refusal :=
  let unknown := fun (c : CommandSpec) (called word : String) =>
    Complaint.render {
      kind := .invalidSubcommand,
      problem := "unrecognized subcommand " ++ quoted word, usage := some (c.fullUsage called),
      pointer := c.hasHelpFlag }
  match words with
  | [] => ⟨.displayHelp, topCommand.helpPage (topCalled bin)⟩
  | first :: rest =>
    match findCommand first with
    | none => unknown topCommand (topCalled bin) first
    | some c =>
      let called := commandCalled bin c.name
      match rest with
      | [] => ⟨.displayHelp, c.helpPage called⟩
      | second :: _ => unknown c called second

/-- A plain word at the top level that names no command. -/
def unknownCommand (bin : Option String) (trailing : Bool) (word : String) : Refusal :=
  let usage := some (topCommand.fullUsage (topCalled bin))
  if trailing && commandNames.contains word then
    Complaint.render {
      kind := .unknownArgument, problem := "unexpected argument " ++ quoted word ++ " found",
      tips := ["subcommand " ++ quoted word ++ " exists; to use it, remove the '--' before it"],
      usage := usage }
  else
    let candidates := similar word commandNames
    let hint := match candidates with
      | [] => none
      | [one] => some ("a similar subcommand exists: " ++ quoted one)
      | many => some ("some similar subcommands exist: " ++ ", ".intercalate (many.map quoted))
    Complaint.render {
      kind := .invalidSubcommand,
      problem := "unrecognized subcommand " ++ quoted word, similar := hint, usage := usage }

/-- The position of the first word equal to `name`. -/
def firstIndex (name : String) (words : List String) : Option Nat := words.idxOf? name

/-- A long flag `--name` the top level does not know, followed by `rest`. A similar top-level flag
is suggested; failing that, a similar flag of a command named later on the line, the earliest
named winning. -/
def unknownTopLong (bin : Option String) (verbose : Bool) (name : String) (rest : List String) :
    Refusal :=
  let suggestion := mostSimilar name topCommand.longs
  let fromCommands := ((actionCommands ++ [helpCommand]).filterMap fun c =>
    match mostSimilar name c.longs, firstIndex c.name rest with
    | some flag, some i => some (i, c.name, flag)
    | _, _ => none)
  let best := fromCommands.foldl (fun acc x =>
    match acc with
    | some y => if x.1 < y.1 then some x else some y
    | none => some x) none
  let given := if verbose then ["verbose"] else []
  -- the suggested flag counts as given
  let used := match suggestion.bind topCommand.findLong with
    | some a => if given.contains a.id then given else given ++ [a.id]
    | none => given
  let called := topCalled bin
  Complaint.render {
    kind := .unknownArgument,
    problem := "unexpected argument " ++ quoted ("--" ++ name) ++ " found",
    similar := suggestion.map fun s => "a similar argument exists: " ++ quoted ("--" ++ s),
    tips := match suggestion, best with
      | none, some (_, command, flag) => [quoted (command ++ " --" ++ flag) ++ " exists"]
      | _, _ => [],
    usage := some (usageFor topCommand called used) }

/-- A flag given at the top level, where `verbose` says whether `--verbose` was already given:
whether it is given now, or the refusal or page the flag stops with. -/
def topFlag (called : String) (verbose : Bool) (a : ArgSpec) : Except Refusal Bool :=
  match a.reaction with
  | .showHelp => .error ⟨.displayHelp, topCommand.helpPage called⟩
  | .showVersion => .error ⟨.displayVersion, versionText⟩
  | .record => if verbose then .error (usedTwice topCommand called a) else .ok true

/-- A cluster of short flags at the top level. -/
def topShorts (called : String) : Bool → List Char → Except Refusal Bool
  | seen, [] => .ok seen
  | seen, ch :: more =>
    match topCommand.findShort ch with
    | none => .error (Complaint.render {
        kind := .unknownArgument,
        problem := "unexpected argument " ++ quoted ("-" ++ ch.toString) ++ " found",
        usage := some (topCommand.fullUsage called) })
    | some a =>
      match topFlag called seen a with
      | .ok v => topShorts called v more
      | .error r => .error r

/-- What the top level read: whether `--verbose` was given, and then the command with its
matched arguments. -/
structure TopMatch where
  verbose : Bool
  command : String
  matched : Matched

/-- Read the words at the top level; `verbose` and `trailing` say what was read so far. -/
def readTop (bin : Option String) (verbose trailing : Bool) :
    List String → Except Refusal TopMatch
  | [] =>
    if verbose then
      .error (Complaint.render {
        kind := .missingSubcommand,
        problem := quoted (topCalled bin) ++ " requires a subcommand but one was not provided" ++
          valuesLine "subcommands" commandNames,
        usage := some (topCommand.fullUsage (topCalled bin)) })
    else .error ⟨.displayHelpOnMissing, topCommand.helpPage (topCalled bin)⟩
  | word :: rest =>
    let called := topCalled bin
    if !trailing && (findCommand word).isSome then
      if word == "help" then .error (helpFor bin rest)
      else match findCommand word with
        | some c =>
          match readCommand c (commandCalled bin word) rest with
          | .ok m => .ok ⟨verbose, word, m⟩
          | .error r => .error r
        | none => .error (unknownCommand bin trailing word)
    else if !trailing && word == "--" then readTop bin verbose true rest
    else if !trailing && isLongWord word then
      let (name, attached) := splitAttached (word.drop 2).toString
      match topCommand.findLong name, attached with
      | none, _ => .error (unknownTopLong bin verbose name rest)
      | some a, some value =>
        let used := topCommand.withGroups (if verbose then ["verbose"] else []) ++ [a.id]
        .error (Complaint.render {
          kind := .tooManyValues,
          problem := "unexpected value " ++ quoted value ++ " for " ++ quoted a.display ++
            " found; no more were expected",
          usage := some (usageFor topCommand called used) })
      | some a, none =>
        match topFlag called verbose a with
        | .ok v => readTop bin v trailing rest
        | .error r => .error r
    else if !trailing && isShortWord word then
      match topShorts called verbose (word.toList.drop 1) with
      | .ok v => readTop bin v trailing rest
      | .error r => .error r
    else .error (unknownCommand bin trailing word)

/-! ## Invocations -/

/-- The options of a command that runs a plan. -/
structure RunOptions where
  config : String
  /-- Run without asking. -/
  yes : Bool := false
  /-- Only print the plan. -/
  dryRun : Bool := false
deriving DecidableEq, Repr

/-- What the program was asked to do. -/
inductive Action where
  | tree (config : String) (side : Side)
  | compare (config : String)
  | snap (run : RunOptions)
  | backup (run : RunOptions)
  | cleanup (run : RunOptions) (side : Side)
deriving DecidableEq, Repr

/-- A command line that was understood. -/
structure Invocation where
  verbose : Bool
  action : Action
deriving DecidableEq, Repr

/-- The side named by a command's `--side`, the source when absent. -/
def sideOf (m : Matched) : Side :=
  if m.value? "side" == some "target" then .target else .source

/-- The run options of a command's matched arguments. -/
def runOf (m : Matched) : RunOptions :=
  { config := (m.value? "config").getD "", yes := m.has "yes", dryRun := m.has "dry_run" }

/-- The invocation a command's matched arguments stand for. -/
def TopMatch.invocation (t : TopMatch) : Invocation :=
  let m := t.matched
  let config := (m.value? "config").getD ""
  let action := match t.command with
    | "tree" => .tree config (sideOf m)
    | "compare" => .compare config
    | "snap" => .snap (runOf m)
    | "backup" => .backup (runOf m)
    | _ => .cleanup (runOf m) (sideOf m)
  ⟨t.verbose || m.has "verbose", action⟩

/-- Read a command line, whose first word is the path the program was started by. -/
def parseCommandLine (argv : List String) : Except Refusal Invocation :=
  let (bin, words) := match argv with
    | [] => (none, [])
    | first :: rest => (programFileName first, rest)
  (readTop bin false false words).map TopMatch.invocation

end ZfsReplication.Cli
