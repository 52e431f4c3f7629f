/-!
# The command-line grammar

The program is called with one of the commands `tree`, `compare`, `snap`, `backup` and `cleanup`,
each taking the path of its configuration, or with `help`. The flag `-v, --verbose` is accepted
everywhere; `-h, --help` prints the help of the command it is given to, and `-V, --version` the
version at the top level.

This module describes the arguments each command recognises and renders the help pages and usage
lines from that description, so the texts and the parser cannot disagree.
-/

set_option autoImplicit false

namespace ZfsReplication.Cli

/-- What an argument takes from the command line. -/
inductive Takes where
  /-- Nothing: a flag is present or absent. -/
  | nothing
  /-- One value among `choices`, with a default when absent. -/
  | choice (valueName : String) (choices : List String) (default : String)
  /-- A positional value, required or not, once or repeated. -/
  | positional (valueName : String) (required : Bool) (repeated : Bool)
deriving DecidableEq, Repr

/-- What recognising an argument does. -/
inductive Reaction where
  /-- Record it among the matched arguments. -/
  | record
  /-- Stop and print the help of the command. -/
  | showHelp
  /-- Stop and print the version. -/
  | showVersion
deriving DecidableEq, Repr

/-- One argument a command recognises. -/
structure ArgSpec where
  /-- The name the matched arguments are recorded under. -/
  id : String
  long : Option String := none
  short : Option Char := none
  takes : Takes := .nothing
  reaction : Reaction := .record
  /-- The help line; empty when the argument has none. -/
  help : String := ""
deriving DecidableEq, Repr

namespace ArgSpec

/-- Whether the argument is a positional value rather than a flag or option. -/
def isPositional (a : ArgSpec) : Bool :=
  match a.takes with
  | .positional .. => true
  | _ => false

/-- Whether the argument needs a value. -/
def takesValue (a : ArgSpec) : Bool :=
  match a.takes with
  | .nothing => false
  | _ => true

/-- The values the argument accepts, when it accepts only some. -/
def choices (a : ArgSpec) : List String :=
  match a.takes with
  | .choice _ cs _ => cs
  | _ => []

/-- The placeholder of a positional value: `<CONFIG>` when required, `[COMMAND]...` when optional
and repeated. -/
def placeholder (name : String) (required repeated : Bool) : String :=
  (if required then "<" ++ name ++ ">" else "[" ++ name ++ "]") ++ (if repeated then "..." else "")

/-- How messages name the argument: the long flag, with its value placeholder, or the
placeholder of a positional. -/
def display (a : ArgSpec) : String :=
  match a.takes with
  | .positional name required repeated => placeholder name required repeated
  | .choice name _ _ =>
    (match a.long with
      | some l => "--" ++ l
      | none => (a.short.map fun c => "-" ++ c.toString).getD "") ++ " <" ++ name ++ ">"
  | .nothing =>
    match a.long with
    | some l => "--" ++ l
    | none => (a.short.map fun c => "-" ++ c.toString).getD ""

/-- The left column of the argument's line in a help page. -/
def helpSpec (a : ArgSpec) : String :=
  match a.takes with
  | .positional .. => "  " ++ a.display
  | _ =>
    let shortPart := match a.short with
      | some c => "-" ++ c.toString ++ (if a.long.isSome then ", " else "")
      | none => "    "
    "  " ++ shortPart ++ a.display

/-- The right column of the argument's line in a help page: its help, then its default and its
possible values. -/
def helpText (a : ArgSpec) : String :=
  let extras := match a.takes with
    | .choice _ cs d => ["[default: " ++ d ++ "]", "[possible values: " ++ ", ".intercalate cs ++ "]"]
    | _ => []
  " ".intercalate ((if a.help.isEmpty then [] else [a.help]) ++ extras)

end ArgSpec

/-- A named group of arguments that belong together, such as the fields of one record of
options. A usage line can name a group in place of its members: `<CONFIG|--yes|--dry-run>`. -/
structure ArgGroup where
  name : String
  /-- The names of the member arguments, in order. -/
  members : List String
deriving DecidableEq, Repr

/-- A command: its name, the line describing it, the arguments it recognises, in the order its
help page lists them, and the groups they form. -/
structure CommandSpec where
  name : String
  about : String
  args : List ArgSpec
  /-- The names and descriptions of its commands, for the top level. -/
  commands : List (String × String) := []
  groups : List ArgGroup := []
deriving DecidableEq, Repr

/-! ## The arguments -/

/-- The flag printing verbose trace logs, recognised by every command. -/
def verboseArg : ArgSpec :=
  { id := "verbose", long := some "verbose", short := some 'v', help := "Print verbose tracelogs" }

/-- The flag printing the help page. -/
def helpArg : ArgSpec :=
  { id := "help", long := some "help", short := some 'h', reaction := .showHelp,
    help := "Print help" }

/-- The flag printing the version. -/
def versionArg : ArgSpec :=
  { id := "version", long := some "version", short := some 'V', reaction := .showVersion,
    help := "Print version" }

/-- The path of the configuration, the one positional value of every command. -/
def configArg : ArgSpec :=
  { id := "config", takes := .positional "CONFIG" true false,
    help := "Path to the TOML configuration" }

/-- The side a command addresses, the source unless given. -/
def sideArg : ArgSpec :=
  { id := "side", long := some "side", takes := .choice "SIDE" ["source", "target"] "source" }

/-- The flag running the plan without asking. -/
def yesArg : ArgSpec :=
  { id := "yes", long := some "yes", help := "Don't ask before running the planned transactions" }

/-- The flag only printing the plan. -/
def dryRunArg : ArgSpec :=
  { id := "dry_run", long := some "dry-run", help := "Only print the planned transactions" }

/-! ## The commands -/

/-- The name of the program, used when the command line does not give one. -/
def programName : String := "poolsync"

/-- The version the program reports. -/
def programVersion : String := "0.1.0"

/-- The arguments of a command that runs a plan. -/
def runArgs : List ArgSpec := [configArg, yesArg, dryRunArg]

/-- The group of the arguments of a command that runs a plan. -/
def runGroup : ArgGroup := ⟨"RunArgs", runArgs.map (·.id)⟩

/-- Every command other than `help`, with the arguments it recognises. The arguments of each
command form a group; `cleanup` adds its side to the arguments of a run outside that group. -/
def actionCommands : List CommandSpec :=
  [ { name := "tree", about := "Show the datasets and snapshots of one side",
      args := [configArg, sideArg, verboseArg, helpArg],
      groups := [⟨"Tree", ["config", "side"]⟩] },
    { name := "compare", about := "Show which datasets and snapshots exist on which side",
      args := [configArg, verboseArg, helpArg],
      groups := [⟨"Compare", ["config"]⟩] },
    { name := "snap", about := "Snapshot every changed source dataset",
      args := runArgs ++ [verboseArg, helpArg], groups := [runGroup] },
    { name := "backup", about := "Send source snapshots missing on the target",
      args := runArgs ++ [verboseArg, helpArg], groups := [runGroup] },
    { name := "cleanup", about := "Destroy snapshots that retention no longer requires",
      args := runArgs ++ [sideArg, verboseArg, helpArg], groups := [runGroup] } ]

/-- The command printing help pages. It takes command names only: the global flag is not
passed down to it, and it has no help flag of its own. -/
def helpCommand : CommandSpec :=
  { name := "help", about := "Print this message or the help of the given subcommand(s)",
    args := [{ id := "subcommand", takes := .positional "COMMAND" false true,
               help := "Print help for the subcommand(s)" }] }

/-- The program itself, with its commands. -/
def topCommand : CommandSpec :=
  { name := programName,
    about := "Plan and run snapshot, backup and cleanup of ZFS dataset trees between two pools.",
    args := [verboseArg, helpArg, versionArg],
    commands := (actionCommands ++ [helpCommand]).map fun c => (c.name, c.about),
    groups := [⟨"Args", ["verbose"]⟩] }

/-- The command called `name` below the top level. -/
def findCommand (name : String) : Option CommandSpec :=
  (actionCommands ++ [helpCommand]).find? (·.name == name)

/-! ## Help pages and usage lines -/

namespace CommandSpec

/-- The positional arguments, in order. -/
def positionals (c : CommandSpec) : List ArgSpec := c.args.filter (·.isPositional)

/-- The flags and options, in order. -/
def options (c : CommandSpec) : List ArgSpec := c.args.filter fun a => !a.isPositional

/-- The arguments whose long flag is `name`. -/
def findLong (c : CommandSpec) (name : String) : Option ArgSpec :=
  c.args.find? (·.long == some name)

/-- The argument whose short flag is `ch`. -/
def findShort (c : CommandSpec) (ch : Char) : Option ArgSpec :=
  c.args.find? (·.short == some ch)

/-- The long flags, in order. -/
def longs (c : CommandSpec) : List String := c.args.filterMap (·.long)

/-- The usage line listing everything the command accepts, after the name it was called by. -/
def fullUsage (c : CommandSpec) (called : String) : String :=
  let optionsTag := if c.options.isEmpty then [] else ["[OPTIONS]"]
  let positionals := c.positionals.map (·.display)
  let commands := if c.commands.isEmpty then [] else ["<COMMAND>"]
  " ".intercalate ([called] ++ optionsTag ++ positionals ++ commands)

/-- Whether `a` is a positional value that must be given. -/
def isRequired (a : ArgSpec) : Bool :=
  match a.takes with
  | .positional _ required _ => required
  | _ => false

/-- The group named `name`. -/
def findGroup (c : CommandSpec) (name : String) : Option ArgGroup :=
  c.groups.find? (·.name == name)

/-- How a usage line names a group: its members between `<` and `>`, separated by `|`, a
positional value by its bare name and a flag or option as messages name it. -/
def groupDisplay (c : CommandSpec) (g : ArgGroup) : String :=
  let names := g.members.filterMap fun id => (c.args.find? (·.id == id)).map fun a =>
    match a.takes with
    | .positional name _ _ => name
    | _ => a.display
  "<" ++ "|".intercalate names ++ ">"

/-- The argument names `ids`, each group named right after the first of its members. -/
def withGroups (c : CommandSpec) (ids : List String) : List String :=
  ids.foldl (fun acc id =>
    let fresh := (c.groups.filter fun g => g.members.contains id && !acc.contains g.name).map (·.name)
    acc ++ [id] ++ fresh) []

/-- The usage line naming only the required arguments and the arguments and groups in `used`:
flags and options first, the required ones and then the used ones in the order given, then the
groups, then positional values. An argument of a named group is named only through its group. -/
def smartUsage (c : CommandSpec) (called : String) (used : List String) : String :=
  let order := (c.args.filter isRequired).map (·.id) ++ used
  let groups := (order.filterMap c.findGroup).eraseDups
  let grouped := groups.flatMap (·.members)
  let opts := (order.filterMap fun id =>
    if grouped.contains id then none else (c.options.find? (·.id == id)).map (·.display)).eraseDups
  let positionals := (c.positionals.filter fun a =>
    (isRequired a || used.contains a.id) && !grouped.contains a.id).map (·.display)
  let commands := if c.commands.isEmpty then [] else ["<COMMAND>"]
  " ".intercalate ([called] ++ opts ++ groups.map c.groupDisplay ++ positionals ++ commands)

/-- Whether the command has a help flag, to which error messages then point. -/
def hasHelpFlag (c : CommandSpec) : Bool := c.args.any (·.reaction == .showHelp)

/-- Pad `s` with spaces to `width` characters. -/
def padTo (width : Nat) (s : String) : String := s ++ String.ofList (List.replicate (width - s.length) ' ')

/-- A help section: its title, then one line per row with the left column padded to the widest
left column and two spaces before the right column. -/
def helpSection (title : String) (rows : List (String × String)) : String :=
  let width := rows.foldl (fun w r => max w r.1.length) 0
  let lines := rows.map fun (left, right) =>
    if right.isEmpty then left else padTo width left ++ "  " ++ right
  title ++ ":\n" ++ "\n".intercalate lines

/-- The help page of the command, called by `called`. -/
def helpPage (c : CommandSpec) (called : String) : String :=
  let commands := if c.commands.isEmpty then []
    else [helpSection "Commands" (c.commands.map fun (n, about) => ("  " ++ n, about))]
  let arguments := if c.positionals.isEmpty then []
    else [helpSection "Arguments" (c.positionals.map fun a => (a.helpSpec, a.helpText))]
  let options := if c.options.isEmpty then []
    else [helpSection "Options" (c.options.map fun a => (a.helpSpec, a.helpText))]
  c.about ++ "\n\nUsage: " ++ c.fullUsage called ++ "\n\n" ++
    "\n\n".intercalate (commands ++ arguments ++ options) ++ "\n"

end CommandSpec

end ZfsReplication.Cli
