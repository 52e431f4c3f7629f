import ZfsReplication.Plan.Planner
import ZfsReplication.Transaction.List
import ZfsReplication.Config.Json
import ZfsReplication.Cli.Parse
import ZfsReplication.Json.Decode

/-!
# JSON reports

Plans, transactions, commands and errors as JSON values, for tools that read the program's
decisions rather than its tables.

* A property value is `{"i": digits}`, `{"f": text}` or `{"t": text}`; integers travel as text so
  that large ones stay exact, floats as their shortest positional decimal text.
* A transaction is its kind, its keys in column order, its description by key, and its command
  with the stages and the shell text.
* An error is `{"error": kind, "message": text}`, the kind naming the family and the variant, such
  as `Alignment.NoOverlap` or `Execution.Failed`; an alignment error met while planning also
  names its dataset.
-/

set_option autoImplicit false

namespace ZfsReplication.Report

open Shell

/-- An error object with its kind and message. -/
def failure (kind message : String) : Json :=
  .obj [("error", .str kind), ("message", .str message)]

/-- The variant name of an alignment error. -/
def alignmentKind : AlignmentError → String
  | .noOverlap .. => "NoOverlap"
  | .gap _ => "Gap"
  | .nameMismatch .. => "NameMismatch"
  | .missingAnchor _ => "MissingAnchor"
  | .headMismatch _ => "HeadMismatch"
  | .overlapMismatch _ => "OverlapMismatch"
  | .duplicateName _ => "DuplicateName"
  | .notConsecutive => "NotConsecutive"

/-- An alignment error. -/
def alignmentError (e : AlignmentError) : Json := failure ("Alignment." ++ alignmentKind e) e.message

/-- The variant name of an execution error. -/
def executionKind : ExecutionError → String
  | .spawn .. => "Spawn"
  | .failed .. => "Failed"
  | .parse .. => "Parse"

/-- An execution error. -/
def executionError (e : ExecutionError) : Json := failure ("Execution." ++ executionKind e) e.message

/-- A planning error; an alignment error names the dataset it was met in. -/
def planError : PlanError → Json
  | e@(.alignment dataset cause) =>
    .obj [("error", .str ("Plan.Alignment." ++ alignmentKind cause)), ("dataset", .str dataset),
      ("message", .str e.message)]
  | e@(.capacity _) => failure "Plan.Capacity" e.message
  | .execution e => executionError e
  | e@(.wrongSide ..) => failure "Plan.WrongSide" e.message

/-- A configuration error; a document that is no configuration has no message. -/
def configError : ConfigError → Json
  | e@(.unreadable _) => failure "Config.Io" e.message
  | .malformed => .obj [("error", .str "Config.Parse")]
  | e@(.invalid ..) => failure "Config.Invalid" e.message

/-- A configuration whose fields do not fit. -/
def decodeError (e : Json.DecodeError) : Json := failure "Config.Deserialize" e.message

/-- A property value, or `null` when absent. -/
def propertyValue : Option PropertyValue → Json
  | none => .null
  | some (.integer i) => .obj [("i", .str (toString i))]
  | some v@(.float _) => .obj [("f", .str v.render)]
  | some (.text s) => .obj [("t", .str s)]

/-- A list of strings. -/
def strings (xs : List String) : Json := .arr (xs.map .str)

/-- A command: its stages and its shell text. -/
def command (c : Command) : Json :=
  .obj [("stages", .arr (c.stages.map strings)), ("text", .str c.render)]

/-- A transaction: kind, keys, description and command. -/
def transaction (t : Transaction) : Json :=
  let keys := t.details.keys
  .obj [("kind", .str t.details.kind.name), ("keys", strings (keys.map Field.name)),
    ("meta", .obj (keys.map fun f => (f.name, propertyValue (t.details.get? f)))),
    ("command", command t.command)]

/-- The members describing a list of transactions: the transactions, the columns and the table. -/
def transactionList (l : TransactionList) : List (String × Json) :=
  [("transactions", .arr (l.transactions.map transaction)),
   ("columns", strings (l.columns.map Field.name)), ("table", .str l.render)]

/-- A side by name. -/
def side (s : Side) : Json := .str s.name

/-- The run options of a command. -/
def runOptions (r : Cli.RunOptions) : Json :=
  .obj [("config", .str r.config), ("yes", .bool r.yes), ("dry_run", .bool r.dryRun)]

/-- What the program was asked to do. -/
def action : Cli.Action → Json
  | .tree config s => .obj [("action", .str "tree"), ("config", .str config), ("side", side s)]
  | .compare config => .obj [("action", .str "compare"), ("config", .str config)]
  | .snap r => .obj [("action", .str "snap"), ("run", runOptions r)]
  | .backup r => .obj [("action", .str "backup"), ("run", runOptions r)]
  | .cleanup r s => .obj [("action", .str "cleanup"), ("run", runOptions r), ("side", side s)]

/-- A command line: the invocation, or the refusal with its kind, exit status and text. -/
def commandLine : Except Cli.Refusal Cli.Invocation → Json
  | .ok i => .obj [("verbose", .bool i.verbose), ("action", action i.action)]
  | .error r =>
    .obj [("error", .str "Clap"), ("kind", .str r.kind.name), ("exit_code", .nat r.kind.exitCode),
      ("message", .str r.message)]

end ZfsReplication.Report
