import ZfsReplication.Shell.Command
import ZfsReplication.Text.Unicode

/-!
# Running commands

A `Runner` answers each command it is given, by its position in the sequence of commands run so far:
it either fails to start it or reports the standard output of the last stage and the error output and
exit status of every stage. A `Session` pairs a runner with the commands issued to it, in order.

Running a command succeeds when every stage exits with status 0; otherwise the failure carries the
command's text, the statuses, and the error output of the stages that wrote any, each without
trailing blanks.
-/

set_option autoImplicit false

namespace ZfsReplication.Shell

/-- What running a pipeline reported. -/
structure Output where
  /-- Standard output of the last stage. -/
  stdout : String := ""
  /-- Error output per stage. -/
  stderr : List String := []
  /-- Exit status per stage; `none` for a stage killed by a signal. -/
  status : List (Option Int) := []
deriving DecidableEq, Repr

namespace Output

/-- Whether every stage exited with status 0. -/
def succeeded (o : Output) : Bool := o.status.all (· == some 0)

/-- The error output of the stages that wrote anything but blanks, each without trailing blanks,
one per line. -/
def stderrText (o : Output) : String :=
  "\n".intercalate ((o.stderr.filter fun s => !Text.isBlankText s).map Text.trimEnd)

end Output

/-- Why running a command failed. -/
inductive ExecutionError where
  /-- The command could not be started. -/
  | spawn (command reason : String)
  /-- A stage exited with a status other than 0. -/
  | failed (command : String) (status : List (Option Int)) (stderr : String)
  /-- The output could not be understood. -/
  | parse (command reason : String)
deriving DecidableEq, Repr

/-- Exit statuses as a bracketed list: `[Some(1), None]`. -/
def statusText (status : List (Option Int)) : String :=
  "[" ++ ", ".intercalate (status.map fun
    | some c => "Some(" ++ toString c ++ ")"
    | none => "None") ++ "]"

/-- The text of an execution error. -/
def ExecutionError.message : ExecutionError → String
  | .spawn command reason => "failed to spawn `" ++ command ++ "`: " ++ reason
  | .failed command status stderr =>
    "running command failed with " ++ statusText status ++ ": `" ++ command ++ "`\nStderr:\n" ++
      stderr
  | .parse command reason => "failed to interpret output of `" ++ command ++ "`: " ++ reason

/-- How a runner answers one command. -/
inductive Response where
  | spawnFailure (reason : String)
  | finished (output : Output)

/-- Something that runs commands: it answers the command with the given position (from 0). -/
structure Runner where
  respond : Nat → Command → Response

/-- A runner and the commands issued to it so far. -/
structure Session where
  runner : Runner
  issued : List Command := []

/-- Computations that run commands. -/
abbrev Exec := StateM Session

/-- Issues `c` and answers what the runner reported. -/
def execute (c : Command) : Exec Response := fun s =>
  (s.runner.respond s.issued.length c, { s with issued := s.issued ++ [c] })

/-- Runs `c`, failing unless it could be started and every stage exited with status 0. -/
def run (c : Command) : Exec (Except ExecutionError Output) := do
  match ← execute c with
  | .spawnFailure reason => pure (.error (.spawn c.render reason))
  | .finished out =>
    if out.succeeded then pure (.ok out)
    else pure (.error (.failed c.render out.status out.stderrText))

/-! ## Scripted runners -/

/-- A per-stage field of a scripted reply: one value for every stage, or the list as given. -/
inductive PerStage (α : Type) where
  | each (a : α)
  | exactly (items : List α)

/-- The values for a command of `stages` stages. -/
def PerStage.expand {α : Type} : PerStage α → Nat → List α
  | .each a, stages => List.replicate stages a
  | .exactly items, _ => items

/-- A scripted answer to one command. -/
structure Reply where
  stdout : String := ""
  stderr : PerStage String := .each ""
  status : PerStage (Option Int) := .each (some 0)
  /-- When set, the command cannot be started, for this reason. -/
  spawnError : Option String := none

/-- The answer of a reply to `c`. -/
def Reply.response (r : Reply) (c : Command) : Response :=
  match r.spawnError with
  | some reason => .spawnFailure reason
  | none =>
    .finished { stdout := r.stdout, stderr := r.stderr.expand c.stages.length,
                status := r.status.expand c.stages.length }

/-- A runner answering the `n`-th command with the `n`-th reply, and with the default reply (no
output, status 0 everywhere) past the end. -/
def Runner.scripted (replies : List Reply) : Runner :=
  ⟨fun n c => (replies.getD n {}).response c⟩

end ZfsReplication.Shell
