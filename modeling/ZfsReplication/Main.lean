import ZfsReplication.Cli.Parse
import ZfsReplication.Config.Toml
import ZfsReplication.Pool.Basic

/-!
# The command line

Reads the command line and the configuration it names. Help, the version and refused command
lines are printed as the grammar renders them, with its exit status. With a configuration at hand
the command would discover the pools it works on; this build cannot run the discovery commands,
so it names the first one and stops with status 1.
-/

open ZfsReplication

/-- The configuration path of an invocation. -/
def configPath : Cli.Action → String
  | .tree config _ | .compare config => config
  | .snap run | .backup run | .cleanup run _ => run.config

/-- The side whose pool an invocation discovers first. -/
def firstSide : Cli.Action → Side
  | .tree _ side | .cleanup _ side => side
  | _ => .source

def main (args : List String) : IO UInt32 := do
  match Cli.parseCommandLine (Cli.programName :: args) with
  | .error refusal =>
    if refusal.kind.exitCode == 0 then IO.print refusal.message else IO.eprint refusal.message
    return refusal.kind.exitCode.toUInt32
  | .ok invocation =>
    let path := configPath invocation.action
    let contents ← try some <$> IO.FS.readFile path catch _ => pure none
    match Config.ofFile? contents with
    | .error e =>
      IO.eprintln ("Error: failed to load configuration from `" ++ path ++ "`\n\nCaused by:\n    " ++
        e.message)
      return 1
    | .ok config =>
      let command := Pool.discoveryCommand (firstSide invocation.action) config
      IO.eprintln ("Error: cannot run `" ++ command.render ++ "`")
      return 1
