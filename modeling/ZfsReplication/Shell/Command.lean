import ZfsReplication.Shell.Quote
import ZfsReplication.Config.Basic

/-!
# Command pipelines

A command is a pipeline of stages, each an argument vector; the output of each stage feeds the next.
Its text joins the quoted arguments of a stage by spaces and the stages by ` | `. A command for a
side that is not this machine is wrapped into one `ssh` stage whose last argument is the text of the
whole pipeline, so that the remote shell runs all of it. Reading the text back, as a shell splits
a pipeline of simple commands, gives the stages again. The `zfs` commands this tool runs close
the module.
-/

set_option autoImplicit false

namespace ZfsReplication.Shell

/-- A pipeline of argument vectors. -/
structure Command where
  stages : List (List String)
deriving DecidableEq, Repr, Inhabited

namespace Command

/-- A command of one stage. -/
def single (args : List String) : Command := ⟨[args]⟩

/-- `a | b`: the stages of `a`, then those of `b`. -/
def pipe (a b : Command) : Command := ⟨a.stages ++ b.stages⟩

/-- The shell text of the pipeline. -/
def render (c : Command) : String :=
  " | ".intercalate (c.stages.map fun stage => " ".intercalate (stage.map quote))

/-- The command run on the machine of `side`: unchanged on `localhost`, otherwise one stage
`ssh -T [-p port] -o Compression=yes|no [-c cipher] [user@]host text`. -/
def onSide (c : Command) (side : SideConfig) (ssh : SshConfig) : Command :=
  if side.isLocal then c
  else
    let port := if side.port != 0 then ["-p", toString side.port] else []
    let compression := if ssh.compression then "Compression=yes" else "Compression=no"
    let cipher := match ssh.cipher with
      | some name => ["-c", name]
      | none => []
    let destination := if side.user.isEmpty then side.host else side.user ++ "@" ++ side.host
    single (["ssh", "-T"] ++ port ++ ["-o", compression] ++ cipher ++ [destination, c.render])

/-- The command run on the machine of a configured side. -/
def forSide (c : Command) (s : Side) (config : Config) : Command :=
  c.onSide (config.side s) config.ssh

/-- Groups words into stages, a new stage starting after each bar. -/
def stagesOf : List Token → List (List String)
  | [] => [[]]
  | .bar :: rest => [] :: stagesOf rest
  | .word w :: rest =>
    match stagesOf rest with
    | [] => [[w]]
    | stage :: later => (w :: stage) :: later

/-- The stages of a pipeline read back from its shell text; text without words has none. -/
def read (text : String) : List (List String) :=
  match tokens text with
  | [] => []
  | ts => stagesOf ts

example : read (render ⟨[["zfs", "send", "tank@1"], ["sh", "-c", "gzip -1 | cat"]]⟩) =
    [["zfs", "send", "tank@1"], ["sh", "-c", "gzip -1 | cat"]] := by decide +kernel
example : read "" = [] := by decide +kernel

end Command

end ZfsReplication.Shell

/-!
## The commands this tool runs

Discovery (`zfs get`), change detection (`zfs diff`), snapshots, transfers (`zfs send` into
`zfs receive`), removal and property changes, and user-supplied processing through `sh -c`.
-/

namespace ZfsReplication.Shell

/-- The property that marks snapshots made by this tool, under tagging compatibility. -/
def markerProperty : String := "poolsync:type"

/-- The value of the marker property. -/
def markerValue : String := "backup"

/-- All properties of the tree below `root`, recursively, as parsable JSON. -/
def zfsGetAll (root : String) : Command :=
  .single ["zfs", "get", "all", "-r", "-p", "--json", "--json-int", root]

/-- The free bytes below `root`, as a bare number. -/
def zfsGetAvailable (root : String) : Command :=
  .single ["zfs", "get", "available", "-H", "-p", "-o", "value", root]

/-- The changes since `snapshot`. -/
def zfsDiff (snapshot : String) : Command := .single ["zfs", "diff", snapshot]

/-- Takes `snapshot`, carrying the marker when `tag` holds. -/
def zfsSnapshot (snapshot : String) (tag : Bool) : Command :=
  .single (["zfs", "snapshot"] ++ (if tag then ["-o", markerProperty ++ "=" ++ markerValue] else [])
    ++ [snapshot])

/-- Destroys `snapshot`. -/
def zfsDestroy (snapshot : String) : Command := .single ["zfs", "destroy", snapshot]

/-- Sends `snapshot` compressed, incrementally from `ancestor` if given. -/
def zfsSend (snapshot : String) (ancestor : Option String) : Command :=
  match ancestor with
  | none => .single ["zfs", "send", "-c", snapshot]
  | some a => .single ["zfs", "send", "-c", "-i", a, snapshot]

/-- Receives a stream into `dataset`. -/
def zfsReceive (dataset : String) : Command := .single ["zfs", "receive", dataset]

/-- Sets `property` to `value` on `entity`. -/
def zfsSet (property value entity : String) : Command :=
  .single ["zfs", "set", property ++ "=" ++ value, entity]

/-- Runs a shell script as a pipeline stage. -/
def processing (script : String) : Command := .single ["sh", "-c", script]

end ZfsReplication.Shell
