import ZfsReplication.Config.Json
import ZfsReplication.Toml.Reader
import ZfsReplication.Toml.Writer

/-!
# Configuration files

A configuration file is a TOML document with the fields of `Config.decode`. Reading one decodes and
then validates it; writing one gives the plain fields first and then the tables `source`, `target`,
`compatibility` and `ssh`.
-/

set_option autoImplicit false

namespace ZfsReplication

/-- A side as TOML entries. -/
def SideConfig.toToml (s : SideConfig) : List (String × Toml.Value) :=
  [("zpool", .str s.zpool), ("prefix", .str s.pathPrefix), ("host", .str s.host),
    ("user", .str s.user), ("port", .int s.port), ("processing", .str s.processing)]

/-- The compatibility options as TOML entries. -/
def Compatibility.toToml (c : Compatibility) : List (String × Toml.Value) :=
  [("tagging", .bool c.tagging), ("target_samba_noshare", .bool c.targetSambaNoshare),
    ("target_autosnapshot_ignore", .bool c.targetAutosnapshotIgnore)]

/-- The SSH options as TOML entries; no cipher entry when there is none. -/
def SshConfig.toToml (s : SshConfig) : List (String × Toml.Value) :=
  [("compression", .bool s.compression)] ++
    match s.cipher with
    | some c => [("cipher", .str c)]
    | none => []

namespace Config

/-- The configuration as a TOML document; `none` when a count is beyond the signed 64-bit range,
which TOML integers cannot hold. -/
def toTomlTable (c : Config) : Option (List (String × Toml.Value)) :=
  if c.keepSnapshots ≥ Nat.pow 2 63 || c.writtenThreshold ≥ Nat.pow 2 63 then none
  else some
    [("keep_snapshots", .int c.keepSnapshots), ("keep_backlog", .int c.keepBacklog.toInt),
      ("suffix", .str c.suffix), ("digits", .int c.digits),
      ("always_changed", .bool c.alwaysChanged), ("written_threshold", .int c.writtenThreshold),
      ("check_diff", .bool c.checkDiff), ("ignore", .arr (c.ignore.names.map .str)),
      ("include_root", .bool c.includeRoot), ("source", .table c.source.toToml),
      ("target", .table c.target.toToml), ("compatibility", .table c.compatibility.toToml),
      ("ssh", .table c.ssh.toToml)]

/-- The text of a configuration file. -/
def toToml (c : Config) : Option String := c.toTomlTable.map Toml.write

/-- Reads and validates a configuration file's text. A text that is no TOML document, or whose
values do not fit the fields, is malformed. -/
def ofToml (text : String) : Except ConfigError Config :=
  match Toml.read text with
  | none => .error .malformed
  | some root =>
    match decode true (.obj (Toml.Value.entriesToJson root)) with
    | .error _ => .error .malformed
    | .ok c => c.validate.map fun _ => c

/-- Reads a configuration file from its contents, `none` standing for a file that does not exist. -/
def ofFile? (contents : Option String) : Except ConfigError Config :=
  match contents with
  | some text => ofToml text
  | none => .error (.unreadable "No such file or directory (os error 2)")

end Config

end ZfsReplication
