import ZfsReplication.Json.Decode

/-!
# Configuration

Dataset names below a root, and the configuration. Which pool and prefix each side uses, how to reach it, and the policies for naming, change
detection and retention. `Config.validate` checks the rules every plan relies on and reports the
first rule broken, in a fixed order.
-/

set_option autoImplicit false

/-!
## Dataset names

Dataset names are slash-separated paths below a pool. `join` builds a name from a root and a
relative part, and `relative` reads a name back relative to a root.
-/

namespace ZfsReplication.Name

/-- Whether `c` is trimmed from the ends of a name part: a slash or a blank. -/
def isEdge (c : Char) : Bool := c == '/' || Text.isBlank c

/-- Joins two name parts with a slash, after trimming slashes and blanks from the ends of each and
leaving out parts that are then empty. -/
def join (root rest : String) : String :=
  let parts := [root, rest].map fun part => Text.trimBy isEdge part.toList
  String.ofList (['/'].intercalate (parts.filter (!·.isEmpty)))

/-- `name` relative to `root`: the empty text for the root itself, the rest after `root/` for a
name below it, and `none` for any other name. -/
def relative (root name : String) : Option String :=
  if root.toList.isPrefixOf name.toList then
    match name.toList.drop root.length with
    | [] => some ""
    | '/' :: rest => some (String.ofList rest)
    | _ => none
  else none

example : join "tank" "a" = "tank/a" := by decide
example : join "/tank/" "" = "tank" := by decide
example : relative "tank" "tank//a" = some "/a" := by decide
example : relative "tank" "tanker" = none := by decide

end ZfsReplication.Name

namespace ZfsReplication

/-- One of the two pools: snapshots are taken on the source and sent to the target. -/
inductive Side where
  | source
  | target
deriving DecidableEq, Repr

namespace Side

/-- The other side. -/
def other : Side → Side
  | .source => .target
  | .target => .source

/-- The name of a side, as messages and configuration fields spell it. -/
def name : Side → String
  | .source => "source"
  | .target => "target"

end Side

/-- How many target snapshots older than the overlap with the source are kept. -/
inductive KeepBacklog where
  | all
  | count (n : Nat)
deriving DecidableEq, Repr

/-- Where one side lives and how to reach it. -/
structure SideConfig where
  zpool : String
  /-- Path below the pool under which the tree lives. -/
  pathPrefix : String := ""
  host : String := "localhost"
  user : String := ""
  /-- SSH port; 0 leaves it to the SSH configuration. -/
  port : Nat := 0
  /-- Shell command piped after sending (source) or before receiving (target). -/
  processing : String := ""
deriving DecidableEq, Repr

/-- Whether the side is this machine, which holds exactly for the host `localhost`. -/
def SideConfig.isLocal (s : SideConfig) : Bool := s.host == "localhost"

/-- Options for living beside other snapshot tools. -/
structure Compatibility where
  /-- Only snapshots carrying the marker property take part in alignment. -/
  tagging : Bool := false
  targetSambaNoshare : Bool := false
  targetAutosnapshotIgnore : Bool := false
deriving DecidableEq, Repr

/-- How SSH connections are made. -/
structure SshConfig where
  compression : Bool := false
  cipher : Option String := none
deriving DecidableEq, Repr

/-- The whole configuration. -/
structure Config where
  /-- Snapshots always kept on the source side. -/
  keepSnapshots : Nat := 1
  keepBacklog : KeepBacklog := .all
  /-- Appended to every new snapshot name. -/
  suffix : String := ""
  /-- Width of the day's sequence number in snapshot names. -/
  digits : Nat := 2
  alwaysChanged : Bool := false
  /-- Bytes written after which a dataset counts as changed without diffing it. -/
  writtenThreshold : Nat := 1048576
  checkDiff : Bool := true
  /-- Relative dataset names left alone. -/
  ignore : StringSet := {}
  includeRoot : Bool := true
  source : SideConfig
  target : SideConfig
  compatibility : Compatibility := {}
  ssh : SshConfig := {}
deriving DecidableEq, Repr

/-- What can go wrong when reading a configuration. -/
inductive ConfigError where
  /-- The file could not be read. -/
  | unreadable (reason : String)
  /-- The text is no TOML document of a configuration. -/
  | malformed
  /-- A field breaks a rule of `Config.validate`. -/
  | invalid (field reason : String)
deriving DecidableEq, Repr

/-- The text of a configuration error. -/
def ConfigError.message : ConfigError → String
  | .unreadable reason => "failed to read configuration: " ++ reason
  | .malformed => "failed to parse configuration"
  | .invalid field reason => "invalid value in field `" ++ field ++ "`: " ++ reason

namespace Config

/-- The settings of one side. -/
def side (c : Config) : Side → SideConfig
  | .source => c.source
  | .target => c.target

/-- The dataset under which a side's tree lives: the pool joined with the prefix. -/
def root (c : Config) (s : Side) : String :=
  Name.join (c.side s).zpool (c.side s).pathPrefix

/-- Whether the relative name `subname` is ignored. -/
def ignores (c : Config) (subname : String) : Bool :=
  c.ignore.contains subname

/-- Whether a suffix character is allowed: an ASCII letter or digit or an underscore. -/
def isSuffixChar (ch : Char) : Bool := ch.isAlphanum || ch == '_'

/-- The first broken rule of a side, checking the pool before the host. -/
def validateSide (s : Side) (sc : SideConfig) : Except ConfigError Unit :=
  if Text.isBlankText sc.zpool then .error (.invalid (s.name ++ ".zpool") "must not be empty")
  else if Text.isBlankText sc.host then .error (.invalid (s.name ++ ".host") "must not be empty")
  else .ok ()

/-- Checks the rules in this order: both sides (source first), at least one kept snapshot, between
one and nine digits, the suffix alphabet, a positive written threshold, no empty ignored name, and
no empty cipher. -/
def validate (c : Config) : Except ConfigError Unit := do
  validateSide .source c.source
  validateSide .target c.target
  if c.keepSnapshots < 1 then throw (.invalid "keep_snapshots" "must be at least 1")
  if c.digits < 1 || c.digits > 9 then throw (.invalid "digits" "must be between 1 and 9")
  if !c.suffix.toList.all isSuffixChar then
    throw (.invalid "suffix" "may only contain letters, digits and underscores")
  if c.writtenThreshold == 0 then throw (.invalid "written_threshold" "must be positive")
  if c.ignore.names.any (·.isEmpty) then throw (.invalid "ignore" "entries must not be empty")
  if c.ssh.cipher == some "" then throw (.invalid "ssh.cipher" "must not be empty if set")

end Config

end ZfsReplication
