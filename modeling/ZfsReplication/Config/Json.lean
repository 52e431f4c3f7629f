import ZfsReplication.Config.Basic
import ZfsReplication.Json.Decode
import ZfsReplication.Decimal.Read
import ZfsReplication.Json.Value

/-!
# Configurations as JSON values

Reading a configuration from a JSON value, and writing one. The fields carry their configuration names (`keep_snapshots`, `prefix`, …). A record refuses
members it does not know, and only the pool of a side and the two sides themselves must be given;
every other field has its default. `keep_backlog` is a signed 64-bit integer: -1 keeps all, and
a count is zero or more. A record may also be an array of its fields in order; `extraItems` says
whether items beyond the fields are ignored (as in a TOML document) or refused (as in JSON).
-/

set_option autoImplicit false

namespace ZfsReplication

open Json

/-- The largest value of an unsigned 16-bit word. -/
def maxPort : Nat := Nat.pow 2 16 - 1

/-- Reads a backlog policy: -1 keeps all, `n ≥ 0` keeps `n`. -/
def KeepBacklog.ofInt (i : Int) : Except String KeepBacklog :=
  if i == -1 then .ok .all
  else if 0 ≤ i then .ok (.count i.toNat)
  else .error ("keep_backlog must be -1 or at least 0, got " ++ toString i)

/-- Decodes a backlog policy from a signed 64-bit integer. -/
def KeepBacklog.decode : Decoder KeepBacklog := fun j => do
  let i ← decodeSigned64 j
  match KeepBacklog.ofInt i with
  | .ok k => pure k
  | .error m => throw (.custom m)

namespace SideConfig

/-- The fields of a side, in order. -/
def fields : List FieldSpec :=
  [⟨"zpool", false⟩, ⟨"prefix", true⟩, ⟨"host", true⟩, ⟨"user", true⟩, ⟨"port", true⟩,
    ⟨"processing", true⟩]

/-- Decodes the value of one field of a side. -/
def checkField (name : String) (v : Json) : Except DecodeError Unit :=
  if name == "port" then (decodeUnsigned maxPort "u16" v).map fun _ => ()
  else (decodeString v).map fun _ => ()

/-- Decodes a side. -/
def decode (extraItems : Bool) : Decoder SideConfig := fun j => do
  let present ← recordFields extraItems "SideConfig" fields checkField j
  let zpool ← fieldOr present "zpool" decodeString ""
  let pathPrefix ← fieldOr present "prefix" decodeString ""
  let host ← fieldOr present "host" decodeString "localhost"
  let user ← fieldOr present "user" decodeString ""
  let port ← fieldOr present "port" (decodeUnsigned maxPort "u16") 0
  let processing ← fieldOr present "processing" decodeString ""
  pure { zpool, pathPrefix, host, user, port, processing }

end SideConfig

namespace Compatibility

/-- The fields of the compatibility options, in order. -/
def fields : List FieldSpec :=
  [⟨"tagging", true⟩, ⟨"target_samba_noshare", true⟩, ⟨"target_autosnapshot_ignore", true⟩]

/-- Decodes the compatibility options. -/
def decode (extraItems : Bool) : Decoder Compatibility := fun j => do
  let present ←
    recordFields extraItems "Compatibility" fields (fun _ v => (decodeBool v).map fun _ => ()) j
  let tagging ← fieldOr present "tagging" decodeBool false
  let targetSambaNoshare ← fieldOr present "target_samba_noshare" decodeBool false
  let targetAutosnapshotIgnore ← fieldOr present "target_autosnapshot_ignore" decodeBool false
  pure { tagging, targetSambaNoshare, targetAutosnapshotIgnore }

end Compatibility

namespace SshConfig

/-- The fields of the SSH options, in order. -/
def fields : List FieldSpec := [⟨"compression", true⟩, ⟨"cipher", true⟩]

/-- Decodes the value of one SSH field. -/
def checkField (name : String) (v : Json) : Except DecodeError Unit :=
  if name == "compression" then (decodeBool v).map fun _ => ()
  else (decodeOption decodeString v).map fun _ => ()

/-- Decodes the SSH options; a `null` cipher is no cipher. -/
def decode (extraItems : Bool) : Decoder SshConfig := fun j => do
  let present ← recordFields extraItems "SshConfig" fields checkField j
  let compression ← fieldOr present "compression" decodeBool false
  let cipher ← fieldOr present "cipher" (decodeOption decodeString) none
  pure { compression, cipher }

end SshConfig

namespace Config

/-- The fields of a configuration, in order. -/
def fields : List FieldSpec :=
  [⟨"keep_snapshots", true⟩, ⟨"keep_backlog", true⟩, ⟨"suffix", true⟩, ⟨"digits", true⟩,
    ⟨"always_changed", true⟩, ⟨"written_threshold", true⟩, ⟨"check_diff", true⟩,
    ⟨"ignore", true⟩, ⟨"include_root", true⟩, ⟨"source", false⟩, ⟨"target", false⟩,
    ⟨"compatibility", true⟩, ⟨"ssh", true⟩]

/-- Decodes the value of one configuration field. -/
def checkField (extraItems : Bool) (name : String) (v : Json) : Except DecodeError Unit :=
  let done {α : Type} (r : Except DecodeError α) : Except DecodeError Unit := r.map fun _ => ()
  match name with
  | "keep_snapshots" => done (decodeUnsigned Decimal.maxUnsigned64 "usize" v)
  | "keep_backlog" => done (KeepBacklog.decode v)
  | "digits" => done (decodeUnsigned (Nat.pow 2 32 - 1) "u32" v)
  | "written_threshold" => done (decodeUnsigned Decimal.maxUnsigned64 "u64" v)
  | "ignore" => done (decodeStringSet v)
  | "source" | "target" => done (SideConfig.decode extraItems v)
  | "compatibility" => done (Compatibility.decode extraItems v)
  | "ssh" => done (SshConfig.decode extraItems v)
  | "suffix" => done (decodeString v)
  | _ => done (decodeBool v)

/-- Decodes a configuration. The rules of `validate` are not checked here. -/
def decode (extraItems : Bool) : Decoder Config := fun j => do
  let present ← recordFields extraItems "Config" fields (checkField extraItems) j
  let keepSnapshots ← fieldOr present "keep_snapshots"
    (decodeUnsigned Decimal.maxUnsigned64 "usize") 1
  let keepBacklog ← fieldOr present "keep_backlog" KeepBacklog.decode .all
  let suffix ← fieldOr present "suffix" decodeString ""
  let digits ← fieldOr present "digits" (decodeUnsigned (Nat.pow 2 32 - 1) "u32") 2
  let alwaysChanged ← fieldOr present "always_changed" decodeBool false
  let writtenThreshold ← fieldOr present "written_threshold"
    (decodeUnsigned Decimal.maxUnsigned64 "u64") 1048576
  let checkDiff ← fieldOr present "check_diff" decodeBool true
  let ignore ← fieldOr present "ignore" decodeStringSet {}
  let includeRoot ← fieldOr present "include_root" decodeBool true
  let source ← fieldOr present "source" (SideConfig.decode extraItems) { zpool := "" }
  let target ← fieldOr present "target" (SideConfig.decode extraItems) { zpool := "" }
  let compatibility ← fieldOr present "compatibility" (Compatibility.decode extraItems) {}
  let ssh ← fieldOr present "ssh" (SshConfig.decode extraItems) {}
  pure { keepSnapshots, keepBacklog, suffix, digits, alwaysChanged, writtenThreshold, checkDiff,
         ignore, includeRoot, source, target, compatibility, ssh }

end Config

end ZfsReplication

/-!
## Writing a configuration as a JSON value

Fields in declaration order under their configuration names; the backlog policy as a signed 64-bit
integer (-1 for all); no cipher member when there is none.
-/

namespace ZfsReplication

/-- A backlog policy as a signed 64-bit integer: -1 for all, a count capped at `2 ^ 63 - 1`. -/
def KeepBacklog.toInt : KeepBacklog → Int
  | .all => -1
  | .count n => min n (Int.pow 2 63 - 1)

/-- A side as a JSON object. -/
def SideConfig.toJson (s : SideConfig) : Json :=
  .obj [("zpool", .str s.zpool), ("prefix", .str s.pathPrefix), ("host", .str s.host),
    ("user", .str s.user), ("port", Json.nat s.port), ("processing", .str s.processing)]

/-- The compatibility options as a JSON object. -/
def Compatibility.toJson (c : Compatibility) : Json :=
  .obj [("tagging", .bool c.tagging), ("target_samba_noshare", .bool c.targetSambaNoshare),
    ("target_autosnapshot_ignore", .bool c.targetAutosnapshotIgnore)]

/-- The SSH options as a JSON object. -/
def SshConfig.toJson (s : SshConfig) : Json :=
  .obj ([("compression", .bool s.compression)] ++
    match s.cipher with
    | some c => [("cipher", .str c)]
    | none => [])

/-- A configuration as a JSON object. -/
def Config.toJson (c : Config) : Json :=
  .obj [("keep_snapshots", Json.nat c.keepSnapshots), ("keep_backlog", Json.int c.keepBacklog.toInt),
    ("suffix", .str c.suffix), ("digits", Json.nat c.digits),
    ("always_changed", .bool c.alwaysChanged), ("written_threshold", Json.nat c.writtenThreshold),
    ("check_diff", .bool c.checkDiff), ("ignore", .arr (c.ignore.names.map .str)),
    ("include_root", .bool c.includeRoot), ("source", c.source.toJson),
    ("target", c.target.toJson), ("compatibility", c.compatibility.toJson),
    ("ssh", c.ssh.toJson)]

end ZfsReplication
