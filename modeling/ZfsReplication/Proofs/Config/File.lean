import Mathlib
import ZfsReplication.Config.Toml
import ZfsReplication.Proofs.Json.Records
import ZfsReplication.Proofs.Toml.Document
import ZfsReplication.Proofs.Pool.Naming

/-!
# Configuration files read back

A configuration is written as a document of plain entries and four tables, every entry on a line
of its own under a bare key (`Config.plainEntries`, `Config.tableEntries`). The document reads back
as itself, each table decodes to the record it was written from, and so a configuration that
passes `validate` and whose values a configuration file can hold (`Config.Writable`) is read back
from its own text, but for a backlog count past the signed 64-bit range, which is written capped
and so comes back capped (`Config.ofToml_toToml_clamp`); with the count within that range the
configuration comes back exactly (`Config.ofToml_toToml`).
-/

set_option autoImplicit false

namespace ZfsReplication

open Json

/-! ## Values as JSON -/

@[simp] theorem Json.int_natCast (n : Nat) : Json.int n = .num (.unsigned n) := by
  simp [Json.int]

theorem Toml.Value.itemsToJson_strs (names : List String) :
    Toml.Value.itemsToJson (names.map .str) = names.map Json.str := by
  induction names with
  | nil => rfl
  | cons name more ih => simp [Toml.Value.itemsToJson, Toml.Value.toJson, ih]

/-! ## Backlog policies -/

namespace KeepBacklog

/-- A policy that a signed 64-bit integer carries; every policy built from a count read as such an
integer is one. -/
def Fits : KeepBacklog → Prop
  | .all => True
  | .count n => n < 2 ^ 63

instance : DecidablePred Fits
  | .all => inferInstanceAs (Decidable True)
  | .count n => inferInstanceAs (Decidable (n < 2 ^ 63))

/-- The policy that the integer of `kb` gives back: a count past the signed 64-bit range comes back
as the largest count in it. -/
def clamp : KeepBacklog → KeepBacklog
  | .all => .all
  | .count n => .count (min n (2 ^ 63 - 1))

theorem clamp_eq_self_iff (kb : KeepBacklog) : kb.clamp = kb ↔ kb.Fits := by
  cases kb with
  | all => simp [clamp, Fits]
  | count n =>
    simp only [clamp, Fits, count.injEq]
    omega

theorem decode_toInt (kb : KeepBacklog) : KeepBacklog.decode (Json.int kb.toInt) = .ok kb.clamp := by
  cases kb with
  | all => rfl
  | count n =>
    -- the integer is the count, capped at the largest signed 64-bit integer
    have value : (count n).toInt = ((min n 9223372036854775807 : Nat) : Int) := by
      have limit : Int.pow 2 63 = 9223372036854775808 := rfl
      simp only [KeepBacklog.toInt, limit]
      omega
    have small : min n 9223372036854775807 < 9223372036854775808 := by omega
    have notAll : ¬ min (n : Int) 9223372036854775807 = -1 := by omega
    have count : (min (n : Int) 9223372036854775807).toNat = min n 9223372036854775807 := by omega
    rw [value, Json.int_natCast]
    simp [KeepBacklog.decode, decodeSigned64, small, KeepBacklog.ofInt, clamp, notAll, count]

end KeepBacklog

/-! ## Tables -/

theorem SideConfig.decode_toToml (s : SideConfig) (port : s.port ≤ maxPort) :
    SideConfig.decode true (.obj (Toml.Value.entriesToJson s.toToml)) = .ok s := by
  have distinct : ((Toml.Value.entriesToJson s.toToml).map (·.1)).Nodup := by
    simp [SideConfig.toToml, Toml.Value.entriesToJson]
  rw [SideConfig.decode, recordFields_obj distinct ?known ?required]
  · simp only [except_ok_bind, fieldOr_mapMembers distinct]
    simp [fieldOr, List.lookup_cons, SideConfig.toToml, Toml.Value.entriesToJson, Toml.Value.toJson,
      decodeString, decodeUnsigned, port]
  · simp [SideConfig.toToml, Toml.Value.entriesToJson, Toml.Value.toJson, SideConfig.fields,
      SideConfig.checkField, decodeString, decodeUnsigned, port, Except.map]
  · simp [SideConfig.toToml, Toml.Value.entriesToJson, SideConfig.fields]

theorem Compatibility.decode_toToml (c : Compatibility) :
    Compatibility.decode true (.obj (Toml.Value.entriesToJson c.toToml)) = .ok c := by
  have distinct : ((Toml.Value.entriesToJson c.toToml).map (·.1)).Nodup := by
    simp [Compatibility.toToml, Toml.Value.entriesToJson]
  rw [Compatibility.decode, recordFields_obj distinct ?known ?required]
  · simp only [except_ok_bind, fieldOr_mapMembers distinct]
    simp [fieldOr, List.lookup_cons, Compatibility.toToml, Toml.Value.entriesToJson, Toml.Value.toJson,
      decodeBool]
  · simp [Compatibility.toToml, Toml.Value.entriesToJson, Toml.Value.toJson, Compatibility.fields,
      decodeBool, Except.map]
  · simp [Compatibility.toToml, Toml.Value.entriesToJson, Compatibility.fields]

theorem SshConfig.decode_toToml (s : SshConfig) :
    SshConfig.decode true (.obj (Toml.Value.entriesToJson s.toToml)) = .ok s := by
  obtain ⟨compression, cipher⟩ := s
  have distinct :
      ((Toml.Value.entriesToJson (SshConfig.toToml ⟨compression, cipher⟩)).map (·.1)).Nodup := by
    cases cipher <;> simp [SshConfig.toToml, Toml.Value.entriesToJson]
  rw [SshConfig.decode, recordFields_obj distinct ?known ?required]
  · simp only [except_ok_bind, fieldOr_mapMembers distinct]
    cases cipher <;> simp [fieldOr, List.lookup_cons, SshConfig.toToml, Toml.Value.entriesToJson,
      Toml.Value.toJson, decodeBool, decodeOption, decodeString, Except.map]
  · cases cipher <;> simp [SshConfig.toToml, Toml.Value.entriesToJson, Toml.Value.toJson,
      SshConfig.fields, SshConfig.checkField, decodeBool, decodeOption, decodeString, Except.map]
  · cases cipher <;> simp [SshConfig.toToml, Toml.Value.entriesToJson, SshConfig.fields]

open Toml in
theorem SideConfig.flat_toToml (s : SideConfig) (port : s.port ≤ maxPort) : Flat s.toToml where
  bare := by simp [SideConfig.toToml, Bare, isBareKeyChar]
  inline := by
    have limit : maxPort < 2 ^ 63 := by decide
    simp only [SideConfig.toToml, List.forall_mem_cons]
    exact ⟨.str _, .str _, .str _, .str _, .int (by omega) (by omega), .str _, by simp⟩
  distinct := by simp [SideConfig.toToml]

open Toml in
theorem Compatibility.flat_toToml (c : Compatibility) : Flat c.toToml where
  bare := by simp [Compatibility.toToml, Bare, isBareKeyChar]
  inline := by
    simp only [Compatibility.toToml, List.forall_mem_cons]
    exact ⟨.bool _, .bool _, .bool _, by simp⟩
  distinct := by simp [Compatibility.toToml]

open Toml in
theorem SshConfig.flat_toToml (s : SshConfig) : Flat s.toToml := by
  obtain ⟨compression, cipher⟩ := s
  cases cipher <;> exact ⟨by simp [SshConfig.toToml, Bare, isBareKeyChar],
    by simp [SshConfig.toToml, Inline.bool, Inline.str], by simp [SshConfig.toToml]⟩

/-! ## Configurations -/

namespace Config

/-- The entries of a configuration's document before its tables. -/
def plainEntries (c : Config) : List (String × Toml.Value) :=
  [("keep_snapshots", .int c.keepSnapshots), ("keep_backlog", .int c.keepBacklog.toInt),
    ("suffix", .str c.suffix), ("digits", .int c.digits), ("always_changed", .bool c.alwaysChanged),
    ("written_threshold", .int c.writtenThreshold), ("check_diff", .bool c.checkDiff),
    ("ignore", .arr (c.ignore.names.map .str)), ("include_root", .bool c.includeRoot)]

/-- The tables of a configuration's document. -/
def tableEntries (c : Config) : List (String × List (String × Toml.Value)) :=
  [("source", c.source.toToml), ("target", c.target.toToml),
    ("compatibility", c.compatibility.toToml), ("ssh", c.ssh.toToml)]

theorem toTomlTable_eq {c : Config} (keep : c.keepSnapshots < 2 ^ 63)
    (written : c.writtenThreshold < 2 ^ 63) :
    c.toTomlTable = some (c.plainEntries ++ c.tableEntries.map fun t => (t.1, .table t.2)) := by
  simp only [toTomlTable, plainEntries, tableEntries]
  rw [if_neg (by simp; omega)]
  rfl

/-- What the types of a configuration promise beyond `validate`, with the kept snapshots and the
written threshold in the range of TOML integers: both fit a signed 64-bit integer, and the ports
fit 16 bits. -/
structure Writable (c : Config) : Prop where
  keepSnapshots : c.keepSnapshots < 2 ^ 63
  writtenThreshold : c.writtenThreshold < 2 ^ 63
  sourcePort : c.source.port ≤ maxPort
  targetPort : c.target.port ≤ maxPort

theorem decode_entries {c : Config} (valid : c.validate = .ok ()) (writable : c.Writable) :
    Config.decode true (.obj (Toml.Value.entriesToJson
      (c.plainEntries ++ c.tableEntries.map fun t => (t.1, .table t.2)))) =
      .ok { c with keepBacklog := c.keepBacklog.clamp } := by
  obtain ⟨-, small⟩ := Config.digits_of_validate valid
  have wide : Decimal.maxUnsigned64 = 2 ^ 64 - 1 := rfl
  have keep : c.keepSnapshots ≤ Decimal.maxUnsigned64 := by have := writable.keepSnapshots; omega
  have written : c.writtenThreshold ≤ Decimal.maxUnsigned64 := by
    have := writable.writtenThreshold; omega
  have digits : c.digits ≤ Nat.pow 2 32 - 1 := by
    have : Nat.pow 2 32 = 2 ^ 32 := rfl
    omega
  have distinct : ((Toml.Value.entriesToJson
      (c.plainEntries ++ c.tableEntries.map fun t => (t.1, .table t.2))).map (·.1)).Nodup := by
    simp [plainEntries, tableEntries, Toml.Value.entriesToJson]
  -- what each member's value decodes to, by the decoder of its field
  have backlog := KeepBacklog.decode_toInt c.keepBacklog
  have source := SideConfig.decode_toToml c.source writable.sourcePort
  have target := SideConfig.decode_toToml c.target writable.targetPort
  have ignore := decodeStringSet_names c.ignore
  rw [Config.decode, recordFields_obj distinct ?known ?required]
  · -- the map of the members finds each field where the document put it
    simp only [except_ok_bind, fieldOr_mapMembers distinct]
    simp [fieldOr, List.lookup_cons, plainEntries, tableEntries, Toml.Value.entriesToJson,
      Toml.Value.toJson, Toml.Value.itemsToJson_strs, decodeBool, decodeString, decodeUnsigned, keep,
      written, digits, backlog, source, target, Compatibility.decode_toToml, SshConfig.decode_toToml,
      ignore]
  · simp [plainEntries, tableEntries, Toml.Value.entriesToJson, Toml.Value.toJson,
      Toml.Value.itemsToJson_strs, Config.fields, Config.checkField, decodeBool, decodeString,
      decodeUnsigned, keep, written, digits, backlog, source, target, Compatibility.decode_toToml,
      SshConfig.decode_toToml, ignore, Except.map]
  · simp [plainEntries, tableEntries, Toml.Value.entriesToJson, Config.fields]

open Toml in
theorem flat_plainEntries {c : Config} (valid : c.validate = .ok ()) (writable : c.Writable) :
    Flat c.plainEntries where
  bare := by simp [plainEntries, Bare, isBareKeyChar]
  inline := by
    have keep := writable.keepSnapshots
    have written := writable.writtenThreshold
    obtain ⟨-, digits⟩ := digits_of_validate valid
    have backlog : -(2 ^ 63) ≤ c.keepBacklog.toInt ∧ c.keepBacklog.toInt < 2 ^ 63 := by
      have limit : Int.pow 2 63 = 2 ^ 63 := rfl
      cases c.keepBacklog <;> simp only [KeepBacklog.toInt, limit] <;> omega
    simp only [plainEntries, List.forall_mem_cons]
    refine ⟨.int (by omega) (by omega), .int backlog.1 backlog.2, .str _,
      .int (by omega) (by omega), .bool _, .int (by omega) (by omega), .bool _, .arr ?_, .bool _,
      by simp⟩
    simp [Inline.str]
  distinct := by simp [plainEntries]

theorem flat_tableEntries {c : Config} (writable : c.Writable) :
    ∀ t ∈ c.tableEntries, Toml.Flat t.2 := by
  simp only [tableEntries, List.forall_mem_cons]
  exact ⟨c.source.flat_toToml writable.sourcePort, c.target.flat_toToml writable.targetPort,
    c.compatibility.flat_toToml, c.ssh.flat_toToml, by simp⟩

/-- The text of a configuration whose counts a TOML integer holds is its document written out. -/
theorem toToml_eq {c : Config} (writable : c.Writable) :
    c.toToml = some (Toml.write (c.plainEntries ++ c.tableEntries.map fun t => (t.1, .table t.2))) := by
  rw [toToml, toTomlTable_eq writable.keepSnapshots writable.writtenThreshold]
  rfl

/-- The document of a configuration that passes `validate` reads back as the configuration, but for
a backlog count past the signed 64-bit range, which comes back capped. -/
theorem ofToml_write {c : Config} (valid : c.validate = .ok ()) (writable : c.Writable) :
    Config.ofToml (Toml.write (c.plainEntries ++ c.tableEntries.map fun t => (t.1, .table t.2))) =
      .ok { c with keepBacklog := c.keepBacklog.clamp } := by
  have bare : ∀ t ∈ c.tableEntries, Toml.Bare t.1 := by
    simp [tableEntries, Toml.Bare, Toml.isBareKeyChar]
  have distinct : (c.plainEntries.map (·.1) ++ c.tableEntries.map (·.1)).Nodup := by
    simp [plainEntries, tableEntries]
  have read := Toml.read_write_plain_tables (flat_plainEntries valid writable)
    (by simp [plainEntries]) (flat_tableEntries writable) bare distinct
  -- `validate` reads no backlog policy
  have valid' : ({ c with keepBacklog := c.keepBacklog.clamp } : Config).validate = .ok () := valid
  -- the text reads back as the document, which decodes to the configuration, which `validate`
  -- accepts
  rw [ofToml, read]
  simp only
  rw [decode_entries valid writable]
  simp [valid', Except.map]

/-- A configuration that passes `validate` and whose counts and ports its file can hold is written
to a text that reads back as the same configuration, but for a backlog count past the signed
64-bit range, which comes back capped. -/
theorem ofToml_toToml_clamp {c : Config} (valid : c.validate = .ok ()) (writable : c.Writable) :
    ∃ text, c.toToml = some text ∧
      Config.ofToml text = .ok { c with keepBacklog := c.keepBacklog.clamp } :=
  ⟨_, toToml_eq writable, ofToml_write valid writable⟩

/-- A configuration with every field away from its default. -/
def populated : Config where
  keepSnapshots := 3
  keepBacklog := .count 7
  suffix := "_daily"
  digits := 3
  alwaysChanged := true
  writtenThreshold := 4096
  checkDiff := false
  ignore := ⟨["scratch", "vm/swap"], by decide⟩
  includeRoot := false
  source := { zpool := "tank", pathPrefix := "data", processing := "lz4 -c" }
  target := { zpool := "backup", pathPrefix := "laptop/data", host := "nas.local", user := "root",
              port := 2222, processing := "lz4 -dc" }
  compatibility := { tagging := true, targetSambaNoshare := true, targetAutosnapshotIgnore := true }
  ssh := { compression := true, cipher := some "aes256-gcm@openssh.com" }

/-- `populated`, keeping a backlog of `2 ^ 63` snapshots: one more than a signed 64-bit integer
holds. -/
def hugeBacklog : Config := { populated with keepBacklog := .count (2 ^ 63) }

theorem ofToml_toToml_clamp_hugeBacklog :
    hugeBacklog.validate = .ok () ∧ hugeBacklog.Writable ∧
      ∃ text, hugeBacklog.toToml = some text ∧
        Config.ofToml text = .ok { hugeBacklog with keepBacklog := .count (2 ^ 63 - 1) } := by
  have valid : hugeBacklog.validate = .ok () := rfl
  have writable : hugeBacklog.Writable := ⟨by decide, by decide, by decide, by decide⟩
  have capped : hugeBacklog.keepBacklog.clamp = .count (2 ^ 63 - 1) := rfl
  have roundTrip := ofToml_toToml_clamp valid writable
  rw [capped] at roundTrip
  exact ⟨valid, writable, roundTrip⟩

/-- A configuration keeping a backlog of `2 ^ 63` snapshots passes `validate` and its file holds its
counts, yet its file does not read back as itself: the count is written as the largest signed
64-bit integer. -/
theorem hugeBacklog_not_read_back :
    hugeBacklog.validate = .ok () ∧ hugeBacklog.keepSnapshots < 2 ^ 63 ∧
      hugeBacklog.writtenThreshold < 2 ^ 63 ∧
      ¬ ∃ text, hugeBacklog.toToml = some text ∧ Config.ofToml text = .ok hugeBacklog := by
  have valid : hugeBacklog.validate = .ok () := rfl
  have writable : hugeBacklog.Writable := ⟨by decide, by decide, by decide, by decide⟩
  refine ⟨valid, writable.keepSnapshots, writable.writtenThreshold, ?_⟩
  rintro ⟨text, written, read⟩
  rw [toToml_eq writable, Option.some.injEq] at written
  rw [← written, ofToml_write valid writable] at read
  -- the backlog read back is the capped count, not the count written
  have backlog := congrArg Config.keepBacklog (Except.ok.inj read)
  have capped : hugeBacklog.keepBacklog.clamp ≠ hugeBacklog.keepBacklog := by decide
  exact capped backlog

/-- A configuration that passes `validate`, whose counts and ports its file can hold and whose
backlog policy a signed 64-bit integer carries is written to a text that reads back as the same
configuration. -/
theorem ofToml_toToml {c : Config} (valid : c.validate = .ok ()) (writable : c.Writable)
    (fits : c.keepBacklog.Fits) : ∃ text, c.toToml = some text ∧ Config.ofToml text = .ok c := by
  have read := ofToml_write valid writable
  rw [(KeepBacklog.clamp_eq_self_iff c.keepBacklog).2 fits] at read
  exact ⟨_, toToml_eq writable, read⟩

example : populated.validate = .ok () ∧ populated.Writable ∧ populated.keepBacklog.Fits ∧
    ∃ text, populated.toToml = some text ∧ Config.ofToml text = .ok populated :=
  have valid : populated.validate = .ok () := rfl
  have writable : populated.Writable := ⟨by decide, by decide, by decide, by decide⟩
  have fits : populated.keepBacklog.Fits := by decide
  ⟨valid, writable, fits, ofToml_toToml valid writable fits⟩

end Config

end ZfsReplication
