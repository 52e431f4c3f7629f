import ZfsReplication.Pool.Basic

/-!
# Sample trees

Small pools and runners for trying plans without a machine: a local configuration from `tank` to
`backup`, the discovery rows of plain filesystems and of marked snapshots, and a runner that
answers every command alike except for one chosen failure.
-/

set_option autoImplicit false

namespace ZfsReplication.Fixture

open Shell

/-- A local side on `zpool`, everything else at its default. -/
def sideConfig (zpool : String) : SideConfig := { zpool }

/-- Local `tank` to local `backup`, everything else at its default. -/
def config : Config := { source := sideConfig "tank", target := sideConfig "backup" }

/-- The rows of a plain filesystem for each relative name below `root` (the empty name is the root
itself): its type, its mountpoint `/name`, and nothing written. -/
def datasetRows (root : String) (subnames : List String) : List Row :=
  subnames.flatMap fun sub =>
    let name := Name.join root sub
    [⟨name, "type", "filesystem", "-"⟩, ⟨name, "mountpoint", "/" ++ name, "default"⟩,
      ⟨name, "written", "0", "-"⟩]

/-- The rows of marked snapshots of `dataset`, created in the given order with transaction groups
from 100 on. -/
def snapshotRows (dataset : String) (names : List String) : List Row :=
  names.zipIdx.flatMap fun (name, i) =>
    let full := dataset ++ "@" ++ name
    [⟨full, "type", "snapshot", "-"⟩, ⟨full, "createtxg", toString (100 + i), "-"⟩,
      ⟨full, markerProperty, markerValue, "local"⟩]

/-- A pool on `side` with the given datasets, each with its marked snapshots. -/
def pool (side : Side) (config : Config) (datasets : List (String × List String)) : Pool :=
  let root := config.root side
  Pool.ofRows (datasets.flatMap fun (sub, snaps) =>
    datasetRows root [sub] ++ snapshotRows (Name.join root sub) snaps) side config

/-- A runner answering every command with `stdout` and success, except the command at position
`failAt`, whose every stage fails with status 1 and error output `stderr`. -/
def recordingRunner (stdout : String) (failAt : Option Nat) (stderr : String) : Runner :=
  ⟨fun n c =>
    let failed := failAt == some n
    .finished { stdout,
                stderr := List.replicate c.stages.length (if failed then stderr else ""),
                status := List.replicate c.stages.length (some (if failed then 1 else 0)) }⟩

end ZfsReplication.Fixture
