import ZfsReplication.Pool.Row
import ZfsReplication.Property
import ZfsReplication.Config.Basic
import ZfsReplication.Chain
import ZfsReplication.Shell.Command

/-!
# Snapshots

A snapshot as discovered on one side: its name, the dataset it belongs to (full and relative to the
side's root), and its properties. Two snapshots are the same snapshot when they sit at the same
relative place under the same name, whichever side they are on.
-/

set_option autoImplicit false

namespace ZfsReplication

/-- The property of `name` among `properties` listed in row order: the last one counts. -/
def lookupProperty (properties : List Property) (name : String) : Option Property :=
  properties.reverse.find? (·.name == name)

/-- One property per name, the last one of each, in order of first appearance. -/
def distinctProperties (properties : List Property) : List Property :=
  (properties.map (·.name)).eraseDups.filterMap (lookupProperty properties)

/-- A discovered snapshot. -/
structure Snapshot where
  name : String
  /-- The full name of its dataset. -/
  parent : String
  /-- Its dataset relative to the side's root. -/
  subparent : String
  /-- Properties in row order. -/
  properties : List Property
  side : Side

instance : Named Snapshot := ⟨Snapshot.name⟩

namespace Snapshot

/-- The snapshot discovered under `fullName` (`dataset@name`, split at the first `@`) with its
rows, if its dataset lies below `root`. -/
def ofRows (fullName : String) (rows : List Row) (side : Side) (root : String) :
    Option Snapshot :=
  let parent := String.ofList (fullName.toList.takeWhile (· != '@'))
  match fullName.toList.dropWhile (· != '@') with
  | [] => none
  | _ :: name =>
    (Name.relative root parent).map fun subparent =>
      { name := String.ofList name, parent, subparent,
        properties := rows.map fun r => Property.ofTexts r.property r.value r.source, side }

/-- `dataset@name`. -/
def fullName (s : Snapshot) : String := s.parent ++ "@" ++ s.name

/-- The property of a name, if discovered. -/
def get? (s : Snapshot) (n : String) : Option Property := lookupProperty s.properties n

/-- The property of a name, absent if not discovered. -/
def property (s : Snapshot) (n : String) : Property := (s.get? n).getD (Property.absent n)

/-- Whether the snapshot carries the marker of this tool. -/
def isMarked (s : Snapshot) : Bool := (s.get? Shell.markerProperty).bind (·.text?) == some Shell.markerValue

/-- Whether two snapshots are the same snapshot: same relative dataset, same name. -/
def sameAs (a b : Snapshot) : Bool := a.subparent == b.subparent && a.name == b.name

/-- The snapshot right before `s` in `context`. -/
def ancestorIn (s : Snapshot) (context : List Snapshot) : Option Snapshot :=
  match context.findIdx? (sameAs · s) with
  | some (i + 1) => context[i]?
  | _ => none

end Snapshot

end ZfsReplication
