import ZfsReplication.Json.Reader
import ZfsReplication.Json.Writer

/-!
# Discovery rows

Tree discovery yields one row per property of each dataset and snapshot: entity, property, value
and source, as the tab-separated `zfs get -H -p` output spells them. The JSON output of
`zfs get --json --json-int` is turned into such rows: entities in name order without bookmarks,
for each first the top-level creation transaction group unless a property of that name exists,
then the properties in name order. Every member of a map is decoded, also one that a later member of
the same name replaces. A `null` value is `-`, a string stays as it is, and any other
value is its compact JSON text, object members sorted by name with the last of equal names.
-/

set_option autoImplicit false

namespace ZfsReplication

/-- One discovered property of an entity. -/
structure Row where
  entity : String
  property : String
  value : String
  source : String
deriving DecidableEq, Repr

namespace Row

/-- The fields of a record read from JSON: the members with the given names of an object, where
each may occur once and other members are ignored, or the items of an array in field order; `none`
for anything else. -/
def recordFields (names : List String) : Json → Option (List (String × Json))
  | .obj members =>
    let known := members.filter fun m => names.contains m.1
    let distinct := known.map (·.1) |>.eraseDups
    if distinct.length == known.length then some known else none
  | .arr items => if items.length ≤ names.length then some (names.zip items) else none
  | _ => none

/-- The members of a map, each decoded by `d` in the order written, then sorted by name with the
last of equal names; `none` if any member fails to decode, also one that a later member of the same
name replaces. -/
def decodeMap {α : Type} (d : String → Json → Option α) : Json → Option (List (String × α))
  | .obj members => do
    let decoded ← members.mapM fun (k, v) => (d k v).map (k, ·)
    pure (Json.lastByKey decoded)
  | _ => none

/-- The name of a variant without content: the name as a string, or an object whose only member
maps the name to `null`. -/
def variantName : Json → Option String
  | .str s => some s
  | .obj [(name, .null)] => some name
  | _ => none

/-- The text of a property value in a row. -/
def valueText : Json → String
  | .null => "-"
  | .str s => s
  | j => j.normalize.render

/-- The source column of a property: `-`, `default`, `local`, `received`, `temporary`, or
`inherited from` its origin. -/
def sourceText (source : Json) : Option String := do
  let fields ← recordFields ["type", "data"] source
  let kind ← (fields.lookup "type").bind variantName
  let data ← match fields.lookup "data" with
    | some d => d.str?
    | none => some ""
  match kind with
  | "NONE" => some "-"
  | "DEFAULT" => some "default"
  | "LOCAL" => some "local"
  | "RECEIVED" => some "received"
  | "TEMPORARY" => some "temporary"
  | "INHERITED" => some ("inherited from " ++ data)
  | _ => none

/-- The rows of one entity, or `none` if its record is malformed. Bookmarks give no rows. -/
def entityRows (name : String) (entity : Json) : Option (List Row) := do
  let fields ← recordFields ["name", "type", "createtxg", "properties"] entity
  let _ ← (fields.lookup "name").bind Json.str?
  let kind ← (fields.lookup "type").bind variantName
  if !(["FILESYSTEM", "VOLUME", "SNAPSHOT", "BOOKMARK"].contains kind) then none
  let properties ← match fields.lookup "properties" with
    | some p => decodeMap (fun _ p => do
        let pf ← recordFields ["value", "source"] p
        let value ← pf.lookup "value"
        let source ← (pf.lookup "source").bind sourceText
        pure (valueText value, source)) p
    | none => some []
  let propertyRows := properties.map fun (property, value, source) => Row.mk name property value source
  if kind == "BOOKMARK" then pure []
  else
    let txg := match fields.lookup "createtxg" with
      | some .null | none => []
      | some v => if properties.any (·.1 == "createtxg") then [] else [Row.mk name "createtxg" (valueText v) "-"]
    pure (txg ++ propertyRows)

/-- The rows of the JSON output of a recursive `zfs get`; `none` if the text is not such output. -/
def ofDiscovery (text : String) : Option (List Row) := do
  let top ← Json.read text
  let fields ← recordFields ["datasets"] top
  let datasets ← match fields.lookup "datasets" with
    | some d => decodeMap entityRows d
    | none => some []
  pure (datasets.flatMap (·.2))

end Row

end ZfsReplication
