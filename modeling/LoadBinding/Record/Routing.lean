import LoadBinding.Settings.Basic
import LoadBinding.Store.Query

/-!
# Routing fields

In a sharded deployment every record carries its own key again as the shard key, and in a deployment
over several locations it carries the location of the run.  These routing fields are stamped on
every record that is inserted, narrow every filter, and are never changed by an update.
-/

namespace LoadBinding.Settings

variable (s : Settings)

/-- The routing fields of the record with a key, with their values. -/
def routing (key : String) : Mapping String :=
  let shard : Mapping String := if s.shardKey.isEmpty then [] else [(s.shardKey, key)]
  if s.location.isEmpty then shard else shard.set s.locationField s.location

/-- The filter for the record with a key. -/
def recordFilter (key : String) : Filter :=
  (s.routing key).foldl (fun f (field, v) => f.set field (.equals (.text v)))
    [(idField, .equals (.text key))]

/-- The filter for the records from a key on. -/
def scanFilter (start : String) : Filter :=
  let filter : Filter := [(idField, .atLeast start)]
  if s.location.isEmpty then filter
  else filter.set s.locationField (.equals (.text s.location))

/-- Whether an update leaves a field alone. -/
def isImmutable (field : String) : Bool :=
  field == s.locationField || (!s.shardKey.isEmpty && field == s.shardKey)

/-- The projection of a read on some fields, which includes the routing fields. -/
def readProjection (fields : Option (List String)) : Option Projection :=
  fields.map fun fields =>
    let p := Projection.ofFields fields
    let p := if s.shardKey.isEmpty then p else p.set s.shardKey Projection.included
    if s.location.isEmpty then p else p.set s.locationField Projection.included

end LoadBinding.Settings
