import LoadBinding.Mapping
import LoadBinding.Record.Outcome
import LoadBinding.Store.World

/-!
# Verifying rows

A row that was written with routing fields must come back with them unchanged.  The verifier
compares the location and the shard key of a row with what they must be, each as far as it is
configured; a row that contradicts them is an unexpected state, and a row without cells is an error.
-/

namespace LoadBinding

open LoadBinding.Text LoadBinding.Action

/-- A cell of a row: bytes, a text, or nothing. -/
inductive Cell
  | bytes (b : Bytes)
  | text (s : String)
  | null
  deriving DecidableEq, Repr

/-- The text of a cell, if it holds anything. -/
def Cell.text? : Cell → Option String
  | .bytes b => some (utf8Decode b)
  | .text s => some s
  | .null => none

/-- What the routing fields of a row must be. -/
structure RowVerifier where
  shardKey : String := "user_id"
  location : String := "US"
  locationField : String := "location"

namespace RowVerifier

variable (v : RowVerifier)

/-- The name under which the verifier writes to the log. -/
def logSource : String := "mongobench.handlers.row_verifier"

/-- Generated values with the shard key and the location of their row. -/
def withRouting (key : String) (values : Mapping Bytes) : Mapping Bytes :=
  (values.set v.shardKey (utf8 key)).set v.locationField (utf8 v.location)

/-- The text of a cell of a row, if the row has it. -/
def cellText? (cells : Mapping Cell) (field : String) : Option String :=
  (cells.get? field).bind Cell.text?

/-- The complaint about a routing field that is not as expected. -/
def complaint? (what expected : String) (got : Option String) : Option String :=
  if got == some expected then none
  else
    let shown := got.getD "None"
    some s!"Error verifying {what}: expect {expected} get {shown}"

/-- The complaints about a row. -/
def complaints (key : String) (cells : Mapping Cell) : List String :=
  let location :=
    if v.location.isEmpty then none
    else complaint? "location" v.location (cellText? cells v.locationField)
  let shard :=
    if v.shardKey.isEmpty then none
    else complaint? "shard key" key (cellText? cells v.shardKey)
  location.toList ++ shard.toList

/-- Verifies a row. -/
def verify (key : String) (cells : Mapping Cell) : StateM World (Outcome Unit) := do
  if cells.isEmpty then return .error s!"No data to verify for key {key}"
  match v.complaints key cells with
  | [] => return .ok none
  | complaints =>
    logAll (complaints.map fun complaint => ⟨.error, logSource, complaint⟩)
    return .unexpected ("; ".intercalate complaints)

end RowVerifier

end LoadBinding
