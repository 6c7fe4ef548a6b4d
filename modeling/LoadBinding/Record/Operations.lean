import LoadBinding.Context
import LoadBinding.Record.Batch
import LoadBinding.Record.Outcome
import LoadBinding.Record.Routing

/-!
# Record operations

The operations that a worker performs on records: `insert`, `read`, `update`, `delete`, `scan`, and
`flush` for the documents that it has buffered.  Each selects the next endpoint of the context,
makes its call there, and reports a failure as an outcome after logging it; nothing is tried again.
An operation returns its outcome with the context after the selections that it made.
-/

namespace LoadBinding

open LoadBinding.Text LoadBinding.Action

namespace Context

/-- The name under which record operations write to the log. -/
def recordLog : String := "mongobench.handlers.mongo_binding"

/-- The field that an update marks. -/
def markerField : String := "updateID"

/-- The table of an endpoint that has been selected. -/
def table (s : Settings) (selected : Option Endpoint) (name : String) : Action Target :=
  match selected with
  | none => throw .noEndpoint
  | some endpoint => endpoint.client.use s.database name

/-- The outcome of a failure, which is logged. -/
def failed {α : Type} (text : String) (e : Failure) : StateM World (Outcome α) := do
  log .error recordLog s!"{text}: '{e.message}'"
  return .error e.message

/-- The outcome of finding nothing, which is logged. -/
def complained {α : Type} (text : String) : StateM World (Outcome α) := do
  log .error recordLog text
  return .error text

/-- Prepares the payload of a field under the settings of a context. -/
def prepareField (c : Context) (field : String) (data : Bytes) : Action Value :=
  prepare c.generators c.settings.compressibility c.settings.encoding field data

/-- Adds the prepared payloads of the fields that are not excluded to a document. -/
def prepareFields (c : Context) (excluded : String → Bool) (doc : Document) :
    List (String × Bytes) → Action Document
  | [] => return doc
  | (field, data) :: rest =>
    if excluded field then c.prepareFields excluded doc rest
    else do
      let v ← c.prepareField field data
      c.prepareFields excluded (doc.set field v) rest

/-! ## Inserting -/

/-- The document of a record: its key, the prepared payloads of its fields, and its routing fields,
which no payload replaces. -/
def document (c : Context) (key : String) (values : Mapping Bytes) : Action Document := do
  let routing := c.settings.routing key
  let doc ← c.prepareFields routing.has [(idField, .text key)] values
  return doc.update (routing.mapValues Value.text)

/-- Inserts a record, or buffers it until the buffer of its table is full. -/
def insert (c : Context) (b : Batch) (name key : String) (values : Mapping Bytes) :
    StateM World (Outcome Unit × Context × Batch) := do
  let (selected, c) := c.next
  let built ← attempt do
    let target ← table c.settings selected name
    let doc ← c.document key values
    return (target, doc)
  match built with
  | .error e => return (← failed s!"Couldn't build document for key {key}" e, c, b)
  | .ok (target, doc) =>
    if c.settings.batchSize == 1 then
      match ← attempt (target.insertOne doc) with
      | .ok () => return (.ok none, c, b)
      | .error e => return (← failed s!"Couldn't insert key {key}" e, c, b)
    else
      let (b, isFull) := b.add name doc
      if isFull then
        let (docs, b) := b.take name
        match ← attempt (target.insertMany docs) with
        | .ok () => return (.ok none, c, b)
        | .error e =>
          let count := docs.length
          return (← failed s!"Exception while trying bulk insert with {count} documents" e, c, b)
      else return (.ok none, c, b)

/-- Writes one drained buffer. -/
def flushTable (c : Context) (name : String) (docs : List Document) :
    StateM World (Outcome Unit × Context) := do
  let (selected, c) := c.next
  let count := docs.length
  let written ← attempt do
    let target ← table c.settings selected name
    target.insertMany docs
  match written with
  | .ok () =>
    log .debug recordLog s!"Flushed {count} buffered documents into '{name}'"
    return (.ok none, c)
  | .error e =>
    return (← failed s!"Exception while flushing {count} documents into '{name}'" e, c)

/-- Writes drained buffers one after the other; the outcome is the last failure, if there is any. -/
def flushTables (c : Context) (outcome : Outcome Unit) :
    List (String × List Document) → StateM World (Outcome Unit × Context)
  | [] => return (outcome, c)
  | (name, docs) :: rest => do
    let (written, c) ← c.flushTable name docs
    c.flushTables (if written.isOk then outcome else written) rest

/-- Writes the buffered documents of one table, or of all tables. -/
def flush (c : Context) (b : Batch) (name : Option String) :
    StateM World (Outcome Unit × Context × Batch) := do
  if b.count == 0 then return (.ok none, c, b)
  let (drained, b) := b.drain name
  let (outcome, c) ← c.flushTables (.ok none) drained
  return (outcome, c, b)

/-! ## Reading -/

/-- The record of a document: its fields but the key, as bytes. -/
def recordOf (doc : Document) : Mapping Bytes :=
  Mapping.mapValues Value.toBytes (doc.filter fun (field, _) => field != idField)

/-- Reads the record with a key, all of its fields or some of them and the routing fields. -/
def read (c : Context) (name key : String) (fields : Option (List String)) :
    StateM World (Outcome (Mapping Bytes) × Context) := do
  let (selected, c) := c.next
  let found ← attempt do
    let target ← table c.settings selected name
    target.findOne (c.settings.recordFilter key) (c.settings.readProjection fields)
  match found with
  | .ok (some (field :: rest)) => return (.ok (some (recordOf (field :: rest))), c)
  | .ok _ => return (← complained s!"No results returned for key {key}", c)
  | .error e => return (← failed s!"Read of key {key} failed" e, c)

/-- The record of a document as a scan returns it: its fields that hold bytes. -/
def bytesOf (doc : Document) : Mapping Bytes :=
  doc.filterMap fun (field, v) => v.asBytes?.map fun b => (field, b)

/-- Reads up to `count` records from a key on, in the order of their keys. -/
def scan (c : Context) (name start : String) (count : Int) (fields : Option (List String)) :
    StateM World (Outcome (List (Mapping Bytes)) × Context) := do
  let (selected, c) := c.next
  let found ← attempt do
    let target ← table c.settings selected name
    target.scan (c.settings.scanFilter start) (fields.map Projection.ofFields) count
  match found with
  | .ok [] => return (← complained s!"Nothing found in scan for key {start}", c)
  | .ok docs => return (.ok (some (docs.map bytesOf)), c)
  | .error e => return (← failed s!"Scan from key {start} failed" e, c)

/-! ## Changing -/

/-- Sets fields of the record with a key, and marks it as updated. -/
def update (c : Context) (name key : String) (values : Mapping Bytes) :
    StateM World (Outcome Unit × Context) := do
  let (selected, c) := c.next
  let counted ← attempt do
    let target ← table c.settings selected name
    let marker ← nextMarker
    let changes ← c.prepareFields c.settings.isImmutable [(markerField, .text marker)] values
    target.updateOne (c.settings.recordFilter key) changes
  match counted with
  | .ok count =>
    if count.matched == 0 then return (← complained s!"Can not find key {key}", c)
    else if count.modified == 0 then return (← complained s!"Nothing updated for {key}", c)
    else return (.ok none, c)
  | .error e => return (← failed s!"Update of key {key} failed" e, c)

/-- Removes the record with a key. -/
def delete (c : Context) (name key : String) : StateM World (Outcome Unit × Context) := do
  let (selected, c) := c.next
  let removed ← attempt do
    let target ← table c.settings selected name
    target.deleteMany (c.settings.recordFilter key)
  match removed with
  | .ok () => return (.ok none, c)
  | .error e => return (← failed s!"Delete of key {key} failed" e, c)

end Context

end LoadBinding
