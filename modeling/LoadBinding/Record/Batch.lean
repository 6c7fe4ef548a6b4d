import LoadBinding.Failure

/-!
# Insert batches

A worker that writes documents in batches buffers them by table.  A buffer begins with its first
document, and a table whose buffer has been drained begins a new one, behind the others.
`Batch.add` says when a buffer has reached the size of the batch; draining it is up to the caller.
-/

namespace LoadBinding

/-- The buffered documents of a worker. -/
structure Batch where
  /-- The number of documents that make a buffer full. -/
  size : Int
  /-- The buffers by table, in the order in which they were begun. -/
  buffers : Mapping (List Document) := []

namespace Batch

/-- A batch without documents. -/
def create (size : Int) : Except Failure Batch :=
  if size < 1 then .error (.batchSize size) else .ok { size := size }

/-- The number of buffered documents. -/
def count (b : Batch) : Nat :=
  (b.buffers.flatMap fun (_, docs) => docs).length

/-- The documents buffered for a table. -/
def buffer (b : Batch) (table : String) : List Document :=
  (b.buffers.get? table).getD []

/-- The tables with buffered documents, in the order in which their buffers were begun. -/
def tables (b : Batch) : List String :=
  Mapping.keys (b.buffers.filter fun (_, docs) => !docs.isEmpty)

/-- Buffers a document, and says whether the buffer of its table is full. -/
def add (b : Batch) (table : String) (doc : Document) : Batch × Bool :=
  let docs := b.buffer table ++ [doc]
  ({ b with buffers := b.buffers.set table docs }, b.size ≤ docs.length)

/-- Takes the buffer of a table out of the batch. -/
def take (b : Batch) (table : String) : List Document × Batch :=
  (b.buffer table, { b with buffers := b.buffers.erase table })

/-- Takes the buffers of some tables out of the batch; tables without documents are left out. -/
def drainTables (b : Batch) : List String → Mapping (List Document) × Batch
  | [] => ([], b)
  | table :: rest =>
    let (docs, b) := b.take table
    let (drained, b) := b.drainTables rest
    (if docs.isEmpty then drained else (table, docs) :: drained, b)

/-- Takes the buffer of one table, or of all tables, out of the batch. -/
def drain (b : Batch) (table : Option String) : Mapping (List Document) × Batch :=
  match table with
  | none => b.drainTables b.tables
  | some table => b.drainTables [table]

end Batch

end LoadBinding
