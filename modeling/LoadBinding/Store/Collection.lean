import LoadBinding.Store.Query

/-!
# Collections

A collection keeps its documents in the order of insertion, each under the key that it had when it
was inserted.  A later update may write another value into the field `_id`; the document then
answers to the new value, but its old key stays taken.

The operations are pure: they return the changed collection, and what a caller is told.
-/

namespace LoadBinding

/-- A document with the key under which it was inserted. -/
structure Row where
  key : Value
  doc : Document

/-- Why a collection refuses an operation. -/
inductive StoreError
  /-- A document has no key. -/
  | missingKey
  /-- The key of a document is a list or a document. -/
  | unusableKey (key : Value)
  /-- The key of a document is taken. -/
  | duplicateKey (key : Value)
  /-- A collection to be created exists. -/
  | collectionExists (name : String)
  /-- A filter compared a text with something else. -/
  | incomparable (e : Incomparable)

/-- What a message says about a refusal. -/
def StoreError.message : StoreError → String
  | missingKey => Text.quote idField
  | unusableKey key => s!"unhashable type: '{key.kindName}'"
  | duplicateKey key => "E11000 duplicate key " ++ key.literal
  | collectionExists name => s!"collection {name} already exists"
  | incomparable e => e.message

/-- The documents of a collection, with the options that it was created with. -/
structure Collection where
  options : Document := []
  rows : List Row := []

namespace Collection

/-- The documents in order of insertion. -/
def docs (c : Collection) : List Document :=
  c.rows.map Row.doc

/-- Whether a key is taken. -/
def hasKey (c : Collection) (key : Value) : Bool :=
  c.rows.any fun row => row.key.same key

/-- The key of a document. -/
def keyOf (doc : Document) : Value :=
  (doc.get? idField).getD .null

/-- Inserts a document whose key is free. -/
def insert (c : Collection) (doc : Document) : Except StoreError Collection :=
  match doc.get? idField with
  | none => .error .missingKey
  | some key =>
    if !key.isKey then .error (.unusableKey key)
    else if c.hasKey key then .error (.duplicateKey key)
    else .ok { c with rows := c.rows ++ [⟨key, doc⟩] }

/-- Inserts documents one by one up to the first that is refused; those before it stay. -/
def insertMany (c : Collection) : List Document → Collection × Option StoreError
  | [] => (c, none)
  | doc :: docs =>
    match c.insert doc with
    | .ok c => c.insertMany docs
    | .error e => (c, some e)

/-- The documents that fulfil a filter. -/
def select (f : Filter) : List Row → Except Incomparable (List Row)
  | [] => .ok []
  | row :: rows =>
    match f.holds row.doc with
    | .error e => .error e
    | .ok found =>
      match select f rows with
      | .error e => .error e
      | .ok others => .ok (if found then row :: others else others)

/-- The first document that fulfils a filter, with those before and those after it. -/
def selectFirst (f : Filter) :
    List Row → Except Incomparable (Option (List Row × Row × List Row))
  | [] => .ok none
  | row :: rows =>
    match f.holds row.doc with
    | .error e => .error e
    | .ok true => .ok (some ([], row, rows))
    | .ok false =>
      (selectFirst f rows).map fun found =>
        found.map fun (before, hit, after) => (row :: before, hit, after)

/-- The part of the first fulfilling document that a projection returns. -/
def findOne (c : Collection) (f : Filter) (p : Option Projection) :
    Except StoreError (Option Document) :=
  match selectFirst f c.rows with
  | .error e => .error (.incomparable e)
  | .ok none => .ok none
  | .ok (some (_, row, _)) => .ok (some (Projection.apply p row.doc))

/-- The parts of the fulfilling documents that a projection returns. -/
def find (c : Collection) (f : Filter) (p : Option Projection) :
    Except StoreError (List Document) :=
  match select f c.rows with
  | .error e => .error (.incomparable e)
  | .ok rows => .ok (rows.map fun row => Projection.apply p row.doc)

/-- How many documents an update matched, and how many it changed. -/
structure UpdateCount where
  matched : Nat
  modified : Nat
  deriving DecidableEq, Repr

/-- Whether some field does not have the value that it is to be set to. -/
def differs (doc changes : Document) : Bool :=
  changes.any fun (field, v) => !((doc.get? field).getD .null).same v

/-- Sets fields of the first document that fulfils a filter. -/
def updateOne (c : Collection) (f : Filter) (changes : Document) :
    Except StoreError (Collection × UpdateCount) :=
  match selectFirst f c.rows with
  | .error e => .error (.incomparable e)
  | .ok none => .ok (c, ⟨0, 0⟩)
  | .ok (some (before, row, after)) =>
    let changed := { row with doc := row.doc.update changes }
    .ok ({ c with rows := before ++ changed :: after },
      ⟨1, if differs row.doc changes then 1 else 0⟩)

/-- The rows that do not fulfil a filter. -/
def reject (f : Filter) : List Row → Except Incomparable (List Row)
  | [] => .ok []
  | row :: rows =>
    match f.holds row.doc with
    | .error e => .error e
    | .ok found =>
      match reject f rows with
      | .error e => .error e
      | .ok others => .ok (if found then others else row :: others)

/-- Removes the documents that fulfil a filter. -/
def deleteMany (c : Collection) (f : Filter) : Except StoreError Collection :=
  match reject f c.rows with
  | .error e => .error (.incomparable e)
  | .ok rows => .ok { c with rows := rows }

end Collection

/-! ## Cursors -/

namespace Cursor

/-- The text by which a document is ordered: its key, as far as that is a text. -/
def orderText (doc : Document) : String :=
  match doc.get? idField with
  | some (.text s) => s
  | _ => ""

/-- Orders documents by key; documents with the same key keep their order. -/
def sort (docs : List Document) : List Document :=
  docs.mergeSort fun a b => !decide (orderText b < orderText a)

/-- The first `count` documents.  Zero sets no limit, and a negative count leaves out that many
documents at the end. -/
def limit (count : Int) (docs : List Document) : List Document :=
  if count == 0 then docs
  else if 0 < count then docs.take count.toNat
  else docs.take (docs.length - count.natAbs)

end Cursor

end LoadBinding
