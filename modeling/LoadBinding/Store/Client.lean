import LoadBinding.Store.World

/-!
# Clients of the store

The calls that a component may make, as actions: each records itself, fails if a fault waits for it,
and otherwise reads or changes the cluster.  A failed call changes nothing, with one exception: a
look-up brings the database into being before the collection is asked for.
-/

namespace LoadBinding

open LoadBinding.Action

namespace Client

/-- Opens a connection. -/
def connect (url : String) (options : Document) : Action Client := do
  let client := (← get).cluster.nextClient url
  record (.connect client options)
  modifyCluster (·.connect url)
  return client

/-- Closes the connection of a client. -/
def close (client : Client) : Action Unit := do
  record (.close client)
  modifyCluster (·.close client)

/-- Brings a database into being; this asks nothing of the store. -/
def useDatabase (_client : Client) (database : String) : Action Unit :=
  modifyCluster (·.useDatabase database)

/-- Looks up a collection. -/
def use (client : Client) (database name : String) : Action Target := do
  client.useDatabase database
  let target : Target := ⟨client, database, name⟩
  record (.use target)
  modifyCluster (·.useCollection database name)
  return target

/-- The collections of a database that hold documents or were created explicitly. -/
def listCollections (client : Client) (database : String) : Action (List String) := do
  client.useDatabase database
  record (.listCollections database)
  return ((← get).cluster.database database).listed

/-- Creates a collection with options. -/
def createCollection (client : Client) (database name : String) (options : Document) :
    Action Unit := do
  client.useDatabase database
  record (.createCollection database name options)
  let cluster ← ofStore ((← get).cluster.createCollection database name options)
  modifyCluster fun _ => cluster

/-- The database that takes administrative commands. -/
def adminDatabase : String := "admin"

/-- Sends an administrative command. -/
def command (client : Client) (name : String) (arguments : List String) (options : Document) :
    Action Unit := do
  client.useDatabase adminDatabase
  record (.command name arguments options)
  modifyCluster fun c =>
    { c with commands := c.commands ++ [⟨adminDatabase, name :: arguments, options⟩] }

end Client

namespace Target

/-- The collection behind a target. -/
def content (t : Target) (c : Cluster) : Collection :=
  c.collection t.database t.collection

/-- Replaces the collection behind a target. -/
def put (t : Target) (x : Collection) : Action Unit :=
  modifyCluster (·.setCollection t.database t.collection x)

/-- Inserts a document. -/
def insertOne (t : Target) (doc : Document) : Action Unit := do
  record (.insertOne t doc)
  let x ← ofStore ((t.content (← get).cluster).insert doc)
  t.put x

/-- Inserts documents one by one up to the first whose key is taken. -/
def insertMany (t : Target) (docs : List Document) : Action Unit := do
  record (.insertMany t docs)
  let (x, refusal) := (t.content (← get).cluster).insertMany docs
  t.put x
  match refusal with
  | none => pure ()
  | some e => throw (.store e)

/-- The first document that fulfils a filter. -/
def findOne (t : Target) (f : Filter) (p : Option Projection) : Action (Option Document) := do
  record (.findOne t f p)
  ofStore ((t.content (← get).cluster).findOne f p)

/-- The documents that fulfil a filter. -/
def find (t : Target) (f : Filter) (p : Option Projection) : Action (List Document) := do
  record (.find t f p)
  ofStore ((t.content (← get).cluster).find f p)

/-- The first documents that fulfil a filter, in the order of their keys.  The cursor is closed
whether or not its documents can be read. -/
def scan (t : Target) (f : Filter) (p : Option Projection) (count : Int) :
    Action (List Document) := do
  let found ← t.find f p
  record .sort
  record (.limit count)
  let iteration ← outcome (record .iterate)
  record .closeCursor
  match iteration with
  | .ok () => return Cursor.limit count (Cursor.sort found)
  | .error e => throw e

/-- Sets fields of the first document that fulfils a filter. -/
def updateOne (t : Target) (f : Filter) (changes : Document) : Action Collection.UpdateCount := do
  record (.updateOne t f changes)
  let (x, count) ← ofStore ((t.content (← get).cluster).updateOne f changes)
  t.put x
  return count

/-- Removes the documents that fulfil a filter. -/
def deleteMany (t : Target) (f : Filter) : Action Unit := do
  record (.deleteMany t f)
  let x ← ofStore ((t.content (← get).cluster).deleteMany f)
  t.put x

/-- The number of documents of a collection. -/
def countDocuments (t : Target) : Action Nat := do
  record (.countDocuments t)
  return (t.content (← get).cluster).rows.length

end Target

end LoadBinding
