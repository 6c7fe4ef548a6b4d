import LoadBinding.Store.Collection

/-!
# Clusters

A cluster holds the databases of a deployment and the connections that clients have opened to it.
All clients see the same data.  Databases and collections come into being when they are first used.
-/

namespace LoadBinding

/-- The collections of a database, and the names of those created explicitly. -/
structure Database where
  created : List String := []
  collections : Mapping Collection := []

/-- A command sent to a database, with its positional arguments and its options. -/
structure Command where
  database : String
  arguments : List String
  options : Document

/-- A connection that a client has opened. -/
structure Connection where
  url : String
  closed : Bool := false
  deriving DecidableEq, Repr

/-- A client: the place of its connection in the order of opening, and its URL. -/
structure Client where
  number : Nat
  url : String
  deriving DecidableEq, Repr

/-- A collection as seen through a client. -/
structure Target where
  client : Client
  database : String
  collection : String
  deriving DecidableEq, Repr

/-- The state of a deployment. -/
structure Cluster where
  databases : Mapping Database := []
  commands : List Command := []
  connections : List Connection := []

namespace Database

/-- A collection, empty as long as it has not been used. -/
def collection (d : Database) (name : String) : Collection :=
  (d.collections.get? name).getD {}

/-- The names of the collections that hold documents or were created explicitly. -/
def listed (d : Database) : List String :=
  Mapping.keys (d.collections.filter fun (name, c) => !c.rows.isEmpty || d.created.contains name)

end Database

namespace Cluster

/-- A database, empty as long as it has not been used. -/
def database (c : Cluster) (name : String) : Database :=
  (c.databases.get? name).getD {}

/-- A collection, empty as long as it has not been used. -/
def collection (c : Cluster) (database name : String) : Collection :=
  (c.database database).collection name

/-- Replaces a database. -/
def setDatabase (c : Cluster) (name : String) (d : Database) : Cluster :=
  { c with databases := c.databases.set name d }

/-- Replaces a collection. -/
def setCollection (c : Cluster) (database name : String) (x : Collection) : Cluster :=
  let d := c.database database
  c.setDatabase database { d with collections := d.collections.set name x }

/-- Brings a database into being. -/
def useDatabase (c : Cluster) (name : String) : Cluster :=
  c.setDatabase name (c.database name)

/-- Brings a collection into being. -/
def useCollection (c : Cluster) (database name : String) : Cluster :=
  c.setCollection database name (c.collection database name)

/-- Creates a collection with options, unless one of its name is listed. -/
def createCollection (c : Cluster) (database name : String) (options : Document) :
    Except StoreError Cluster :=
  let d := c.database database
  if d.listed.contains name then .error (.collectionExists name)
  else
    .ok <| c.setDatabase database
      { created := d.created ++ [name]
        collections := d.collections.set name { d.collection name with options := options } }

/-- Inserts documents one after the other.  Without a document nothing comes into being. -/
def insertAll (c : Cluster) (database name : String) (docs : List Document) :
    Except StoreError Cluster :=
  docs.foldlM (fun c doc => do
    return c.setCollection database name (← (c.collection database name).insert doc)) c

/-- Opens a connection. -/
def connect (c : Cluster) (url : String) : Cluster :=
  { c with connections := c.connections ++ [{ url := url }] }

/-- The client that the next connection will belong to. -/
def nextClient (c : Cluster) (url : String) : Client :=
  ⟨c.connections.length, url⟩

/-- Closes the connection of a client. -/
def close (c : Cluster) (client : Client) : Cluster :=
  { c with
    connections := c.connections.modify client.number fun connection =>
      { connection with closed := true } }

end Cluster

end LoadBinding
