import LoadBinding.Store.Cluster

/-!
# Calls to the store

Everything that a component asks of the store is a call.  A call has a *method* and a *target*,
which together address the faults that a deployment may show, and an *entry*: the values by which it
is written down.
-/

namespace LoadBinding

/-- A call to the store. -/
inductive Call
  /-- Opens the connection of a client that will bear the given number. -/
  | connect (client : Client) (options : Document)
  | close (client : Client)
  /-- Looks up a collection through a client. -/
  | use (target : Target)
  | insertOne (target : Target) (doc : Document)
  | insertMany (target : Target) (docs : List Document)
  | findOne (target : Target) (filter : Filter) (projection : Option Projection)
  | find (target : Target) (filter : Filter) (projection : Option Projection)
  /-- Orders the documents of a cursor by key. -/
  | sort
  | limit (count : Int)
  | iterate
  | closeCursor
  | updateOne (target : Target) (filter : Filter) (changes : Document)
  | deleteMany (target : Target) (filter : Filter)
  | countDocuments (target : Target)
  | listCollections (database : String)
  | createCollection (database name : String) (options : Document)
  /-- Sends an administrative command, with further arguments and options. -/
  | command (name : String) (arguments : List String) (options : Document)
  /-- Opens a client encryption on a key vault.  `standardIds` says whether it was told how
  identifiers are stored. -/
  | openEncryption (keyVault : String) (providers : Document) (standardIds : Bool)
  | createKey (provider : String)
  | closeEncryption
  /-- Asks for the encryption options of an endpoint. -/
  | buildEncryption (url : String)

namespace Call

/-- The name of what is asked. -/
def method : Call → String
  | connect _ _ => "connect"
  | close _ => "close"
  | use _ => "use"
  | insertOne _ _ => "insert_one"
  | insertMany _ _ => "insert_many"
  | findOne _ _ _ => "find_one"
  | find _ _ _ => "find"
  | sort => "sort"
  | limit _ => "limit"
  | iterate => "iterate"
  | closeCursor => "close_cursor"
  | updateOne _ _ _ => "update_one"
  | deleteMany _ _ => "delete_many"
  | countDocuments _ => "estimated_document_count"
  | listCollections _ => "list_collection_names"
  | createCollection _ _ _ => "create_collection"
  | command _ _ _ => "command"
  | openEncryption _ _ _ => "client_encryption"
  | createKey _ => "create_data_key"
  | closeEncryption => "close_encryption"
  | buildEncryption _ => "encryption_builder"

/-- Of what it is asked. -/
def target : Call → String
  | connect client _ => client.url
  | close client => client.url
  | use t => t.collection
  | insertOne t _ => t.collection
  | insertMany t _ => t.collection
  | findOne t _ _ => t.collection
  | find t _ _ => t.collection
  | sort => idField
  | limit count => toString count
  | iterate => ""
  | closeCursor => ""
  | updateOne t _ _ => t.collection
  | deleteMany t _ => t.collection
  | countDocuments t => t.collection
  | listCollections database => database
  | createCollection _ name _ => name
  | command name _ _ => name
  | openEncryption keyVault _ _ => keyVault
  | createKey provider => provider
  | closeEncryption => ""
  | buildEncryption url => url

/-- The number by which a client encryption is told to store identifiers in the standard way. -/
def standardIdCode : Int := 4

/-- A projection as a value, null when everything is to be returned. -/
def projectionValue : Option Projection → Value
  | none => .null
  | some p => .document p.toDocument

/-- What is handed over with a call. -/
def arguments : Call → List Value
  | connect _ options => [.document options]
  | close _ => []
  | use t => [.text t.database, .text t.client.url]
  | insertOne _ doc => [.document doc]
  | insertMany _ docs => [.array (docs.map Value.document)]
  | findOne _ f p => [.document f.toDocument, projectionValue p]
  | find _ f p => [.document f.toDocument, projectionValue p]
  | sort => [.int 1]
  | limit _ => []
  | iterate => []
  | closeCursor => []
  | updateOne _ f changes =>
    [.document f.toDocument, .document [("$set", .document changes)]]
  | deleteMany _ f => [.document f.toDocument]
  | countDocuments _ => []
  | listCollections _ => []
  | createCollection _ _ options => [.document options]
  | command _ args options => [.array (args.map Value.text), .document options]
  | openEncryption _ providers standardIds =>
    [.document providers, if standardIds then .int standardIdCode else .null]
  | createKey _ => []
  | closeEncryption => []
  | buildEncryption _ => []

/-- A call as it is written down. -/
def entry (call : Call) : List Value :=
  .text call.method :: .text call.target :: call.arguments

/-- The address under which a fault of the deployment may wait for a call. -/
def address (call : Call) : String :=
  call.method ++ ":" ++ call.target

end Call

end LoadBinding
