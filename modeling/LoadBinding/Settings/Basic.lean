import LoadBinding.Settings.Choice
import LoadBinding.Url

/-!
# Settings of a run

The settings are resolved once and shared by every worker of a run.  Several things follow from
them: the list of endpoints, the mode of encryption, the namespaces of the data and of the key
vault, and the options with which every client of the pool is opened.
-/

namespace LoadBinding

/-- The settings of a run. -/
structure Settings where
  /-- One or more endpoints, separated by `|`. -/
  url : String := "mongodb://localhost:27017"
  database : String := "ycsb"
  /-- The collection that the set-up of the encryption prepares. -/
  collection : String := "usertable"
  /-- The field that repeats the key of a record; empty for none. -/
  shardKey : String := ""
  /-- The location stamped on every record and used as a filter; empty for none. -/
  location : String := ""
  locationField : String := "location"
  username : String := ""
  password : String := ""
  writeConcern : WriteConcern := .acknowledged
  readPreference : ReadPreference := .primary
  /-- The number of documents written together. -/
  batchSize : Int := 1
  encoding : Encoding := .binary
  /-- The ratio of the size of a payload to its size when compressed. -/
  compressibility : Float := 1.0
  threadCount : Int := 100
  sharded : Bool := false
  useLegacy : Bool := false
  useQueryable : Bool := false
  /-- Whether the legacy schema is also enforced by the store. -/
  remoteSchema : Bool := false
  encryptedFields : Int := 10
  /-- For each field index its contention factor, or -1. -/
  contentionFactors : List Int := []
  /-- For each field index the number of its values, or 0 for any payload. -/
  cardinalities : List Int := []
  useSharedLibrary : Bool := false
  sharedLibraryPath : String := ""

namespace Settings

/-- How many times more connections an encrypted client needs, for key look-ups and the analysis of
queries. -/
def encryptedPoolFactor : Int := 3

/-- The collection of the key vault. -/
def keyVaultCollection : String := "datakeys"

/-- The mode of encryption asked for. -/
def encryptionMode (s : Settings) : EncryptionMode :=
  if s.useLegacy then .legacy
  else if s.useQueryable then .queryable
  else .disabled

/-- The endpoints of the deployment. -/
def endpoints (s : Settings) : List String :=
  Url.endpoints s.url

/-- The credentials shared with endpoints that carry none. -/
def credentials (s : Settings) : Credentials :=
  ⟨s.username, s.password⟩

/-- The most connections that a client may open. -/
def poolSize (s : Settings) : Int :=
  if s.encryptionMode.isEnabled then s.threadCount * encryptedPoolFactor else s.threadCount

/-- The namespace of the data. -/
def dataNamespace (s : Settings) : String :=
  s.database ++ "." ++ s.collection

/-- The namespace of the key vault, in the database of the data. -/
def keyVaultNamespace (s : Settings) : String :=
  s.database ++ "." ++ keyVaultCollection

/-- The options with which every client of the pool is opened. -/
def clientOptions (s : Settings) : Document :=
  Mapping.update
    [("maxPoolSize", .int s.poolSize), ("readPreference", .text s.readPreference.clientName)]
    s.writeConcern.clientOptions

end Settings

end LoadBinding
