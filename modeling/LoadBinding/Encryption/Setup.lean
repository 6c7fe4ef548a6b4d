import LoadBinding.Encryption.KeyVault
import LoadBinding.Settings.Basic

/-!
# Setting up encryption

Before the first client of a pool is opened, a client of its own provides the data key and prepares
the collection; the result is the set of options that switches encryption on for the first endpoint.

* Legacy encryption hands the schema to the client.  If the store is to enforce it too, the
  collection is created with the schema as its validator; when that is refused, the run may go on
  only if the collection already holds documents.
* Queryable encryption creates the collection with its encrypted fields unless it exists, and shards
  a new collection if asked to.

The encryptor and the client of the set-up are closed in the end, in this order, however the set-up
went; a failure to close takes the place of the outcome.
-/

namespace LoadBinding.Encryption

open LoadBinding LoadBinding.Action

/-- The name under which the set-up writes to the log. -/
def logSource : String := "mongobench.encryption.configurator"

/-- The options about the process or library that analyses queries. -/
def libraryOptions (s : Settings) : Document :=
  ("mongocryptd_bypass_spawn", .bool true) ::
    if s.useSharedLibrary then
      [("crypt_shared_lib_path", .text s.sharedLibraryPath),
        ("crypt_shared_lib_required", .bool true)]
    else []

/-- The options that switch encryption on, with what is special to a mode. -/
def options (s : Settings) (name : String) (special : Value) : Document :=
  [("kms_providers", .document keyProviders),
    ("key_vault_namespace", .text s.keyVaultNamespace),
    (name, special)] ++ libraryOptions s

/-- Creates the collection with the legacy schema as its validator. -/
def createValidated (s : Settings) (client : Client) (key : KeyId) : Action Unit := do
  let schema := Schema.remoteSchema key s.encryptedFields s.encoding
  match ← outcome
      (client.createCollection s.database s.collection [("validator", .document schema)]) with
  | .ok () => pure ()
  | .error e =>
    if e.isCreationRefusal then
      let target ← client.use s.database s.collection
      if (← target.countDocuments) == 0 then
        fatal s!"Failed to create collection '{s.collection}'" (some e.message)
      else
        log .warning logSource
          s!"Collection '{s.collection}' already holds data, keeping its validator: '{e.message}'"
    else throw e

/-- Sets up legacy encryption. -/
def setUpLegacy (s : Settings) (client : Client) (key : KeyId) : Action Document := do
  let schema := Schema.legacySchema key s.encryptedFields s.encoding
  if s.remoteSchema then createValidated s client key
  log .info logSource <|
    s!"Legacy field level encryption enabled on '{s.dataNamespace}' " ++
      s!"for {s.encryptedFields} fields"
  return options s "schema_map" (.document [(s.dataNamespace, .document schema)])

/-- Distributes the collection over the shards by a hash of the key. -/
def shard (s : Settings) (client : Client) : Action Unit := do
  client.command "enableSharding" [s.database] []
  client.command "shardCollection" [s.dataNamespace]
    [("key", .document [(idField, .text "hashed")])]
  log .info logSource s!"Sharded '{s.dataNamespace}' on hashed '_id'"

/-- Creates the collection with its encrypted fields, which it returns. -/
def createQueryable (s : Settings) (client : Client) (key : KeyId) : Action Document := do
  let fields := Schema.queryableFields key s.encryptedFields s.encoding s.contentionFactors
  client.createCollection s.database s.collection [("encryptedFields", .document fields)]
  log .info logSource s!"Created queryable encrypted collection '{s.dataNamespace}'"
  if s.sharded then shard s client
  return fields

/-- Sets up queryable encryption. -/
def setUpQueryable (s : Settings) (client : Client) (key : KeyId) : Action Document := do
  if (← client.listCollections s.database).contains s.collection then
    log .debug logSource s!"Collection '{s.dataNamespace}' already exists"
    return options s "encrypted_fields_map" .null
  else
    let fields ← createQueryable s client key
    return options s "encrypted_fields_map"
      (.document [(s.dataNamespace, .document fields)])

/-- Provides the data key and sets up the mode of the settings. -/
def setUpWith (s : Settings) (client : Client) (encryptor : Encryptor) : Action Document := do
  let keys ← client.use s.database Settings.keyVaultCollection
  let vault : KeyVault := { keys := keys, encryptor := encryptor }
  let (found, _) ← ExceptT.lift vault.getOrCreate
  match found with
  | .error e => throw e
  | .ok key =>
    if s.encryptionMode == .queryable then setUpQueryable s client key
    else setUpLegacy s client key

/-- The options of the client of the set-up. -/
def clientOptions (s : Settings) : Document :=
  ("uuidRepresentation", .text "standard") :: s.writeConcern.clientOptions ++
    [("readPreference", .text s.readPreference.clientName)]

/-- Sets up encryption for the first endpoint of a pool, and returns its options. -/
def setUp (s : Settings) (url : String) : Action Document := do
  if !s.encryptionMode.isEnabled then throw .encryptionDisabled
  let client ← Client.connect (Url.withScheme url) (clientOptions s)
  let encryptor ← Encryptor.create client s.keyVaultNamespace true
  let result ← outcome (setUpWith s client encryptor)
  encryptor.close
  client.close
  match result with
  | .ok options => return options
  | .error e => throw e

end LoadBinding.Encryption
