import LoadBinding.Encryption.Schema
import LoadBinding.Store.Client

/-!
# The key vault

All runs over one set of data must encrypt with the same data key.  The key is kept in a collection
of the database of the data, the key vault: `KeyVault.getOrCreate` takes the key found there and
creates one only when the vault is empty.  A key vault remembers the key that it has handed out, and
does so before it reports the key to the log.

An `Encryptor` is the part of the client that creates keys, protected by a master key that all runs
share.
-/

namespace LoadBinding

open LoadBinding.Text LoadBinding.Action

/-- The name of the key provider that keeps its master key with the client. -/
def localProvider : String := "local"

/-- The master key, the same for every run. -/
def masterKey : Bytes :=
  [0x77, 0x1F, 0x2D, 0x7D, 0x76, 0x74, 0x39, 0x08, 0x50, 0x0B, 0x61, 0x14,
   0x3A, 0x07, 0x24, 0x7C, 0x37, 0x7B, 0x60, 0x0F, 0x09, 0x11, 0x23, 0x65,
   0x35, 0x01, 0x3A, 0x76, 0x5F, 0x3E, 0x4B, 0x6A, 0x65, 0x77, 0x21, 0x6D,
   0x34, 0x13, 0x24, 0x1B, 0x47, 0x73, 0x21, 0x5D, 0x56, 0x6A, 0x38, 0x30,
   0x6D, 0x5E, 0x79, 0x1B, 0x25, 0x4D, 0x2A, 0x00, 0x7C, 0x0B, 0x65, 0x1D,
   0x70, 0x22, 0x22, 0x61, 0x2E, 0x6A, 0x52, 0x46, 0x6A, 0x43, 0x43, 0x23,
   0x58, 0x21, 0x78, 0x59, 0x64, 0x35, 0x5C, 0x23, 0x00, 0x27, 0x43, 0x7D,
   0x50, 0x13, 0x65, 0x3C, 0x54, 0x1E, 0x74, 0x3C, 0x3B, 0x57, 0x21, 0x1A]

/-- The key providers with their master keys. -/
def keyProviders : Document :=
  [(localProvider, .document [("key", .bytes masterKey)])]

/-- What creates data keys and puts them into the key vault. -/
structure Encryptor where
  /-- The collection that new keys go to. -/
  vault : Target

namespace Encryptor

/-- The database and the collection of a namespace, separated at its first point. -/
def splitNamespace (name : String) : String × String :=
  (String.ofList (name.toList.takeWhile (· != '.')),
    String.ofList ((name.toList.dropWhile (· != '.')).drop 1))

/-- Opens an encryptor on the key vault of the given namespace. -/
def create (client : Client) (keyVault : String) (standardIds : Bool) : Action Encryptor := do
  record (.openEncryption keyVault keyProviders standardIds)
  let (database, collection) := splitNamespace keyVault
  let vault ← client.use database collection
  return ⟨vault⟩

/-- Creates a data key and stores it in the key vault. -/
def createKey (e : Encryptor) (provider : String) : Action KeyId := do
  record (.createKey provider)
  let key : KeyId := ⟨← nextIdentifier⟩
  e.vault.insertOne [(idField, key.toValue), ("provider", .text provider)]
  return key

/-- Closes an encryptor. -/
def close (_e : Encryptor) : Action Unit :=
  record .closeEncryption

end Encryptor

/-- The identifier that a stored value is, when it identifies a data key at all. -/
def KeyId.ofValue? : Value → Option KeyId
  | .uuid b => some ⟨b⟩
  | .binary subtype b => if subtype == uuidSubtype then some ⟨b⟩ else none
  | _ => none

/-- Access to the data key of a set of data. -/
structure KeyVault where
  /-- The collection in which the key is looked up. -/
  keys : Target
  encryptor : Encryptor
  /-- The key handed out before. -/
  known : Option KeyId := none

namespace KeyVault

/-- The name under which the key vault writes to the log. -/
def logSource : String := "mongobench.encryption.key_vault"

/-- The key in the vault, or else a new one; `true` says that the key is new. -/
def findOrCreate (v : KeyVault) : Action (KeyId × Bool) := do
  match ← v.keys.findOne [] none with
  | none => return (← v.encryptor.createKey localProvider, true)
  | some doc =>
    let id := Collection.keyOf doc
    match KeyId.ofValue? id with
    | some key => return (key, false)
    | none => throw (.notADataKey id)

/-- The data key, with the vault that remembers it. -/
def getOrCreate (v : KeyVault) : StateM World (Except Failure KeyId × KeyVault) := do
  match v.known with
  | some key => return (.ok key, v)
  | none =>
    match ← attempt v.findOrCreate with
    | .error e => return (.error e, v)
    | .ok (key, isNew) =>
      let v := { v with known := some key }
      if key.bytes.length != 16 then
        return (.error (.dataKeyLength key.bytes.length), v)
      else
        let text := uuidText key.bytes
        if isNew then log .info logSource s!"Created data key '{text}'"
        else log .debug logSource s!"Reusing data key '{text}'"
        return (.ok key, v)

end KeyVault

end LoadBinding
