import LoadBinding.Document.Value
import LoadBinding.Payload.Discrete
import LoadBinding.Settings.Choice

/-!
# Schemas of encrypted collections

The documents that say which fields are encrypted, with which data key and as which type.  All of
them cover the same fields, `field0` up to a given number of fields.

* `legacySchema` is the schema that a client applies on its own.
* `remoteSchema` is the same schema in the form in which the store enforces it.
* `queryableFields` describes fields that can be searched for equality; a field whose contention
  factor is known and not negative states it.
-/

namespace LoadBinding

open LoadBinding.Text

/-- The identifier of a data key, sixteen bytes when it is sound. -/
structure KeyId where
  bytes : Bytes
  deriving DecidableEq, Repr

/-- The subtype of a universally unique identifier. -/
def uuidSubtype : Nat := 4

/-- The identifier of a data key as it is stored. -/
def KeyId.toValue (key : KeyId) : Value :=
  .binary uuidSubtype key.bytes

namespace Schema

/-- The algorithm of legacy encryption. -/
def algorithm : String := "AEAD_AES_256_CBC_HMAC_SHA_512-Random"

/-- The kind of query that queryable encryption allows. -/
def queryType : String := "equality"

/-- The names of the first `count` fields; none for a negative count. -/
def fieldNames (count : Int) : List String :=
  (List.range count.toNat).map Discrete.fieldName

/-- The rule of legacy encryption for one field. -/
def legacyRule (key : KeyId) (encoding : Encoding) : Value :=
  .document
    [("encrypt",
      .document
        [("keyId", .array [key.toValue]),
          ("bsonType", .text encoding.word),
          ("algorithm", .text algorithm)])]

/-- The legacy rules of all encrypted fields. -/
def legacyRules (key : KeyId) (count : Int) (encoding : Encoding) : Document :=
  (fieldNames count).map fun name => (name, legacyRule key encoding)

/-- The schema of legacy encryption. -/
def legacySchema (key : KeyId) (count : Int) (encoding : Encoding) : Document :=
  [("bsonType", .text "object"), ("properties", .document (legacyRules key count encoding))]

/-- The schema of legacy encryption as a validator of the store. -/
def remoteSchema (key : KeyId) (count : Int) (encoding : Encoding) : Document :=
  [("$jsonSchema", .document (legacySchema key count encoding))]

/-- The query that a field allows, with its contention factor if that is known and not negative. -/
def equalityQuery (contention : Option Int) : Document :=
  match contention with
  | some factor =>
    if -1 < factor then [("queryType", .text queryType), ("contention", .int64 factor)]
    else [("queryType", .text queryType)]
  | none => [("queryType", .text queryType)]

/-- The description of one field that can be searched for equality. -/
def queryableField (key : KeyId) (encoding : Encoding) (name : String)
    (contention : Option Int) : Value :=
  .document
    [("path", .text name),
      ("keyId", key.toValue),
      ("bsonType", .text encoding.word),
      ("queries", .array [.document (equalityQuery contention)])]

/-- The fields that can be searched for equality. -/
def queryableFields (key : KeyId) (count : Int) (encoding : Encoding)
    (contentionFactors : List Int) : Document :=
  [("fields",
    .array <| (List.range count.toNat).map fun i =>
      queryableField key encoding (Discrete.fieldName i) contentionFactors[i]?)]

end Schema

end LoadBinding
