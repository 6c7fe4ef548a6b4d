import LoadBinding.Document.Value

/-!
# Named choices

The options of a run that are chosen by name.  Each choice has the word by which a property selects
it, and what it means to a client of the store.
-/

namespace LoadBinding

/-- How far a write must have come before it counts as done. -/
inductive WriteConcern
  /-- Writes are not waited for. -/
  | unacknowledged
  /-- The primary has taken the write. -/
  | acknowledged
  /-- The write has reached the journal of the primary. -/
  | journaled
  /-- Two members of the replica set have taken the write. -/
  | replicaAcknowledged
  /-- A majority of the replica set has taken the write. -/
  | majority
  deriving DecidableEq, Repr

/-- Which members of a replica set answer reads. -/
inductive ReadPreference
  | primary
  | primaryPreferred
  | secondary
  | secondaryPreferred
  | nearest
  deriving DecidableEq, Repr

/-- How the payload of a field is stored. -/
inductive Encoding
  | binary
  | string
  deriving DecidableEq, Repr

/-- How fields are encrypted on the side of the client. -/
inductive EncryptionMode
  /-- Plain documents, and no key vault. -/
  | disabled
  /-- Field encryption driven by a schema. -/
  | legacy
  /-- Encryption that allows queries for equality. -/
  | queryable
  deriving DecidableEq, Repr

/-- How a record operation ended. -/
inductive Status
  | ok
  | error
  | unexpectedState
  deriving DecidableEq, Repr

/-- The member of a list of choices that is selected by a word. -/
def choose? {α : Type} (word : α → String) (choices : List α) (selected : String) : Option α :=
  choices.find? fun choice => word choice == selected

namespace WriteConcern

/-- The levels in order of declaration. -/
def all : List WriteConcern :=
  [unacknowledged, acknowledged, journaled, replicaAcknowledged, majority]

/-- The word that selects a level. -/
def word : WriteConcern → String
  | unacknowledged => "unacknowledged"
  | acknowledged => "acknowledged"
  | journaled => "journaled"
  | replicaAcknowledged => "replica_acknowledged"
  | majority => "majority"

/-- The client options that ask for a level. -/
def clientOptions : WriteConcern → Document
  | unacknowledged => [("w", .int 0)]
  | acknowledged => [("w", .int 1)]
  | journaled => [("w", .int 1), ("journal", .bool true)]
  | replicaAcknowledged => [("w", .int 2)]
  | majority => [("w", .text "majority")]

end WriteConcern

namespace ReadPreference

/-- The preferences in order of declaration. -/
def all : List ReadPreference :=
  [primary, primaryPreferred, secondary, secondaryPreferred, nearest]

/-- The word that selects a preference. -/
def word : ReadPreference → String
  | primary => "primary"
  | primaryPreferred => "primary_preferred"
  | secondary => "secondary"
  | secondaryPreferred => "secondary_preferred"
  | nearest => "nearest"

/-- The name by which a client knows a preference. -/
def clientName : ReadPreference → String
  | primary => "primary"
  | primaryPreferred => "primaryPreferred"
  | secondary => "secondary"
  | secondaryPreferred => "secondaryPreferred"
  | nearest => "nearest"

end ReadPreference

namespace Encoding

/-- The encodings in order of declaration. -/
def all : List Encoding := [binary, string]

/-- The word that selects an encoding, which is also the name of its type in a schema. -/
def word : Encoding → String
  | binary => "binData"
  | string => "string"

end Encoding

namespace EncryptionMode

/-- The modes in order of declaration. -/
def all : List EncryptionMode := [disabled, legacy, queryable]

/-- The word for a mode. -/
def word : EncryptionMode → String
  | disabled => "disabled"
  | legacy => "fle"
  | queryable => "qe"

/-- Whether a mode encrypts anything. -/
def isEnabled (mode : EncryptionMode) : Bool :=
  mode != disabled

end EncryptionMode

namespace Status

/-- The outcomes in order of declaration. -/
def all : List Status := [ok, error, unexpectedState]

/-- The word by which an outcome is reported. -/
def word : Status → String
  | ok => "ok"
  | error => "error"
  | unexpectedState => "unexpected_state"

end Status

end LoadBinding
