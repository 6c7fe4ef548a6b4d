import LoadBinding.Payload.Prepare
import LoadBinding.Settings.Problem
import LoadBinding.Store.Collection

/-!
# Failures

Everything that can end an activity before its time.  All failures but one are reported to whoever
asked for the activity, who may go on; `exit` ends the whole run, and nothing may catch it.
-/

namespace LoadBinding

/-- The kinds of faults that a deployment may show. -/
inductive FaultKind
  /-- The store cannot be reached. -/
  | unreachable
  /-- The store cannot make sense of a value. -/
  | badValue
  /-- The store refuses the operation. -/
  | refused
  /-- The store refuses a collection. -/
  | invalidCollection
  deriving DecidableEq, Repr

/-- A fault that a deployment shows on a call. -/
structure Fault where
  kind : FaultKind
  text : String
  deriving DecidableEq, Repr

/-- Why an activity ended before its time. -/
inductive Failure
  /-- The deployment showed a fault. -/
  | fault (f : Fault)
  /-- The store refused. -/
  | store (e : StoreError)
  /-- A payload could not be prepared. -/
  | payload (e : PayloadError)
  /-- The settings are wrong. -/
  | settings (problems : List Problem)
  /-- The key vault holds something else than a data key. -/
  | notADataKey (id : Value)
  /-- The identifier of a data key does not have sixteen bytes. -/
  | dataKeyLength (length : Nat)
  /-- Encryption was to be set up for settings that ask for none. -/
  | encryptionDisabled
  /-- An endpoint was asked of a pool that has none. -/
  | noEndpoint
  /-- A batch was to hold fewer than one document. -/
  | batchSize (size : Int)
  /-- A context was to be made otherwise than by acquiring it. -/
  | contextNotAcquired
  /-- A worker was used outside its lifetime. -/
  | workerInactive
  /-- The run is over. -/
  | exit (code : Nat)

namespace Failure

/-- What a message says about a failure. -/
def message : Failure → String
  | fault f => f.text
  | store e => e.message
  | payload e => e.message
  | settings problems => Problem.summary problems
  | notADataKey id => "Unexpected data key identifier: " ++ id.literal
  | dataKeyLength length => s!"cannot decode a uuid from a {length}-byte payload, expected 16"
  | encryptionDisabled => "EncryptionConfigurator requires an encryption mode"
  | noEndpoint => "integer modulo by zero"
  | batchSize size => s!"Batch size must be >= 1. Got {size}"
  | contextNotAcquired =>
    "BindingContext must be obtained through BindingContextProvider.acquire()."
  | workerInactive => "MongoBinding used before init() or after cleanup()"
  | exit code => toString code

/-- Whether a failure ends the run. -/
def isExit : Failure → Bool
  | exit _ => true
  | _ => false

/-- Whether a failure is a refusal to create a collection, by its name or by the store. -/
def isCreationRefusal : Failure → Bool
  | fault f => f.kind == .refused || f.kind == .invalidCollection
  | store (.collectionExists _) => true
  | store (.duplicateKey _) => true
  | _ => false

/-- The text of a failure behind a heading. -/
def under (heading : String) (inner : Option String) : String :=
  match inner with
  | none => heading
  | some text => heading ++ "\nInner err: " ++ text

end Failure

end LoadBinding
