import LoadBinding.Failure
import LoadBinding.Log.Entry
import LoadBinding.Store.Call

/-!
# The world of a run

The world is what an activity works on: the cluster, the faults that it shows, the sources of fresh
numbers, and the record of the calls made and the entries logged.

An `Action` is an activity that may fail.  Its effects up to the failure remain, so a failed action
still returns the world that it leaves behind.  Every call is recorded before anything else happens;
when a fault waits at its address the call fails there, and otherwise it takes effect.
-/

namespace LoadBinding

/-- The faults that a deployment shows, by the address of the call. -/
abbrev Faults := Mapping Fault

/-- What an activity works on. -/
structure World where
  cluster : Cluster := {}
  faults : Faults := []
  draws : Draws := {}
  /-- How many update markers have been given out. -/
  markers : Nat := 0
  /-- How many identifiers of data keys have been given out. -/
  identifiers : Nat := 0
  /-- The calls made, in order. -/
  calls : List Call := []
  /-- The entries logged, in order. -/
  entries : List Log.Entry := []

/-- A world whose record of calls and entries is empty. -/
def World.forget (w : World) : World :=
  { w with calls := [], entries := [] }

/-- An activity that may fail, and whose effects remain when it does. -/
abbrev Action := ExceptT Failure (StateM World)

namespace Action

/-- Runs an action, and returns its failure in place of failing. -/
def attempt {α : Type} (a : Action α) : StateM World (Except Failure α) :=
  ExceptT.run a

/-- Runs an action inside another, and returns its failure in place of failing. -/
def outcome {α : Type} (a : Action α) : Action (Except Failure α) :=
  ExceptT.lift (attempt a)

/-- Adds an entry to the log. -/
def log (level : Log.Level) (source text : String) : StateM World Unit :=
  modify fun w => { w with entries := w.entries ++ [⟨level, source, text⟩] }

/-- Adds several entries to the log. -/
def logAll (entries : List Log.Entry) : StateM World Unit :=
  modify fun w => { w with entries := w.entries ++ entries }

/-- Records a call, and fails if a fault waits for it. -/
def record (call : Call) : Action Unit := do
  modify fun w => { w with calls := w.calls ++ [call] }
  match (← get).faults.get? call.address with
  | some f => throw (.fault f)
  | none => pure ()

/-- Changes the cluster. -/
def modifyCluster (f : Cluster → Cluster) : Action Unit :=
  modify fun w => { w with cluster := f w.cluster }

/-- Fails with the reason for which the store refuses. -/
def ofStore {α : Type} : Except StoreError α → Action α
  | .ok a => pure a
  | .error e => throw (.store e)

/-- Ends the run after saying why.  `inner` is the text of the failure behind it. -/
def fatal {α : Type} (heading : String) (inner : Option String) : Action α := do
  log .critical "mongobench.helpers" (Failure.under heading inner)
  throw (.exit 1)

/-- The digits of a fresh update marker. -/
def nextMarker : Action String := do
  modify fun w => { w with markers := w.markers + 1 }
  return String.ofList (Text.hex 24 (← get).markers)

/-- The sixteen bytes of a fresh identifier, the first of them the most significant. -/
def nextIdentifier : Action Text.Bytes := do
  modify fun w => { w with identifiers := w.identifiers + 1 }
  let n := (← get).identifiers
  return (List.range 16).map fun i => UInt8.ofNat (n / Nat.pow 256 (15 - i))

/-- Prepares the payload of a field, taking the draws that this needs. -/
def prepare (generators : Mapping Discrete) (ratio : Float) (encoding : Encoding)
    (field : String) (data : Text.Bytes) : Action Value := do
  let (result, draws) := Payload.prepare generators ratio encoding field data (← get).draws
  modify fun w => { w with draws := draws }
  match result with
  | .ok v => pure v
  | .error e => throw (.payload e)

end Action

end LoadBinding
