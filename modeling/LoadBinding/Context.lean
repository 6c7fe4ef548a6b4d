import LoadBinding.Encryption.Setup
import LoadBinding.Pool
import LoadBinding.Settings.Resolve

/-!
# Contexts

A context is what all workers of a run share: the settings, the pool of endpoints and the generators
of the discrete fields.  Failing to make one ends the run.
-/

namespace LoadBinding

open LoadBinding.Action

/-- What the workers of a run share. -/
structure Context where
  settings : Settings
  pool : Pool
  generators : Mapping Discrete
  isOpen : Bool := true

namespace Context

/-- The name under which contexts write to the log. -/
def logSource : String := "mongobench.comm.binding_context"

/-- Resolves a property bag, logging what there is to say about it. -/
def resolve (bag : Bag) : Action Settings := do
  let (reading, entries) := Settings.resolve bag
  logAll entries
  match reading with
  | .ok s => return s
  | .refused problems => throw (.settings problems)

/-- What provides the options of the first endpoint, when the settings ask for encryption. -/
def encryption (s : Settings) : Option (String → Action Value) :=
  if s.encryptionMode.isEnabled then
    some fun url => do return .document (← Encryption.setUp s url)
  else none

/-- Opens the pool of some settings; a failure ends the run. -/
def openPool (s : Settings) : Action Pool := do
  match ← outcome (Pool.create s (encryption s)) with
  | .ok pool => return pool
  | .error e =>
    if e.isExit then throw e
    else fatal "Could not initialize MongoDB connection pool" (some e.message)

/-- Makes a context from a property bag; a failure ends the run. -/
def create (bag : Bag) : Action Context := do
  let settings ←
    match ← outcome (resolve bag) with
    | .ok s => pure s
    | .error e => fatal "Invalid binding configuration" (some e.message)
  let pool ← openPool settings
  let context : Context :=
    { settings := settings
      pool := pool
      generators := Discrete.forFields settings.cardinalities }
  log .info logSource <|
    s!"Binding context ready: {pool.endpoints.length} endpoint(s), " ++
      s!"database '{settings.database}', encryption '{settings.encryptionMode.word}'"
  return context

/-- The endpoint whose turn it is, and the context after the selection. -/
def next (c : Context) : Option Endpoint × Context :=
  let (endpoint, pool) := c.pool.next
  (endpoint, { c with pool := pool })

/-- Closes a context, and its pool if the context was open. -/
def close (c : Context) : StateM World Context := do
  if c.isOpen then return { c with pool := ← c.pool.close, isOpen := false }
  else return c

end Context

end LoadBinding
