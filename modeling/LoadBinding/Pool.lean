import LoadBinding.Settings.Basic
import LoadBinding.Store.Client

/-!
# Pools of endpoints

A pool has one client for every endpoint of the settings, in their order, and hands the endpoints
out in turn.  All clients are opened with the same options; encryption is switched on for the first
one alone.  When an endpoint cannot be opened, those opened before are closed again.

What a pool says about an endpoint shows its URL with the password masked.
-/

namespace LoadBinding

open LoadBinding.Action

/-- An endpoint: its URL for display, and its client. -/
structure Endpoint where
  display : String
  client : Client

/-- The endpoints of a run, and the number of selections made among them. -/
structure Pool where
  endpoints : List Endpoint
  selections : Nat := 0
  isOpen : Bool := true

namespace Pool

/-- The name under which a pool writes to the log. -/
def logSource : String := "mongobench.comm.connection"

/-- The endpoint whose turn it is, if there is any, and the pool after the selection. -/
def next (p : Pool) : Option Endpoint × Pool :=
  (p.endpoints[p.selections % p.endpoints.length]?, { p with selections := p.selections + 1 })

/-- Opens the client of one endpoint.  `encryption` provides the options that switch encryption on
for this endpoint. -/
def openEndpoint (s : Settings) (encryption : Option (String → Action Value)) (server : String) :
    Action Endpoint := do
  let authority := s.credentials.authority
  let url := Url.embed server authority
  let options ←
    match encryption with
    | none => pure s.clientOptions
    | some build => pure (s.clientOptions.set "auto_encryption_opts" (← build url))
  let client ← Client.connect url options
  let display := Url.mask url s.username authority
  if Url.isFull url then log .info logSource s!"mongo connection created to {display}"
  else log .debug logSource s!"mongo server connection to {display}"
  client.useDatabase s.database
  return ⟨display, client⟩

/-- Closes the clients of some endpoints; one that cannot be closed is reported and passed over. -/
def closeEndpoints : List Endpoint → StateM World Unit
  | [] => pure ()
  | endpoint :: rest => do
    match ← attempt endpoint.client.close with
    | .ok () => pure ()
    | .error e =>
      log .warning logSource s!"Error closing connection to {endpoint.display}: '{e.message}'"
    closeEndpoints rest

/-- Opens the clients of the endpoints that remain, after those already open.  When one cannot be
opened, those open are closed, unless the run is over. -/
def openFrom (s : Settings) (encryption : Option (String → Action Value)) (opened : List Endpoint) :
    List String → Action (List Endpoint)
  | [] => return opened
  | server :: rest => do
    match ← outcome (openEndpoint s (if opened.isEmpty then encryption else none) server) with
    | .ok endpoint => openFrom s encryption (opened ++ [endpoint]) rest
    | .error e =>
      if !e.isExit then closeEndpoints opened
      throw e

/-- Opens a pool on the endpoints of the settings. -/
def create (s : Settings) (encryption : Option (String → Action Value)) : Action Pool := do
  return { endpoints := ← openFrom s encryption [] s.endpoints }

/-- Closes every client of a pool. -/
def close (p : Pool) : StateM World Pool := do
  closeEndpoints p.endpoints
  return { p with isOpen := false }

end Pool

end LoadBinding
