import LoadBinding.Record.Operations
import LoadBinding.Record.Verifier

/-!
# The harness

A load harness drives any number of workers.  Workers register with a provider, which makes a
context for the first of them and closes it after the last; all workers registered with one provider
share its context, and each has a batch of its own.

`Harness.step` is the answer to one request of the harness, and `Harness.run` to a sequence of them.
Requests to different workers may come in any order, so a statement about every sequence of requests
is a statement about every interleaving of the workers.

Contexts are numbered in the order in which they were made.  A provider and its workers refer to a
context by its number, so what one worker does to the context is seen by all.
-/

namespace LoadBinding

open LoadBinding.Text

/-- A source of contexts, and how many registrations with it are current. -/
structure Provider where
  registrations : Nat := 0
  /-- The number of the context that the registered workers share. -/
  context : Option Nat := none

/-- What a worker has between its registration and its clean-up. -/
structure Active where
  context : Nat
  batch : Batch

/-- A worker: its property bag, the name of its provider, and its registration. -/
structure Worker where
  bag : Bag
  provider : String
  active : Option Active := none

/-- A request of the harness. -/
inductive Request
  /-- Registers with a provider. -/
  | acquire (provider : String) (bag : Bag)
  | release (provider : String)
  /-- Selects endpoints of the context last made by a provider. -/
  | select (provider : String) (count : Nat)
  /-- Closes the context last made by a provider. -/
  | closeContext (provider : String)
  /-- Makes a context without a provider. -/
  | makeContext
  | setFaults (faults : Faults)
  | newWorker (worker provider : String) (bag : Bag)
  | init (worker : String)
  /-- Registers a worker, which answers that it is ready. -/
  | enter (worker : String)
  | cleanUp (worker : String)
  /-- Asks whether the context of a worker is open. -/
  | isOpen (worker : String)
  | insert (worker table key : String) (values : Mapping Bytes)
  | update (worker table key : String) (values : Mapping Bytes)
  | read (worker table key : String) (fields : Option (List String))
  | delete (worker table key : String)
  | scan (worker table start : String) (count : Int) (fields : Option (List String))
  | flush (worker : String) (table : Option String)
  | verify (worker key : String) (cells : Mapping Cell)
  /-- Verifies what is read under a key. -/
  | readVerify (worker table key : String)

/-- What the harness learns about a context that it has acquired. -/
structure Acquired where
  /-- Whether the context is another one than the provider had made last. -/
  isNew : Bool
  endpoints : Nat
  isOpen : Bool
  discreteFields : List String

/-- The answer to a request. -/
inductive Answer
  | done
  | flag (b : Bool)
  | acquired (a : Acquired)
  /-- The URLs for display of selected endpoints. -/
  | endpoints (urls : List String)
  | outcome (o : Outcome Unit)
  | record (o : Outcome (Mapping Bytes))
  | records (o : Outcome (List (Mapping Bytes)))

/-- The state of a harness. -/
structure Harness where
  world : World := {}
  /-- The contexts made so far. -/
  contexts : List Context := []
  providers : Mapping Provider := []
  workers : Mapping Worker := []
  /-- For each provider the number of the context that it made last. -/
  lastMade : Mapping Nat := []

namespace Harness

/-- The name under which providers write to the log. -/
def logSource : String := Context.logSource

/-- A provider, a fresh one as long as it has not been mentioned. -/
def provider (h : Harness) (name : String) : Provider :=
  (h.providers.get? name).getD {}

/-- Replaces a provider. -/
def setProvider (h : Harness) (name : String) (p : Provider) : Harness :=
  { h with providers := h.providers.set name p }

/-- Replaces a context. -/
def setContext (h : Harness) (number : Nat) (c : Context) : Harness :=
  { h with contexts := h.contexts.set number c }

/-- Runs an activity on the world of a harness. -/
def onWorld {α : Type} (h : Harness) (a : StateM World α) : α × Harness :=
  let (result, world) := a.run h.world
  (result, { h with world := world })

/-! ## Providers -/

/-- Registers with a provider, making its context if there is none.  A registration that fails does
not count. -/
def acquire (h : Harness) (name : String) (bag : Bag) : Except Failure Nat × Harness :=
  let p := h.provider name
  match p.context with
  | some number =>
    (.ok number, h.setProvider name { p with registrations := p.registrations + 1 })
  | none =>
    let (made, h) := h.onWorld (Context.create bag).attempt
    match made with
    | .error e => (.error e, h.setProvider name p)
    | .ok context =>
      let number := h.contexts.length
      let h := { h with contexts := h.contexts ++ [context] }
      (.ok number,
        h.setProvider name { registrations := p.registrations + 1, context := some number })

/-- Takes back a registration; with the last one the context is closed. -/
def release (h : Harness) (name : String) : Harness :=
  let p := h.provider name
  match p.registrations with
  | 0 =>
    ((h.setProvider name p).onWorld <|
      Action.log .warning logSource "release() called without a matching acquire()").2
  | registrations + 1 =>
    match registrations, p.context with
    | 0, some number =>
      match h.contexts[number]? with
      | none => h.setProvider name {}
      | some context =>
        let (closed, h) := h.onWorld context.close
        let h := (h.setContext number closed).setProvider name {}
        (h.onWorld (Action.log .info logSource "Binding context closed")).2
    | _, _ => h.setProvider name { p with registrations := registrations }

/-! ## Workers -/

/-- Registers a worker, unless it is registered. -/
def initWorker (h : Harness) (name : String) (w : Worker) : Except Failure Unit × Harness :=
  match w.active with
  | some _ => (.ok (), h)
  | none =>
    match h.acquire w.provider w.bag with
    | (.error e, h) => (.error e, h)
    | (.ok number, h) =>
      let size := (h.contexts[number]?.map fun c => c.settings.batchSize).getD 1
      match Batch.create size with
      | .error e => (.error e, h)
      | .ok batch =>
        let w := { w with active := some ⟨number, batch⟩ }
        (.ok (), { h with workers := h.workers.set name w })

/-- Runs an operation of a registered worker on its context and batch. -/
def operate {α : Type} (h : Harness) (name : String)
    (operation : Context → Batch → StateM World (α × Context × Batch)) :
    Except Failure α × Harness :=
  match h.workers.get? name with
  | none => (.error .workerInactive, h)
  | some w =>
    match w.active with
    | none => (.error .workerInactive, h)
    | some active =>
      match h.contexts[active.context]? with
      | none => (.error .workerInactive, h)
      | some context =>
        let ((result, context, batch), h) := h.onWorld (operation context active.batch)
        let w := { w with active := some { active with batch := batch } }
        (.ok result,
          { h.setContext active.context context with workers := h.workers.set name w })

/-- Runs an operation that leaves the batch alone. -/
def operateOn {α : Type} (h : Harness) (name : String)
    (operation : Context → StateM World (α × Context)) : Except Failure α × Harness :=
  h.operate name fun context batch => do
    let (result, context) ← operation context
    return (result, context, batch)

/-- Ends the registration of a worker after writing what it has buffered. -/
def cleanUpWorker (h : Harness) (name : String) (w : Worker) : Harness :=
  match w.active with
  | none => h
  | some active =>
    let (_, h) :=
      if active.batch.count == 0 then (.ok (.ok none), h)
      else h.operate name fun context batch => context.flush batch none
    let h := { h with workers := h.workers.set name { w with active := none } }
    h.release w.provider

/-- The verifier of rows under the settings of a context. -/
def verifierOf (c : Context) : RowVerifier :=
  { shardKey := c.settings.shardKey
    location := c.settings.location
    locationField := c.settings.locationField }

/-! ## Requests -/

/-- Selects endpoints one after the other, and returns their URLs for display. -/
def selectEndpoints (c : Context) : Nat → Except Failure (List String) × Context
  | 0 => (.ok [], c)
  | count + 1 =>
    match c.next with
    | (none, c) => (.error .noEndpoint, c)
    | (some endpoint, c) =>
      let (others, c) := selectEndpoints c count
      (others.map (endpoint.display :: ·), c)

/-- The context that a provider made last, with its number. -/
def lastContext? (h : Harness) (provider : String) : Option (Nat × Context) := do
  let number ← h.lastMade.get? provider
  let context ← h.contexts[number]?
  return (number, context)

/-- Notes the current context of every provider as the one that it made last. -/
def noteContexts (h : Harness) : Harness :=
  { h with
    lastMade := h.providers.foldl
      (fun seen (name, p) =>
        match p.context with
        | some number => seen.set name number
        | none => seen) h.lastMade }

/-- Makes sure that a provider exists. -/
def mention (h : Harness) (name : String) : Harness :=
  h.setProvider name (h.provider name)

/-- An answer that is an outcome without data. -/
def outcomeAnswer (result : Except Failure (Outcome Unit) × Harness) :
    Except Failure Answer × Harness :=
  (result.1.map Answer.outcome, result.2)

/-- The answer to a request, before the contexts are noted. -/
def answer (h : Harness) : Request → Except Failure Answer × Harness
  | .acquire name bag =>
    match h.acquire name bag with
    | (.error e, h) => (.error e, h)
    | (.ok number, h) =>
      match h.contexts[number]? with
      | none => (.error .noEndpoint, h)
      | some c =>
        (.ok (.acquired
          { isNew := h.lastMade.get? name != some number
            endpoints := c.pool.endpoints.length
            isOpen := c.isOpen
            discreteFields := c.generators.keys }), h)
  | .release name => (.ok .done, h.release name)
  | .select name count =>
    match h.lastContext? name with
    | none => (.error .noEndpoint, h)
    | some (number, context) =>
      let (urls, context) := selectEndpoints context count
      (urls.map Answer.endpoints, h.setContext number context)
  | .closeContext name =>
    match h.lastContext? name with
    | none => (.ok .done, h)
    | some (number, context) =>
      let (context, h) := h.onWorld context.close
      (.ok .done, h.setContext number context)
  | .makeContext => (.error .contextNotAcquired, h)
  | .setFaults faults => (.ok .done, { h with world := { h.world with faults := faults } })
  | .newWorker name provider bag =>
    let h := h.mention provider
    (.ok .done, { h with workers := h.workers.set name { bag := bag, provider := provider } })
  | .init name =>
    match h.workers.get? name with
    | none => (.error .workerInactive, h)
    | some w =>
      let (result, h) := h.initWorker name w
      (result.map fun _ => .done, h)
  | .enter name =>
    match h.workers.get? name with
    | none => (.error .workerInactive, h)
    | some w =>
      let (result, h) := h.initWorker name w
      (result.map fun _ => .flag true, h)
  | .cleanUp name =>
    match h.workers.get? name with
    | none => (.error .workerInactive, h)
    | some w => (.ok .done, h.cleanUpWorker name w)
  | .isOpen name =>
    let (result, h) := h.operateOn name fun c => return (c.isOpen, c)
    (result.map Answer.flag, h)
  | .insert name table key values =>
    outcomeAnswer (h.operate name fun c b => c.insert b table key values)
  | .update name table key values =>
    outcomeAnswer (h.operateOn name fun c => c.update table key values)
  | .read name table key fields =>
    let (result, h) := h.operateOn name fun c => c.read table key fields
    (result.map Answer.record, h)
  | .delete name table key => outcomeAnswer (h.operateOn name fun c => c.delete table key)
  | .scan name table start count fields =>
    let (result, h) := h.operateOn name fun c => c.scan table start count fields
    (result.map Answer.records, h)
  | .flush name table => outcomeAnswer (h.operate name fun c b => c.flush b table)
  | .verify name key cells =>
    outcomeAnswer <| h.operateOn name fun c => do
      return (← (verifierOf c).verify key cells, c)
  | .readVerify name table key =>
    outcomeAnswer <| h.operateOn name fun c => do
      let (found, c) ← c.read table key none
      let row := (found.data.getD []).mapValues Cell.bytes
      return (← (verifierOf c).verify key row, c)

/-- The answer to a request, and the harness after it. -/
def step (h : Harness) (request : Request) : Except Failure Answer × Harness :=
  let (result, h) := h.answer request
  (result, h.noteContexts)

/-- The answers to a sequence of requests, and the harness after them. -/
def run (h : Harness) : List Request → List (Except Failure Answer) × Harness
  | [] => ([], h)
  | request :: requests =>
    let (result, h) := h.step request
    let (results, h) := h.run requests
    (result :: results, h)

end Harness

end LoadBinding
