import LoadBinding.Proofs.Mappings
import LoadBinding.Proofs.Visiting

/-!
# Stepping a harness

How the parts of a harness react to one request: the harness that a run begins with, the operation
of a worker on the context that it holds, and what registering and unregistering do to the provider.

An operation reaches the store only if its worker is registered and its context exists.
`Harness.Holds` says that this is so, and `Harness.operated` is the harness after the operation.
-/

namespace LoadBinding

open LoadBinding.Action World

namespace Harness

variable {α : Type} (h : Harness)

/-- A harness with some workers of one provider, none of them registered. -/
def start (cluster : Cluster) (draws : Draws) (faults : Faults) (provider : String)
    (bags : Mapping Bag) : Harness where
  world := { cluster := cluster, draws := draws, faults := faults }
  workers := bags.mapValues fun bag => { bag := bag, provider := provider }

/-- The number of registered workers. -/
def activeCount : ℕ :=
  h.workers.countP fun pair => pair.2.active.isSome

/-- Whether a request was answered, and not with the outcome of a failure. -/
def succeeds : Except Failure Answer → Bool
  | .ok (.outcome o) => o.isOk
  | .ok (.record o) => o.isOk
  | .ok (.records o) => o.isOk
  | .ok _ => true
  | .error _ => false

/-! ## Fields after a change -/

section Fields

variable (name : String) (p : Provider) (number : ℕ) (c : Context)

@[simp] lemma contexts_setProvider : (h.setProvider name p).contexts = h.contexts := rfl

lemma provider_setProvider_eq (name' : String) :
    (h.setProvider name p).provider name' = if name' = name then p else h.provider name' := by
  unfold setProvider provider
  rw [Mapping.get?_set]
  split <;> rfl

@[simp] lemma provider_setProvider : (h.setProvider name p).provider name = p := by
  rw [provider_setProvider_eq, if_pos rfl]

@[simp] lemma world_noteContexts : h.noteContexts.world = h.world := rfl

@[simp] lemma contexts_noteContexts : h.noteContexts.contexts = h.contexts := rfl

@[simp] lemma workers_noteContexts : h.noteContexts.workers = h.workers := rfl

@[simp] lemma provider_noteContexts : h.noteContexts.provider name = h.provider name := rfl

end Fields

/-! ## Runs -/

lemma run_cons (request : Request) (requests : List Request) :
    h.run (request :: requests) =
      ((h.step request).1 :: ((h.step request).2.run requests).1,
        ((h.step request).2.run requests).2) := rfl

/-- A run can be interrupted anywhere. -/
lemma run_append (first second : List Request) :
    h.run (first ++ second) =
      ((h.run first).1 ++ ((h.run first).2.run second).1, ((h.run first).2.run second).2) := by
  induction first generalizing h with
  | nil => rfl
  | cons request rest ih => rw [List.cons_append, run_cons, ih, run_cons, List.cons_append]

/-- What every step preserves holds after every run. -/
lemma run_induction {P : Harness → Prop} {requests : List Request}
    (step : ∀ h, P h → ∀ request ∈ requests, P (h.step request).2) (start : P h) :
    P (h.run requests).2 := by
  induction requests generalizing h with
  | nil => exact start
  | cons request rest ih =>
    rw [run_cons]
    refine ih (h.step request).2 (fun h hP r hr => step h hP r (List.mem_cons_of_mem _ hr)) ?_
    exact step h start request List.mem_cons_self

/-! ## Operations -/

/-- A worker is registered, and holds a context. -/
structure Holds (name : String) (w : Worker) (active : Active) (c : Context) : Prop where
  worker : h.workers.get? name = some w
  registered : w.active = some active
  context : h.contexts[active.context]? = some c

/-- The harness after an operation of a worker that has left behind a context, a batch and a
world. -/
def operated (name : String) (w : Worker) (active : Active) (c : Context) (b : Batch)
    (world : World) : Harness :=
  { h with
    world := world
    contexts := h.contexts.set active.context c
    workers := h.workers.set name { w with active := some { active with batch := b } } }

variable {h}

/-- A registered worker operates on its context and batch. -/
lemma operate_of_holds {name : String} {w : Worker} {active : Active} {c : Context}
    (hw : h.Holds name w active c)
    (operation : Context → Batch → StateM World (α × Context × Batch)) :
    h.operate name operation =
      (.ok ((operation c active.batch).run h.world).1.1,
        h.operated name w active ((operation c active.batch).run h.world).1.2.1
          ((operation c active.batch).run h.world).1.2.2
          ((operation c active.batch).run h.world).2) := by
  unfold operate
  rw [hw.worker]
  dsimp only
  rw [hw.registered]
  dsimp only
  rw [hw.context]
  rfl

/-- Without a registered worker nothing happens. -/
lemma operate_of_not_holds {name : String} (hw : ∀ w active c, ¬ h.Holds name w active c)
    (operation : Context → Batch → StateM World (α × Context × Batch)) :
    h.operate name operation = (.error .workerInactive, h) := by
  unfold operate
  cases hworker : h.workers.get? name with
  | none => rfl
  | some w =>
    dsimp only
    cases hactive : w.active with
    | none => rfl
    | some active =>
      dsimp only
      cases hcontext : h.contexts[active.context]? with
      | none => rfl
      | some c => exact absurd ⟨hworker, hactive, hcontext⟩ (hw w active c)

/-- An operation leaves its worker registered, with the batch that it returns. -/
lemma get?_operated (h : Harness) (name : String) (w : Worker) (active : Active) (c : Context)
    (b : Batch) (world : World) :
    (h.operated name w active c b world).workers.get? name =
      some { w with active := some { active with batch := b } } :=
  (Mapping.get?_set _ _ _ _).trans (if_pos rfl)

/-- An operation keeps the registrations of the workers. -/
lemma activeCount_operated {name : String} {w : Worker} {active : Active} {c : Context}
    (hw : h.Holds name w active c) (c' : Context) (b : Batch) (world : World) :
    (h.operated name w active c' b world).activeCount = h.activeCount := by
  have hcount := Mapping.countP_set hw.worker (fun pair => pair.2.active.isSome)
    { w with active := some { active with batch := b } }
  simp only [hw.registered, Option.isSome_some, if_true] at hcount
  exact Nat.add_right_cancel hcount

/-- The answer to an insertion, and the harness after it. -/
lemma step_insert {name : String} {w : Worker} {active : Active} {c : Context}
    (hw : h.Holds name w active c) (table key : String) (values : Mapping Text.Bytes) :
    h.step (.insert name table key values) =
      (.ok (.outcome ((c.insert active.batch table key values).run h.world).1.1),
        (h.operated name w active ((c.insert active.batch table key values).run h.world).1.2.1
          ((c.insert active.batch table key values).run h.world).1.2.2
          ((c.insert active.batch table key values).run h.world).2).noteContexts) := by
  have hop := operate_of_holds hw fun c b => c.insert b table key values
  unfold step answer outcomeAnswer
  dsimp only
  rw [hop]
  rfl

/-- The answer to a flush, and the harness after it. -/
lemma step_flush {name : String} {w : Worker} {active : Active} {c : Context}
    (hw : h.Holds name w active c) (selection : Option String) :
    h.step (.flush name selection) =
      (.ok (.outcome ((c.flush active.batch selection).run h.world).1.1),
        (h.operated name w active ((c.flush active.batch selection).run h.world).1.2.1
          ((c.flush active.batch selection).run h.world).1.2.2
          ((c.flush active.batch selection).run h.world).2).noteContexts) := by
  have hop := operate_of_holds hw fun c b => c.flush b selection
  unfold step answer outcomeAnswer
  dsimp only
  rw [hop]
  rfl

/-- The harness after a clean-up. -/
lemma step_cleanUp {name : String} {w : Worker} (hw : h.workers.get? name = some w) :
    h.step (.cleanUp name) = (.ok .done, (h.cleanUpWorker name w).noteContexts) := by
  unfold step answer
  dsimp only
  rw [hw]

section Idle

variable {name : String} (hw : ∀ w active c, ¬ h.Holds name w active c)

include hw

/-- Without a registered worker nothing is inserted. -/
lemma step_insert_of_not_holds (table key : String) (values : Mapping Text.Bytes) :
    h.step (.insert name table key values) = (.error .workerInactive, h.noteContexts) := by
  have hop := operate_of_not_holds hw fun c b => c.insert b table key values
  unfold step answer outcomeAnswer
  dsimp only
  rw [hop]
  rfl

/-- Without a registered worker nothing is flushed. -/
lemma step_flush_of_not_holds (selection : Option String) :
    h.step (.flush name selection) = (.error .workerInactive, h.noteContexts) := by
  have hop := operate_of_not_holds hw fun c b => c.flush b selection
  unfold step answer outcomeAnswer
  dsimp only
  rw [hop]
  rfl

end Idle

/-! ## Registering -/

/-- A provider that has a context shares it. -/
lemma acquire_of_context {name : String} {number : ℕ}
    (hc : (h.provider name).context = some number) (bag : Bag) :
    h.acquire name bag = (.ok number,
      h.setProvider name ⟨(h.provider name).registrations + 1, some number⟩) := by
  unfold acquire
  dsimp only
  rw [hc]

/-- A registration whose context cannot be made does not count. -/
lemma acquire_of_error {name : String} {bag : Bag} {e : Failure} {world : World}
    (hc : (h.provider name).context = none)
    (hmade : exec (Context.create bag) h.world = (.error e, world)) :
    h.acquire name bag =
      (.error e, { h with world := world }.setProvider name (h.provider name)) := by
  unfold acquire onWorld
  dsimp only
  rw [hc, run_attempt, hmade]

/-- The first registration makes a context. -/
lemma acquire_of_ok {name : String} {bag : Bag} {c : Context} {world : World}
    (hc : (h.provider name).context = none)
    (hmade : exec (Context.create bag) h.world = (.ok c, world)) :
    h.acquire name bag = (.ok h.contexts.length,
      { h with world := world, contexts := h.contexts ++ [c] }.setProvider name
        ⟨(h.provider name).registrations + 1, some h.contexts.length⟩) := by
  unfold acquire onWorld
  dsimp only
  rw [hc, run_attempt, hmade]

/-- A batch of the size of accepted settings can be made. -/
lemma create_batch {size : ℤ} (hsize : 1 ≤ size) : Batch.create size = .ok { size := size } := by
  unfold Batch.create
  rw [if_neg (by omega)]

/-- The harness in which a worker has just been given a context and an empty batch for it. -/
def registered (h : Harness) (name : String) (w : Worker) (number : ℕ) (c : Context) : Harness :=
  { h with
    workers := h.workers.set name
      { w with active := some ⟨number, { size := c.settings.batchSize }⟩ } }

lemma initWorker_of_active {name : String} {w : Worker} {active : Active}
    (hw : w.active = some active) : h.initWorker name w = (.ok (), h) := by
  unfold initWorker
  rw [hw]

lemma initWorker_of_error {name : String} {w : Worker} {e : Failure} {h' : Harness}
    (hw : w.active = none) (ha : h.acquire w.provider w.bag = (.error e, h')) :
    h.initWorker name w = (.error e, h') := by
  unfold initWorker
  rw [hw]
  dsimp only
  rw [ha]

lemma initWorker_of_ok {name : String} {w : Worker} {number : ℕ} {h' : Harness} {c : Context}
    (hw : w.active = none) (ha : h.acquire w.provider w.bag = (.ok number, h'))
    (hc : h'.contexts[number]? = some c) (hsize : 1 ≤ c.settings.batchSize) :
    h.initWorker name w = (.ok (), h'.registered name w number c) := by
  unfold initWorker
  rw [hw]
  dsimp only
  rw [ha]
  dsimp only
  rw [hc, Option.map_some, Option.getD_some, create_batch hsize]
  rfl

/-- The newly registered worker is counted. -/
lemma activeCount_registered {name : String} {w : Worker} (hw : h.workers.get? name = some w)
    (hidle : w.active = none) (number : ℕ) (c : Context) :
    (h.registered name w number c).activeCount = h.activeCount + 1 := by
  have hcount := Mapping.countP_set hw (fun pair => pair.2.active.isSome)
    { w with active := some ⟨number, { size := c.settings.batchSize }⟩ }
  simp only [hidle, Option.isSome_none, Option.isSome_some, if_true] at hcount
  simpa [activeCount, registered] using hcount

/-! ## Unregistering -/

/-- The harness in which a worker has given its context back. -/
def retired (h : Harness) (name : String) (w : Worker) : Harness :=
  { h with workers := h.workers.set name { w with active := none } }

/-- The retired worker is no longer counted. -/
lemma activeCount_retired {name : String} {w : Worker} {active : Active}
    (hw : h.workers.get? name = some w) (ha : w.active = some active) (w' : Worker) :
    (h.retired name w').activeCount + 1 = h.activeCount := by
  have hcount := Mapping.countP_set hw (fun pair => pair.2.active.isSome)
    { w' with active := none }
  simp only [ha, Option.isSome_none, Option.isSome_some, if_true] at hcount
  simpa [activeCount, retired] using hcount

/-- The harness after what a worker has buffered, if anything, was written. -/
def flushed (h : Harness) (name : String) (b : Batch) : Harness :=
  if b.count == 0 then h
  else (h.operate name fun context batch => context.flush batch none).2

lemma cleanUpWorker_of_idle {name : String} {w : Worker} (hw : w.active = none) :
    h.cleanUpWorker name w = h := by
  unfold cleanUpWorker
  rw [hw]

/-- A clean-up writes what is buffered and gives the context back. -/
lemma cleanUpWorker_of_active {name : String} {w : Worker} {active : Active}
    (hw : w.active = some active) :
    h.cleanUpWorker name w =
      ((h.flushed name active.batch).retired name w).release w.provider := by
  unfold cleanUpWorker flushed
  rw [hw]
  dsimp only
  split <;> rfl

/-- What is buffered is written as by a flush of all tables. -/
lemma world_flushed {name : String} {w : Worker} {active : Active} {c : Context}
    (hw : h.Holds name w active c) :
    (h.flushed name active.batch).world = ((c.flush active.batch none).run h.world).2 := by
  unfold flushed
  cases hcount : active.batch.count == 0 with
  | false =>
    rw [if_neg (by decide), operate_of_holds hw]
    rfl
  | true =>
    rw [if_pos rfl, Context.flush, if_pos hcount]
    rfl

/-- A registration that is not the last one is just taken back. -/
lemma release_of_many {name : String} {count : ℕ} {context : Option ℕ}
    (hp : h.provider name = ⟨count + 2, context⟩) :
    h.release name = h.setProvider name ⟨count + 1, context⟩ := by
  unfold release
  rw [hp]
  cases context <;> rfl

/-- With the last registration the context is closed. -/
lemma release_of_one {name : String} {number : ℕ} {c : Context}
    (hp : h.provider name = ⟨1, some number⟩) (hc : h.contexts[number]? = some c) :
    h.release name =
      ({ h with
        world := ((log .info logSource "Binding context closed").run (c.close.run h.world).2).2
        contexts := h.contexts.set number (c.close.run h.world).1 }).setProvider name {} := by
  unfold release
  rw [hp]
  simp only [hc]
  rfl

end Harness

end LoadBinding
