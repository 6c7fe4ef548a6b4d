import LoadBinding.Proofs.Batches
import LoadBinding.Proofs.Closing
import LoadBinding.Proofs.Launching

/-!
# Buffered documents

A worker that writes in batches hands its documents over in two ways: an insertion that fills the
buffer of its table hands over the full buffer, and a flush hands over what is buffered.  Whatever
faults the deployment shows, and whenever they change, a document is handed over at most once, in
the order of insertion, and it is lost only when the look-up of its table fails during a flush.

The books are kept by table (`Batch.docsOf`).  One request moves documents from the worker's buffer
and from the insertion to the calls that it makes; a run is accounted for by the sum of its
requests.
-/

namespace LoadBinding

open LoadBinding.Text LoadBinding.Action World

/-! ## Handing over -/

namespace Call

/-- The table and the documents of a call that writes several documents. -/
def batch? : Call → Option (String × List Document)
  | insertMany t docs => some (t.collection, docs)
  | _ => none

/-- The batches that some calls hand over. -/
def batches (calls : List Call) : List (String × List Document) :=
  calls.filterMap batch?

@[simp] lemma batches_append (first second : List Call) :
    batches (first ++ second) = batches first ++ batches second :=
  List.filterMap_append

end Call

open Call Batch

/-- No look-up of a table among some calls shows a fault. -/
def LooksUp (faults : Faults) (calls : List Call) (table : String) : Prop :=
  ∀ t, Call.use t ∈ calls → t.collection = table → faults.get? (Call.use t).address = none

/-- Whether the look-up of the table of a batch shows no fault. -/
def isReachable (faults : Faults) (batch : String × List Document) : Bool :=
  (faults.get? (lookUpAddress batch.1)).isNone

/-- A table keeps its documents or loses all of them when unreachable batches are left out. -/
lemma docsOf_filter_isReachable (faults : Faults) (drained : List (String × List Document))
    (table : String) :
    docsOf (drained.filter (isReachable faults)) table =
      if (faults.get? (lookUpAddress table)).isNone then docsOf drained table else [] := by
  induction drained with
  | nil => simp
  | cons pair rest ih =>
    rw [List.filter_cons, docsOf_cons]
    by_cases hp : pair.1 = table
    · split <;> split <;> simp_all [isReachable, docsOf_cons]
    · split <;> simp_all [docsOf_cons]

namespace Context

variable {c : Context} {s : Settings}

/-- The calls of a flush of one buffer; what it logs is no call. -/
lemma calls_flushTable_eq (c : Context) (name : String) (docs : List Document) (w : World) :
    ((c.flushTable name docs).run w).2.calls =
      (exec (do
        let target ← table c.settings c.selected name
        target.insertMany docs) w).2.calls := by
  unfold flushTable
  rw [next_eq]
  dsimp only
  rw [settings_advance, run_bind, run_attempt]
  cases exec (do
    let target ← table c.settings c.selected name
    target.insertMany docs) w with
  | mk written w' => cases written <;> rfl

/-- A flush of one buffer looks its table up and then hands the buffer over. -/
lemma calls_flushTable (hc : c.Serves s) (name : String) (docs : List Document) (w : World) :
    ∃ t issued, t.collection = name ∧
      ((c.flushTable name docs).run w).2.calls = w.calls ++ Call.use t :: issued ∧
      batches (Call.use t :: issued) = [(name, docs)].filter (isReachable w.faults) := by
  obtain ⟨t, ht⟩ := hc.exists_reaches name
  rw [calls_flushTable_eq]
  cases hf : w.faults.get? (lookUpAddress name) with
  | some f =>
    refine ⟨t, [], ht.collection_eq, ?_, ?_⟩
    · rw [exec_bind_of_error (exec_table_of_fault ht hf)]
      rfl
    · simp [isReachable, hf, batches, batch?]
  | none =>
    refine ⟨t, [.insertMany t docs], ht.collection_eq, ?_, ?_⟩
    · rw [exec_bind_of_ok (exec_table_of_no_fault ht hf), calls_exec_insertMany]
      exact List.append_assoc _ _ _
    · simp only [batches, batch?, List.filterMap_cons, List.filterMap_nil, ht.collection_eq,
        isReachable, hf, List.filter_cons, List.filter_nil, Option.isNone_none, if_true]

/-- A flush hands over, in order, the drained buffers whose tables can be looked up. -/
lemma calls_flushTables (hc : c.Serves s) (outcome : Outcome Unit)
    (drained : List (String × List Document)) (w : World) :
    ∃ issued, ((c.flushTables outcome drained).run w).2.calls = w.calls ++ issued ∧
      batches issued = drained.filter (isReachable w.faults) ∧
      ∀ pair ∈ drained, ∃ t, Call.use t ∈ issued ∧ t.collection = pair.1 := by
  induction drained generalizing c outcome w with
  | nil => exact ⟨[], (List.append_nil _).symm, rfl, nofun⟩
  | cons pair rest ih =>
    obtain ⟨name, docs⟩ := pair
    obtain ⟨t, first, ht, hcalls, hfirst⟩ := calls_flushTable hc name docs w
    have hfaults := ((c.operates_flushTable name docs).visits w).faults
    have hnext := hc.operates (c.operates_flushTable name docs) w
    obtain ⟨others, hrest, hothers, hlookUps⟩ := ih hnext
      (if ((c.flushTable name docs).run w).1.1.isOk then outcome
        else ((c.flushTable name docs).run w).1.1) ((c.flushTable name docs).run w).2
    refine ⟨Call.use t :: first ++ others, ?_, ?_, ?_⟩
    · unfold flushTables
      rw [run_bind]
      refine hrest.trans ?_
      rw [hcalls, List.append_assoc]
    · rw [batches_append, hfirst, hothers, hfaults, ← List.filter_append]
      rfl
    · intro pair hpair
      rcases List.mem_cons.mp hpair with rfl | hpair
      · exact ⟨t, List.mem_append_left _ List.mem_cons_self, ht⟩
      · obtain ⟨t', hmem, ht'⟩ := hlookUps pair hpair
        exact ⟨t', List.mem_append_right _ hmem, ht'⟩

/-- The document that an insertion builds in a world, if it does not fail while building it. -/
def builtIn (c : Context) (name key : String) (values : Mapping Bytes) (w : World) :
    List Document :=
  match (exec (c.build name key values) w).1 with
  | .ok (_, doc) => [doc]
  | .error _ => []

/-- An insertion looks its table up once, before anything else. -/
lemma calls_exec_build (hc : c.Serves s) (name key : String) (values : Mapping Bytes) (w : World) :
    ∃ t, (exec (c.build name key values) w).2.calls = w.calls ++ [Call.use t] := by
  obtain ⟨t, ht⟩ := hc.exists_reaches name
  refine ⟨t, ?_⟩
  cases hf : w.faults.get? (lookUpAddress name) with
  | some f =>
    rw [exec_build_of_fault ht hf]
    rfl
  | none =>
    rw [exec_build_of_no_fault hc ht hf]
    rfl

end Context

/-- A batch writes as many documents at a time as the settings ask for, and no buffer is full. -/
structure Batch.Fits (b : Batch) (n : ℕ) : Prop where
  size : b.size = n
  bound : ∀ table, (b.buffer table).length < n

/-- An operation loses nothing: by table, what it hands over and what is buffered after it is what
was buffered before it and what it has built. -/
def Conserves (issued : List Call) (b b' : Batch) (built : String → List Document) : Prop :=
  ∀ table, docsOf (batches issued) table ++ b'.buffer table = b.buffer table ++ built table

section Adding

variable {b : Batch} {n : ℕ} (t : Target) (name : String) (doc : Document)

/-- An operation that builds nothing and hands nothing over leaves the buffers alone. -/
lemma conserves_nothing (b : Batch) :
    Conserves [Call.use t] b b fun table => if table = name then [] else [] := by
  intro table
  dsimp only
  rw [ite_self, List.append_nil]
  rfl

/-- A document that does not fill its buffer is kept. -/
lemma conserves_kept :
    Conserves [Call.use t] b (b.add name doc).1
      fun table => if table = name then [doc] else [] :=
  fun table => b.buffer_add name doc table

lemma Batch.Fits.kept {b : Batch} (hb : b.Fits n) (hfull : (b.add name doc).2 = false) :
    (b.add name doc).1.Fits n := by
  refine ⟨hb.size, fun table => ?_⟩
  by_cases h : table = name
  · subst h
    rw [add_isFull, decide_eq_false_iff_not, hb.size] at hfull
    omega
  · rw [buffer_add, if_neg h, List.append_nil]
    exact hb.bound table

/-- A full buffer is handed over as a whole, and begins anew. -/
lemma conserves_full (ht : t.collection = name) (u : Target) :
    Conserves [Call.use u, Call.insertMany t ((b.add name doc).1.buffer name)] b
      ((b.add name doc).1.take name).2 fun table => if table = name then [doc] else [] := by
  intro table
  have hbatches : batches [Call.use u, Call.insertMany t ((b.add name doc).1.buffer name)] =
      [(name, (b.add name doc).1.buffer name)] := by
    simp only [batches, batch?, List.filterMap_cons, List.filterMap_nil, ht]
  rw [hbatches, docsOf_singleton, buffer_take]
  by_cases h : table = name
  · subst h
    simp [buffer_add]
  · simp [h, Ne.symm h, buffer_add]

lemma Batch.Fits.full {b : Batch} (hb : b.Fits n) (hn : 0 < n) :
    ((b.add name doc).1.take name).2.Fits n := by
  refine ⟨hb.size, fun table => ?_⟩
  rw [buffer_take]
  split
  · exact hn
  · rename_i h
    rw [buffer_add, if_neg h, List.append_nil]
    exact hb.bound table

/-- The buffer that an insertion fills has just reached the size of the batch. -/
lemma Batch.Fits.length_full {b : Batch} (hb : b.Fits n) (hfull : (b.add name doc).2 = true) :
    ((b.add name doc).1.buffer name).length = n := by
  have hbound := hb.bound name
  rw [add_isFull, decide_eq_true_iff, hb.size] at hfull
  rw [buffer_add, if_pos rfl, List.length_append, List.length_singleton] at hfull ⊢
  omega

end Adding

/-- The books of a flush, by table: only a look-up that fails may lose documents. -/
structure Balances (faults : Faults) (issued : List Call) (b b' : Batch) : Prop where
  sublist : ∀ table, (docsOf (batches issued) table ++ b'.buffer table).Sublist (b.buffer table)
  exact : ∀ table, LooksUp faults issued table →
    docsOf (batches issued) table ++ b'.buffer table = b.buffer table

section Draining

variable {b : Batch} {n : ℕ}

/-- A flush hands over what it drains from the buffers, as far as the tables can be looked up. -/
lemma balances_drain {faults : Faults} {issued : List Call} (selection : Option String)
    (hissued : batches issued = ((b.drain selection).1).filter (isReachable faults))
    (hlookUps : ∀ pair ∈ (b.drain selection).1, ∃ t, Call.use t ∈ issued ∧ t.collection = pair.1) :
    Balances faults issued b (b.drain selection).2 := by
  have hdrain (table : String) := b.docsOf_drain_append selection table
  refine ⟨fun table => ?_, fun table hreach => ?_⟩
  · rw [hissued, docsOf_filter_isReachable, ← hdrain table]
    split
    · exact List.Sublist.refl _
    · exact List.sublist_append_right _ _
  · rw [hissued, docsOf_filter_isReachable, ← hdrain table]
    by_cases hnone : docsOf (b.drain selection).1 table = []
    · rw [hnone, ite_self]
    · -- Something of the table is drained, so the table was looked up.
      obtain ⟨pair, hpair, htable⟩ := exists_mem_of_docsOf_ne_nil hnone
      obtain ⟨t, ht, hcollection⟩ := hlookUps pair hpair
      have hfault := hreach t ht (hcollection.trans htable)
      rw [address_use, hcollection, htable] at hfault
      rw [hfault, Option.isNone_none, if_pos rfl]

lemma Batch.Fits.drain {b : Batch} (hb : b.Fits n) (selection : Option String) :
    (b.drain selection).2.Fits n := by
  refine ⟨(b.size_drain selection).trans hb.size, fun table => ?_⟩
  have hlength := congrArg List.length (b.docsOf_drain_append selection table)
  have hbound := hb.bound table
  rw [List.length_append] at hlength
  omega

end Draining

namespace Context

variable {c : Context} {s : Settings} {b : Batch} {n : ℕ}

/-- An insertion buffers the document that it builds, and hands the buffer over once it is full. -/
lemma insert_conserves (hc : c.Serves s) (hn : s.batchSize = n) (htwo : 2 ≤ n) (hb : b.Fits n)
    (name key : String) (values : Mapping Bytes) (w : World) :
    ∃ issued, ((c.insert b name key values).run w).2.calls = w.calls ++ issued ∧
      Conserves issued b ((c.insert b name key values).run w).1.2.2
        (fun table => if table = name then c.builtIn name key values w else []) ∧
      ((c.insert b name key values).run w).1.2.2.Fits n ∧
      ∀ batch ∈ batches issued, batch.2.length = n := by
  have hsize : (c.settings.batchSize == 1) = false := by
    rw [hc.settings, hn]
    simpa using by omega
  obtain ⟨t, hcalls⟩ := calls_exec_build hc name key values w
  rw [insert_eq, run_bind, run_attempt]
  unfold builtIn
  cases hbuild : exec (c.build name key values) w with
  | mk built w₁ =>
    rw [hbuild] at hcalls
    cases built with
    | error e => exact ⟨[.use t], hcalls, conserves_nothing _ _ b, hb, nofun⟩
    | ok found =>
      obtain ⟨target, doc⟩ := found
      obtain ⟨e, -, rfl⟩ := build_eq_ok hbuild
      dsimp only
      rw [hsize, if_neg (by decide)]
      cases hfull : (b.add name doc).2 with
      | false =>
        exact ⟨[.use t], hcalls, conserves_kept _ _ _, hb.kept _ _ hfull, nofun⟩
      | true =>
        have hwrite := calls_exec_insertMany ⟨e.client, c.settings.database, name⟩
          ((b.add name doc).1.buffer name) w₁
        rw [hcalls, List.append_assoc] at hwrite
        have hlength : ∀ batch ∈ batches [Call.use t, Call.insertMany
            ⟨e.client, c.settings.database, name⟩ ((b.add name doc).1.buffer name)],
            batch.2.length = n := by
          intro batch hbatch
          obtain rfl : (name, (b.add name doc).1.buffer name) = batch := by
            simpa [batches, batch?] using hbatch
          exact hb.length_full _ _ hfull
        rw [if_pos rfl, run_bind, run_attempt]
        cases hrun : exec (Target.insertMany ⟨e.client, c.settings.database, name⟩
            ((b.add name doc).1.buffer name)) w₁ with
        | mk written w₂ =>
          rw [hrun] at hwrite
          cases written with
          | ok _ =>
            exact ⟨_, hwrite, conserves_full _ _ _ rfl t, hb.full _ _ (by omega), hlength⟩
          | error f =>
            exact ⟨_, hwrite, conserves_full _ _ _ rfl t, hb.full _ _ (by omega), hlength⟩

/-- The batches that a flush hands over have documents, but are not full. -/
lemma flush_balances (hc : c.Serves s) (hb : b.Fits n) (selection : Option String) (w : World) :
    ∃ issued, ((c.flush b selection).run w).2.calls = w.calls ++ issued ∧
      Balances w.faults issued b ((c.flush b selection).run w).1.2.2 ∧
      ((c.flush b selection).run w).1.2.2.Fits n ∧
      ∀ batch ∈ batches issued, 1 ≤ batch.2.length ∧ batch.2.length < n := by
  unfold flush
  split
  · exact ⟨[], (List.append_nil _).symm, ⟨fun _ => List.Sublist.refl _, fun _ _ => rfl⟩, hb, nofun⟩
  · obtain ⟨issued, hcalls, hissued, hlookUps⟩ :=
      calls_flushTables hc (.ok none) (b.drain selection).1 w
    refine ⟨issued, hcalls, balances_drain selection hissued hlookUps, hb.drain selection, ?_⟩
    intro batch hbatch
    rw [hissued] at hbatch
    obtain ⟨hne, hbuffer⟩ := b.mem_drain selection (List.mem_filter.mp hbatch).1
    have hbound := hb.bound batch.1
    rw [← hbuffer] at hbound
    exact ⟨List.length_pos_iff.mpr hne, hbound⟩

/-- A flush of all tables leaves nothing buffered. -/
lemma buffer_flush_none (c : Context) (b : Batch) (w : World) (table : String) :
    ((c.flush b none).run w).1.2.2.buffer table = [] := by
  unfold flush
  split
  · rename_i hcount
    exact b.buffer_of_count_eq_zero (by simpa using hcount) table
  · exact b.buffer_drain_none table

end Context

/-! ## Turns of a run -/

/-- A request of a run, with the faults in force and the calls that it makes. -/
structure Turn where
  request : Request
  faults : Faults
  calls : List Call

namespace Request

/-- Whether a request is an insertion or a flush of a worker, or changes the faults. -/
def buffers (name : String) : Request → Bool
  | insert worker _ _ _ => worker == name
  | flush worker _ => worker == name
  | setFaults _ => true
  | _ => false

/-- Whether a request writes what is buffered. -/
def flushes : Request → Bool
  | flush _ _ => true
  | cleanUp _ => true
  | _ => false

/-- The number of documents that a request may hand over together: an insertion hands over full
buffers only, a flush or a clean-up anything less. -/
def MayHandOver (size : ℕ) : Request → ℕ → Prop
  | insert _ _ _ _, count => count = size
  | flush _ _, count => 1 ≤ count ∧ count < size
  | cleanUp _, count => 1 ≤ count ∧ count < size
  | _, _ => False

end Request

namespace Harness

/-- The turn of a request. -/
def turn (h : Harness) (request : Request) : Turn where
  request := request
  faults := h.world.faults
  calls := (h.step request).2.world.calls.drop h.world.calls.length

/-- The turns of a sequence of requests. -/
def turns (h : Harness) : List Request → List Turn
  | [] => []
  | request :: requests => h.turn request :: (h.step request).2.turns requests

/-- The documents that are handed over for a table in some turns. -/
def handedOver (turns : List Turn) (table : String) : List Document :=
  turns.flatMap fun turn => docsOf (batches turn.calls) table

/-- The context that a registered worker holds. -/
def contextOf? (h : Harness) (name : String) : Option Context :=
  (h.workers.get? name).bind fun w => w.active.bind fun active => h.contexts[active.context]?

/-- The documents for a table that a request builds. -/
def builtBy (h : Harness) (table : String) : Request → List Document
  | .insert name table' key values =>
    match h.contextOf? name with
    | none => []
    | some c => if table = table' then c.builtIn table' key values h.world else []
  | _ => []

/-- The documents for a table that a sequence of requests builds, in order. -/
def built (h : Harness) (table : String) : List Request → List Document
  | [] => []
  | request :: requests => h.builtBy table request ++ (h.step request).2.built table requests

variable {h : Harness} {name : String} {s : Settings} {n : ℕ} {b : Batch}

lemma Holds.contextOf?_eq {w : Worker} {active : Active} {c : Context}
    (hw : h.Holds name w active c) : h.contextOf? name = some c := by
  unfold contextOf?
  rw [hw.worker, Option.bind_some, hw.registered, Option.bind_some, hw.context]

lemma builtBy_insert {w : Worker} {active : Active} {c : Context} (hw : h.Holds name w active c)
    (table table' key : String) (values : Mapping Bytes) :
    h.builtBy table (.insert name table' key values) =
      if table = table' then c.builtIn table' key values h.world else [] := by
  unfold builtBy
  dsimp only
  rw [hw.contextOf?_eq]

lemma turn_calls {request : Request} {issued : List Call}
    (hissued : (h.step request).2.world.calls = h.world.calls ++ issued) :
    (h.turn request).calls = issued := by
  unfold turn
  rw [hissued, List.drop_left]

lemma turns_append (first second : List Request) :
    h.turns (first ++ second) = h.turns first ++ (h.run first).2.turns second := by
  induction first generalizing h with
  | nil => rfl
  | cons request rest ih => exact congrArg (h.turn request :: ·) ih

lemma handedOver_append (first second : List Turn) (table : String) :
    handedOver (first ++ second) table = handedOver first table ++ handedOver second table :=
  List.flatMap_append

/-- A worker is registered with a batch, and its context works under some settings. -/
structure Buffers (h : Harness) (name : String) (s : Settings) (n : ℕ) (b : Batch) : Prop where
  exists_holds : ∃ w active c, h.Holds name w active c ∧ c.Serves s ∧ active.batch = b
  fits : b.Fits n

/-- After an operation a worker is registered with the batch that the operation returns. -/
lemma buffers_operated {w : Worker} {active : Active} {c : Context} (hw : h.Holds name w active c)
    {c' : Context} (hc' : c'.Serves s) (hb : b.Fits n) (world : World) :
    (h.operated name w active c' b world).Buffers name s n b := by
  refine ⟨⟨_, _, c', ⟨get?_operated h name w active c' b world, rfl, ?_⟩, hc', rfl⟩, hb⟩
  exact List.getElem?_set_self (List.getElem?_eq_some_iff.mp hw.context).1

lemma Buffers.noteContexts (hb : h.Buffers name s n b) : h.noteContexts.Buffers name s n b := by
  obtain ⟨w, active, c, hw, hc, rfl⟩ := hb.exists_holds
  exact ⟨⟨w, active, c, ⟨hw.worker, hw.registered, hw.context⟩, hc, rfl⟩, hb.fits⟩

/-- The books of one request of a worker, by table, with the batch that it leaves. -/
structure Accounts (h : Harness) (request : Request) (n : ℕ) (b b' : Batch) : Prop where
  sublist : ∀ table, (docsOf (batches (h.turn request).calls) table ++ b'.buffer table).Sublist
    (b.buffer table ++ h.builtBy table request)
  exact : ∀ table,
    (request.flushes = true → LooksUp (h.turn request).faults (h.turn request).calls table) →
    docsOf (batches (h.turn request).calls) table ++ b'.buffer table =
      b.buffer table ++ h.builtBy table request
  counts : ∀ batch ∈ batches (h.turn request).calls, request.MayHandOver n batch.2.length

/-- A request that loses nothing. -/
lemma Accounts.of_conserves {request : Request} {b' : Batch}
    (hc : Conserves (h.turn request).calls b b' fun table => h.builtBy table request)
    (hcounts : ∀ batch ∈ batches (h.turn request).calls, request.MayHandOver n batch.2.length) :
    h.Accounts request n b b' :=
  ⟨fun table => by rw [hc table], fun table _ => hc table, hcounts⟩

/-- A request that writes what is buffered, and builds nothing. -/
lemma Accounts.of_balances {request : Request} {b' : Batch} (hr : request.flushes = true)
    (hb : Balances (h.turn request).faults (h.turn request).calls b b')
    (hbuilt : ∀ table, h.builtBy table request = [])
    (hcounts : ∀ batch ∈ batches (h.turn request).calls, request.MayHandOver n batch.2.length) :
    h.Accounts request n b b' := by
  refine ⟨fun table => ?_, fun table hreach => ?_, hcounts⟩
  · rw [hbuilt, List.append_nil]
    exact hb.sublist table
  · rw [hbuilt, List.append_nil]
    exact hb.exact table (hreach hr)

/-- A request of a worker balances, and leaves it registered with buffers that are not full. -/
lemma Buffers.step (hb : h.Buffers name s n b) (hn : s.batchSize = n) (htwo : 2 ≤ n)
    {request : Request} (hr : request.buffers name = true) :
    ∃ b', (h.step request).2.Buffers name s n b' ∧ h.Accounts request n b b' := by
  obtain ⟨w, active, c, hw, hc, rfl⟩ := hb.exists_holds
  cases request with
  | insert worker table key values =>
    obtain rfl : worker = name := by simpa [Request.buffers] using hr
    obtain ⟨issued, hissued, hconserves, hfits, hcounts⟩ :=
      c.insert_conserves hc hn htwo hb.fits table key values h.world
    obtain ⟨count, hcontext⟩ := (c.operates_insert active.batch table key values).advances h.world
    have hstep := congrArg Prod.snd (step_insert hw table key values)
    have hcalls := turn_calls ((congrArg (fun h => h.world.calls) hstep).trans hissued)
    refine ⟨((c.insert active.batch table key values).run h.world).1.2.2, ?_, .of_conserves ?_ ?_⟩
    · rw [hstep, hcontext]
      exact (buffers_operated hw (hc.advance count) hfits _).noteContexts
    · rw [hcalls]
      simp only [builtBy_insert hw]
      exact hconserves
    · rw [hcalls]
      exact hcounts
  | flush worker selection =>
    obtain rfl : worker = name := by simpa [Request.buffers] using hr
    obtain ⟨issued, hissued, hbalances, hfits, hcounts⟩ :=
      c.flush_balances hc hb.fits selection h.world
    obtain ⟨count, hcontext⟩ := (c.operates_flush active.batch selection).advances h.world
    have hstep := congrArg Prod.snd (step_flush hw selection)
    have hcalls := turn_calls ((congrArg (fun h => h.world.calls) hstep).trans hissued)
    refine ⟨((c.flush active.batch selection).run h.world).1.2.2, ?_,
      .of_balances rfl ?_ (fun _ => rfl) ?_⟩
    · rw [hstep, hcontext]
      exact (buffers_operated hw (hc.advance count) hfits _).noteContexts
    · rw [hcalls]
      exact hbalances
    · rw [hcalls]
      exact hcounts
  | setFaults faults =>
    have hcalls : (h.turn (.setFaults faults)).calls = [] :=
      turn_calls (List.append_nil _).symm
    refine ⟨active.batch,
      ⟨⟨w, active, c, ⟨hw.worker, hw.registered, hw.context⟩, hc, rfl⟩, hb.fits⟩,
      .of_conserves (fun _ => ?_) ?_⟩
    · rw [hcalls]
      exact (List.append_nil _).symm
    · rw [hcalls]
      exact nofun
  | _ => cases hr

/-- The books of a run of a worker: every request balances, so the run does. -/
lemma Buffers.run (hb : h.Buffers name s n b) (hn : s.batchSize = n) (htwo : 2 ≤ n)
    {requests : List Request} (hr : ∀ request ∈ requests, request.buffers name = true) :
    ∃ b', (h.run requests).2.Buffers name s n b' ∧
      (∀ table, (handedOver (h.turns requests) table ++ b'.buffer table).Sublist
        (b.buffer table ++ h.built table requests)) ∧
      (∀ table, (∀ turn ∈ h.turns requests, turn.request.flushes = true →
          LooksUp turn.faults turn.calls table) →
        handedOver (h.turns requests) table ++ b'.buffer table =
          b.buffer table ++ h.built table requests) ∧
      ∀ turn ∈ h.turns requests, ∀ batch ∈ batches turn.calls,
        turn.request.MayHandOver n batch.2.length := by
  induction requests generalizing h b with
  | nil =>
    exact ⟨b, hb, fun table => by simp [handedOver, turns, built],
      fun table _ => by simp [handedOver, turns, built], nofun⟩
  | cons request rest ih =>
    obtain ⟨b₁, hb₁, haccounts⟩ := hb.step hn htwo (hr request List.mem_cons_self)
    obtain ⟨b₂, hb₂, hsublist, hexact, hrest⟩ :=
      ih hb₁ fun r hmem => hr r (List.mem_cons_of_mem _ hmem)
    have hhanded (table : String) : handedOver (h.turns (request :: rest)) table =
        docsOf (batches (h.turn request).calls) table ++
          handedOver ((h.step request).2.turns rest) table := rfl
    have hbuilt (table : String) : h.built table (request :: rest) =
        h.builtBy table request ++ (h.step request).2.built table rest := rfl
    refine ⟨b₂, hb₂, fun table => ?_, fun table hreach => ?_, ?_⟩
    · rw [hhanded, hbuilt, List.append_assoc, ← List.append_assoc (b.buffer table)]
      refine ((hsublist table).append_left _).trans ?_
      rw [← List.append_assoc]
      exact (haccounts.sublist table).append_right _
    · rw [hhanded, hbuilt, List.append_assoc, ← List.append_assoc (b.buffer table),
        hexact table fun turn hturn => hreach turn (List.mem_cons_of_mem _ hturn),
        ← List.append_assoc, haccounts.exact table (hreach _ List.mem_cons_self)]
    · intro turn hturn
      rcases List.mem_cons.mp hturn with rfl | hturn
      · exact haccounts.counts
      · exact hrest turn hturn

/-- Calls that close connections hand nothing over. -/
lemma batches_of_closes {closes : List Call} (h : ∀ call ∈ closes, call.isClose = true) :
    batches closes = [] := by
  refine List.filterMap_eq_nil_iff.mpr fun call hcall => ?_
  have hclose := h call hcall
  cases call with
  | close _ => rfl
  | _ => cases hclose

/-- A clean-up hands over what is buffered, and balances with nothing left. -/
lemma Buffers.cleanUp (hb : h.Buffers name s n b) :
    h.Accounts (.cleanUp name) n b { size := n } ∧
      ∃ w, (h.step (.cleanUp name)).2.workers.get? name = some w ∧ w.active = none := by
  obtain ⟨w, active, c, hw, hc, rfl⟩ := hb.exists_holds
  have hstep : (h.step (.cleanUp name)).2 =
      (((h.flushed name active.batch).retired name w).release w.provider).noteContexts := by
    rw [step_cleanUp hw.worker, cleanUpWorker_of_active hw.registered]
  obtain ⟨issued, hissued, hbalances, -, hcounts⟩ := c.flush_balances hc hb.fits none h.world
  obtain ⟨closes, hcloses, hclose⟩ :=
    (closes_release ((h.flushed name active.batch).retired name w) w.provider).calls
  have hbatches : batches (issued ++ closes) = batches issued := by
    rw [batches_append, batches_of_closes hclose, List.append_nil]
  have hcalls : (h.turn (.cleanUp name)).calls = issued ++ closes := by
    refine turn_calls ?_
    rw [hstep, world_noteContexts, hcloses, ← List.append_assoc, ← hissued, ← world_flushed hw]
    rfl
  have hempty (table : String) :
      ((c.flush active.batch none).run h.world).1.2.2.buffer table = [] :=
    c.buffer_flush_none active.batch h.world table
  refine ⟨.of_balances rfl ⟨fun table => ?_, fun table hreach => ?_⟩ (fun _ => rfl) ?_, ?_⟩
  · have hsublist := hbalances.sublist table
    rw [hempty] at hsublist
    rw [hcalls, hbatches]
    exact hsublist
  · have hexact := hbalances.exact table fun t ht hcollection =>
      hreach t (hcalls ▸ List.mem_append_left _ ht) hcollection
    rw [hempty] at hexact
    rw [hcalls, hbatches]
    exact hexact
  · rw [hcalls, hbatches]
    exact hcounts
  · refine ⟨{ w with active := none }, ?_, rfl⟩
    rw [hstep, workers_noteContexts, workers_release]
    exact (Mapping.get?_set _ _ _ _).trans (if_pos rfl)

/-- A worker that was launched has nothing buffered. -/
lemma Launched.buffers {cluster : Cluster} {draws : Draws} {faults : Faults}
    {provider first : String} {bag : Bag} {others : Mapping Bag}
    (hl : Launched cluster draws faults provider ((first, bag) :: others) h)
    (hs : (Settings.resolve bag).1 = .ok s) (hn : s.batchSize = n) (hpos : 0 < n)
    (hname : name ∈ Mapping.keys ((first, bag) :: others)) :
    h.Buffers name s n { size := n } := by
  obtain ⟨c, hshares, hopened⟩ := hl.shares_opened
  obtain ⟨bag', hholds⟩ := hshares.holds hname
  obtain rfl : c.settings = s := by
    have := hopened.settings.symm.trans hs
    exact Reading.ok.inj this
  exact ⟨⟨_, _, c, hholds, hopened.serves, by rw [hn]⟩, rfl, fun _ => hpos⟩

/-- Whatever a worker that was launched with batches of some size inserts and flushes, and whatever
faults the deployment shows when: up to and with its clean-up, the documents that its insertions
build for a table are handed over at most once each, in the order of insertion, and exactly once if
no look-up of the table shows a fault.  Insertions hand over full batches only, flushes and the
clean-up smaller ones; no buffer is full between two requests, and none is left after the clean-up.
-/
theorem buffered_documents_conserved {cluster : Cluster} {draws : Draws} {faults : Faults}
    {provider first : String} {bag : Bag} {others : Mapping Bag}
    (hl : Launched cluster draws faults provider ((first, bag) :: others) h)
    (hs : (Settings.resolve bag).1 = .ok s) (hn : s.batchSize = n) (htwo : 2 ≤ n)
    (hname : name ∈ Mapping.keys ((first, bag) :: others)) {requests : List Request}
    (hr : ∀ request ∈ requests, request.buffers name = true) :
    (∀ table,
      (handedOver (h.turns (requests ++ [Request.cleanUp name])) table).Sublist
        (h.built table requests) ∧
      ((∀ turn ∈ h.turns (requests ++ [Request.cleanUp name]), turn.request.flushes = true →
          LooksUp turn.faults turn.calls table) →
        handedOver (h.turns (requests ++ [Request.cleanUp name])) table = h.built table requests)) ∧
    (∀ turn ∈ h.turns (requests ++ [Request.cleanUp name]), ∀ batch ∈ batches turn.calls,
      turn.request.MayHandOver n batch.2.length) ∧
    (∃ w active, (h.run requests).2.workers.get? name = some w ∧ w.active = some active ∧
      ∀ table, (active.batch.buffer table).length < n) ∧
    ∃ w, (h.run (requests ++ [Request.cleanUp name])).2.workers.get? name = some w ∧
      w.active = none := by
  have hstart := hl.buffers hs hn (by omega) hname
  obtain ⟨b, hb, hsublist, hexact, hcounts⟩ := hstart.run hn htwo hr
  obtain ⟨haccounts, hretired⟩ := hb.cleanUp
  have hturns : h.turns (requests ++ [Request.cleanUp name]) =
      h.turns requests ++ [(h.run requests).2.turn (.cleanUp name)] := turns_append _ _
  have hhanded (table : String) : handedOver (h.turns (requests ++ [Request.cleanUp name])) table =
      handedOver (h.turns requests) table ++
        docsOf (batches ((h.run requests).2.turn (.cleanUp name)).calls) table := by
    rw [hturns, handedOver_append]
    exact congrArg (_ ++ ·) (List.append_nil _)
  refine ⟨fun table => ⟨?_, fun hreach => ?_⟩, ?_, ?_, ?_⟩
  · -- What the clean-up hands over is part of what was buffered before it.
    have hlast := haccounts.sublist table
    rw [buffer_create, List.append_nil] at hlast
    rw [hhanded]
    exact (hlast.trans (by simp [builtBy])).append_left _ |>.trans (hsublist table)
  · have hlast := haccounts.exact table
      fun hflush => hreach _ (hturns ▸ List.mem_append_right _ (List.mem_singleton_self _)) hflush
    rw [buffer_create, List.append_nil] at hlast
    rw [hhanded, hlast]
    refine Eq.trans ?_ (hexact table fun turn hturn =>
      hreach turn (hturns ▸ List.mem_append_left _ hturn))
    exact congrArg (_ ++ ·) (List.append_nil _)
  · intro turn hturn
    rw [hturns] at hturn
    rcases List.mem_append.mp hturn with hturn | hturn
    · exact hcounts turn hturn
    · obtain rfl := List.mem_singleton.mp hturn
      exact haccounts.counts
  · obtain ⟨w, active, c, hw, -, rfl⟩ := hb.exists_holds
    exact ⟨w, active, hw.worker, hw.registered, hb.fits.bound⟩
  · rw [run_append]
    exact hretired

/-- A worker that has been launched with batches of two documents. -/
def worksInPairs : Harness :=
  ((start {} {} [] "p" [("a", [("batchsize", .text "2")])]).run [.init "a"]).2

/-- Of three documents two are handed over by the second insertion, and the last by the clean-up. -/
theorem buffered_documents_conserved_worksInPairs :
    Launched {} {} [] "p" [("a", [("batchsize", .text "2")])] worksInPairs ∧
      (worksInPairs.turns [.insert "a" "t" "1" [], .insert "a" "t" "2" [], .insert "a" "t" "3" [],
        .cleanUp "a"]).map (fun turn => (batches turn.calls).map fun batch => batch.2.length) =
          [[], [2], [], [1]] ∧
      (handedOver (worksInPairs.turns ([.insert "a" "t" "1" [], .insert "a" "t" "2" [],
        .insert "a" "t" "3" []] ++ [Request.cleanUp "a"])) "t").Sublist
          (worksInPairs.built "t" [.insert "a" "t" "1" [], .insert "a" "t" "2" [],
            .insert "a" "t" "3" []]) := by
  have hl : Launched {} {} [] "p" [("a", [("batchsize", .text "2")])] worksInPairs := by
    unfold worksInPairs
    exact launched_of_isOk (by decide) (by decide +kernel)
  obtain ⟨c, -, hopened⟩ := hl.shares_opened
  have hsize : (Settings.resolve [("batchsize", .text "2")]).1.value?.map Settings.batchSize =
      some ((2 : ℕ) : ℤ) := by decide +kernel
  rw [hopened.settings] at hsize
  replace hsize := Option.some.inj hsize
  have hr : ∀ request ∈ [Request.insert "a" "t" "1" [], .insert "a" "t" "2" [],
      .insert "a" "t" "3" []], request.buffers "a" = true := by
    simp [Request.buffers]
  have h := buffered_documents_conserved hl hopened.settings hsize le_rfl (by decide) hr
  exact ⟨hl, by decide +kernel, (h.1 "t").1⟩

end Harness

end LoadBinding
