import LoadBinding.Proofs.Effects
import LoadBinding.Proofs.Reachable

/-!
# Queues of buffered documents

A worker that writes in batches keeps its documents in buffers, one for each table.  What is in the
buffers, and in which order they stand, is told by a simpler history: a queue of the documents that
wait to be written, each with its table.  An insertion appends to the queue, and a table leaves it
when it has gathered a full batch or is flushed.  The buffers are the queue grouped by table, where
the tables stand in the order in which their first waiting documents do (`Queue.byTable`).

That the buffers are always those of the queue is shown for one request (`buffered_step`) and then
for all (`buffered_run`).
-/

namespace LoadBinding

open LoadBinding.Text LoadBinding.Action World

/-! ## First occurrences -/

section Occurrences

variable {α : Type} [BEq α] [LawfulBEq α]

/-- Leaving elements out does not change in which order the others occur first. -/
lemma eraseDups_filter (p : α → Bool) (l : List α) :
    (l.filter p).eraseDups = l.eraseDups.filter p := by
  induction hn : l.length using Nat.strong_induction_on generalizing l with
  | _ n ih =>
    subst hn
    cases l with
    | nil => rfl
    | cons a as =>
      have hshorter : (as.filter fun b => !b == a).length < (a :: as).length :=
        Nat.lt_succ_of_le (List.length_filter_le _ _)
      have hrest := ih _ hshorter (as.filter fun b => !b == a) rfl
      rw [List.eraseDups_cons, List.filter_cons, List.filter_cons, ← hrest, List.filter_filter]
      split
      · rw [List.eraseDups_cons, List.filter_filter]
        simp only [Bool.and_comm]
      · rename_i ha
        have hsame : ∀ b ∈ as, p b = (p b && !b == a) := by
          intro b _
          by_cases h : b = a
          · subst h
            simpa using ha
          · simp [h]
        rw [List.filter_congr hsame]

lemma nodup_eraseDups (l : List α) : l.eraseDups.Nodup := by
  induction hn : l.length using Nat.strong_induction_on generalizing l with
  | _ n ih =>
    subst hn
    cases l with
    | nil => exact List.nodup_nil
    | cons a as =>
      have hshorter : (as.filter fun b => !b == a).length < (a :: as).length :=
        Nat.lt_succ_of_le (List.length_filter_le _ _)
      rw [List.eraseDups_cons]
      refine List.nodup_cons.mpr ⟨?_, ih _ hshorter _ rfl⟩
      simp [List.mem_eraseDups]

lemma eraseDups_concat (l : List α) (a : α) :
    (l ++ [a]).eraseDups = if a ∈ l then l.eraseDups else l.eraseDups ++ [a] := by
  rw [List.eraseDups_append]
  split
  · rename_i h
    simp [List.removeAll, h]
  · rename_i h
    simp [List.removeAll, h, List.eraseDups_cons]

end Occurrences

/-- Documents that wait to be written, with their tables, in the order of insertion. -/
abbrev Queue := List (String × Document)

namespace Queue

/-- The documents that wait for a table. -/
def docs (q : Queue) (table : String) : List Document :=
  (q.filter fun entry => entry.1 == table).map Prod.snd

/-- The tables for which documents wait, in the order in which the first of them was inserted. -/
def tables (q : Queue) : List String :=
  (q.map Prod.fst).eraseDups

/-- The documents that wait for each table. -/
def byTable (q : Queue) : Mapping (List Document) :=
  q.tables.map fun table => (table, q.docs table)

/-- The documents that wait for other tables. -/
def without (q : Queue) (table : String) : Queue :=
  q.filter fun entry => entry.1 != table

variable (q : Queue) (table : String) (doc : Document)

@[simp] lemma keys_byTable : q.byTable.keys = q.tables := by
  simp [byTable, Mapping.keys, Function.comp_def]

lemma nodup_tables : q.tables.Nodup :=
  nodup_eraseDups _

lemma mem_tables : table ∈ q.tables ↔ q.docs table ≠ [] := by
  simp [tables, docs, List.mem_eraseDups]

lemma docs_append (t : String) :
    docs (q ++ [(table, doc)]) t = q.docs t ++ if t = table then [doc] else [] := by
  unfold docs
  rw [List.filter_append, List.map_append]
  by_cases h : t = table
  · simp [h]
  · simp [h, Ne.symm h]

lemma get?_byTable (t : String) :
    q.byTable.get? t = if t ∈ q.tables then some (q.docs t) else none := by
  unfold byTable
  induction q.tables with
  | nil => rfl
  | cons first rest ih =>
    rw [List.map_cons, Mapping.get?_cons, ih]
    by_cases h : t = first
    · simp [h]
    · simp [h]

/-- Writing a key of a mapping that lists a function. -/
lemma set_map {α : Type} {keys : List String} (f : String → α) (key : String) (v : α)
    (hkeys : keys.Nodup) (hkey : key ∈ keys) :
    Mapping.set (keys.map fun k => (k, f k)) key v =
      keys.map fun k => (k, if k = key then v else f k) := by
  induction keys with
  | nil => cases hkey
  | cons first rest ih =>
    obtain ⟨hfirst, hrest⟩ := List.nodup_cons.mp hkeys
    rw [List.map_cons, List.map_cons, Mapping.set]
    by_cases h : key = first
    · subst h
      rw [if_pos (beq_self_eq_true key), if_pos rfl]
      refine congrArg _ (List.map_congr_left fun k hk => ?_)
      have hne : k ≠ key := by
        rintro rfl
        exact hfirst hk
      rw [if_neg hne]
    · rw [if_neg (by simpa using h), if_neg (Ne.symm h),
        ih hrest ((List.mem_cons.mp hkey).resolve_left h)]

/-- A document is appended to the buffer of its table, or begins a new one behind the others. -/
lemma byTable_append :
    byTable (q ++ [(table, doc)]) =
      q.byTable.set table ((q.byTable.get? table).getD [] ++ [doc]) := by
  have hdocs : (q.byTable.get? table).getD [] = q.docs table := by
    rw [get?_byTable]
    split
    · rfl
    · rename_i h
      rw [mem_tables, not_not] at h
      rw [h]
      rfl
  have htables : tables (q ++ [(table, doc)]) =
      if table ∈ q.tables then q.tables else q.tables ++ [table] := by
    unfold tables
    rw [List.map_append, List.map_singleton, eraseDups_concat]
    simp only [List.mem_eraseDups]
  rw [hdocs]
  unfold byTable
  rw [htables]
  by_cases h : table ∈ q.tables
  · rw [if_pos h, set_map _ _ _ q.nodup_tables h]
    refine List.map_congr_left fun t _ => ?_
    rw [docs_append]
    by_cases ht : t = table
    · rw [if_pos ht, if_pos ht, ht]
    · rw [if_neg ht, if_neg ht, List.append_nil]
  · have hkeys : table ∉ Mapping.keys q.byTable := by
      rwa [keys_byTable]
    have hset := Mapping.set_append_of_not_mem hkeys [] (q.docs table ++ [doc])
    rw [List.append_nil] at hset
    rw [if_neg h, List.map_append]
    refine Eq.trans ?_ hset.symm
    refine congrArg₂ (· ++ ·) (List.map_congr_left fun t ht => ?_) ?_
    · have hne : t ≠ table := by
        rintro rfl
        exact h ht
      rw [docs_append, if_neg hne, List.append_nil]
    · simp [docs_append, Mapping.set]

lemma docs_filter {p : String → Bool} {t : String} (h : p t = true) :
    docs (q.filter fun entry => p entry.1) t = q.docs t := by
  unfold docs
  rw [List.filter_filter]
  refine congrArg _ (List.filter_congr fun entry _ => ?_)
  by_cases ht : entry.1 = t
  · simp [ht, h]
  · simp [ht]

/-- The documents of some tables wait in the order in which all of them did. -/
lemma byTable_filter (p : String → Bool) :
    byTable (q.filter fun entry => p entry.1) = q.byTable.filter fun pair => p pair.1 := by
  have htables : tables (q.filter fun entry => p entry.1) = q.tables.filter p := by
    unfold tables
    rw [← eraseDups_filter, List.filter_map]
    rfl
  unfold byTable
  rw [htables, List.filter_map]
  refine List.map_congr_left fun t ht => ?_
  rw [docs_filter q (List.mem_filter.mp ht).2]

lemma byTable_without : (q.without table).byTable = q.byTable.erase table :=
  q.byTable_filter (· != table)

end Queue

namespace Batch

variable {b : Batch} {q : Queue}

/-- Whether a flush is for a table: a flush without a table is for all. -/
def isSelected (selection : Option String) (table : String) : Bool :=
  selection.all (· == table)

lemma buffers_add (hb : b.buffers = q.byTable) (table : String) (doc : Document) :
    (b.add table doc).1.buffers = Queue.byTable (q ++ [(table, doc)]) := by
  rw [Queue.byTable_append, ← hb]
  rfl

lemma buffers_take (hb : b.buffers = q.byTable) (table : String) :
    (b.take table).2.buffers = (q.without table).byTable := by
  rw [Queue.byTable_without, ← hb]
  rfl

lemma buffer_eq (hb : b.buffers = q.byTable) (table : String) :
    b.buffer table = q.docs table := by
  unfold buffer
  rw [hb, Queue.get?_byTable]
  split
  · rfl
  · rename_i h
    rw [Queue.mem_tables, not_not] at h
    rw [h]
    rfl

/-- Draining all tables takes all buffers out, in their order. -/
lemma drainTables_keys {pairs : Mapping (List Document)} (hb : b.buffers = pairs)
    (hkeys : pairs.keys.Nodup) (hne : ∀ pair ∈ pairs, pair.2 ≠ []) :
    b.drainTables pairs.keys = (pairs, { b with buffers := [] }) := by
  induction pairs generalizing b with
  | nil =>
    cases b
    cases hb
    rfl
  | cons pair rest ih =>
    obtain ⟨table, docs⟩ := pair
    obtain ⟨htable, hrest⟩ := List.nodup_cons.mp hkeys
    have hbuffer : b.buffer table = docs := by
      unfold buffer
      rw [hb, Mapping.get?_cons, if_pos (beq_self_eq_true table)]
      rfl
    have htake : (b.take table).2.buffers = rest := by
      have herase : Mapping.erase rest table = rest := by
        refine List.filter_eq_self.mpr fun pair hpair => ?_
        have hmem : pair.1 ∈ Mapping.keys rest := List.mem_map_of_mem hpair
        have hne : pair.1 ≠ table := by
          intro heq
          exact htable (heq ▸ hmem)
        simpa using hne
      change Mapping.erase b.buffers table = rest
      rw [hb]
      refine Eq.trans ?_ herase
      simp [Mapping.erase]
    have hlater := ih htake hrest fun pair hpair => hne pair (List.mem_cons_of_mem _ hpair)
    have hdocs : docs.isEmpty = false := by
      simpa using hne (table, docs) List.mem_cons_self
    change b.drainTables (table :: Mapping.keys rest) = _
    rw [drainTables_cons, hlater, hbuffer, hdocs]
    rfl

/-- At most one buffer is selected by a table. -/
lemma filter_isSelected_some (q : Queue) (table : String) :
    (q.byTable.filter fun pair => isSelected (some table) pair.1) =
      if (q.docs table).isEmpty then [] else [(table, q.docs table)] := by
  have hselected : q.tables.filter (isSelected (some table)) =
      List.replicate (q.tables.count table) table := by
    rw [← List.filter_beq]
    refine List.filter_congr fun t _ => ?_
    simp [isSelected, eq_comm]
  have hfilter : (q.byTable.filter fun pair => isSelected (some table) pair.1) =
      (q.tables.filter (isSelected (some table))).map fun t => (t, q.docs t) :=
    List.filter_map
  rw [hfilter, hselected]
  by_cases h : table ∈ q.tables
  · rw [List.count_eq_one_of_mem q.nodup_tables h]
    rw [Queue.mem_tables] at h
    simp [h]
  · rw [List.count_eq_zero.mpr h]
    rw [Queue.mem_tables, not_not] at h
    simp [h]

/-- What is selected is drained in the order of the buffers, and the others stay in theirs. -/
lemma drain_eq (hb : b.buffers = q.byTable) (selection : Option String) :
    b.drain selection =
      (q.byTable.filter fun pair => isSelected selection pair.1,
        { b with buffers := q.byTable.filter fun pair => !isSelected selection pair.1 }) := by
  have hne : ∀ pair ∈ q.byTable, pair.2 ≠ [] := by
    intro pair hpair
    obtain ⟨table, htable, rfl⟩ := List.mem_map.mp hpair
    exact (q.mem_tables table).mp htable
  cases selection with
  | none =>
    have htables : b.tables = q.byTable.keys := by
      unfold tables
      rw [hb, List.filter_eq_self.mpr fun pair hpair => by simpa using hne pair hpair]
    have hkeys : q.byTable.keys.Nodup := by
      rw [Queue.keys_byTable]
      exact q.nodup_tables
    change b.drainTables b.tables = _
    rw [htables, drainTables_keys hb hkeys hne]
    simp [isSelected]
  | some table =>
    have hkept : (q.byTable.filter fun pair => !isSelected (some table) pair.1) =
        b.buffers.erase table := by
      rw [hb]
      refine List.filter_congr fun pair _ => ?_
      simp [isSelected, bne, eq_comm (a := table)]
    rw [filter_isSelected_some, hkept, ← buffer_eq hb]
    rfl

end Batch

/-! ## Insertions and flushes of one worker -/

/-- A batch is of the size that the settings ask for; nothing is buffered where documents are
written one by one. -/
structure Batch.Suits (s : Settings) (b : Batch) : Prop where
  size : b.size = s.batchSize
  single : s.batchSize = 1 → b.buffers = []

namespace Queue

/-- A document joins the queue; the documents of its table leave it when they are as many as are
written together. -/
def accept (size : ℤ) (table : String) (q : Queue) (doc : Document) : Queue :=
  let longer : Queue := q ++ [(table, doc)]
  if size ≤ (longer.docs table).length then longer.without table else longer

lemma eq_nil_of_byTable {q : Queue} (h : q.byTable = []) : q = [] := by
  cases q with
  | nil => rfl
  | cons entry rest =>
    have htable : entry.1 ∈ tables (entry :: rest) := by
      simp [tables, List.mem_eraseDups]
    rw [← keys_byTable, h] at htable
    cases htable

/-- Where documents are written one by one, none waits. -/
lemma foldl_accept_one (table : String) (docs : List Document) :
    docs.foldl (accept 1 table) [] = [] := by
  induction docs with
  | nil => rfl
  | cons doc rest ih =>
    have hfirst : accept 1 table [] doc = [] := by
      simp [accept, Queue.docs, without]
    rw [List.foldl_cons, hfirst, ih]

end Queue

namespace Context

variable {c : Context} {b : Batch} {q : Queue}

/-- What an insertion leaves in the batch of its worker. -/
lemma buffers_insert (hc : c.Serves c.settings) (hs : b.Suits c.settings)
    (hb : b.buffers = q.byTable) (name key : String) (values : Mapping Bytes) (w : World) :
    ((c.insert b name key values).run w).1.2.2.buffers =
      Queue.byTable ((c.builtIn name key values w).foldl
        (Queue.accept c.settings.batchSize name) q) := by
  have hlength (doc : Document) : ((b.add name doc).1.buffer name).length =
      (Queue.docs (q ++ [(name, doc)]) name).length := by
    rw [Batch.buffer_eq (Batch.buffers_add hb name doc)]
  -- Where documents are written one by one, there is nothing in the batch before and after.
  have hsingle (hone : c.settings.batchSize = 1) : b.buffers =
      Queue.byTable ((c.builtIn name key values w).foldl
        (Queue.accept c.settings.batchSize name) q) := by
    have hempty := hs.single hone
    rw [hempty] at hb
    rw [Queue.eq_nil_of_byTable hb.symm, hone, Queue.foldl_accept_one, hempty]
    rfl
  cases inserts hc b name key values w with
  | unbuilt built batch _ =>
    rw [batch, built]
    exact hb
  | refused size _ batch _ =>
    rw [batch]
    exact hsingle size
  | stored _ _ _ _ _ size _ _ batch _ =>
    rw [batch]
    exact hsingle size
  | buffered doc built _ notFull batch _ =>
    rw [Batch.add_isFull, decide_eq_false_iff_not, hlength, hs.size] at notFull
    rw [batch, built, List.foldl_cons, List.foldl_nil, Queue.accept, if_neg notFull]
    exact Batch.buffers_add hb name doc
  | full doc built _ isFull batch _ =>
    rw [Batch.add_isFull, decide_eq_true_iff, hlength, hs.size] at isFull
    rw [batch, built, List.foldl_cons, List.foldl_nil, Queue.accept, if_pos isFull]
    exact Batch.buffers_take (Batch.buffers_add hb name doc) name

/-- A flush writes what it drains, which is nothing if nothing is buffered. -/
lemma run_flush (hb : b.buffers = q.byTable) (selection : Option String) (w : World) :
    (c.flush b selection).run w =
      ((((c.flushTables (.ok none) (b.drain selection).1).run w).1.1,
        ((c.flushTables (.ok none) (b.drain selection).1).run w).1.2, (b.drain selection).2),
        ((c.flushTables (.ok none) (b.drain selection).1).run w).2) := by
  unfold flush
  cases hcount : b.count == 0 with
  | false => rfl
  | true =>
    have hnone : b.buffers = [] := by
      refine List.eq_nil_iff_forall_not_mem.mpr fun pair hpair => ?_
      have hbuffers := List.flatMap_eq_nil_iff.mp
        (List.eq_nil_of_length_eq_zero (by simpa using hcount : b.count = 0)) pair hpair
      rw [hb] at hpair
      obtain ⟨table, htable, rfl⟩ := List.mem_map.mp hpair
      exact (q.mem_tables table).mp htable hbuffers
    have hdrain : b.drain selection = ([], b) := by
      rw [Batch.drain_eq hb, ← hb, hnone]
      cases b
      cases hnone
      rfl
    rw [if_pos rfl, hdrain]
    rfl

lemma buffers_flush (hb : b.buffers = q.byTable) (selection : Option String) (w : World) :
    ((c.flush b selection).run w).1.2.2.buffers =
      Queue.byTable (q.filter fun entry => !Batch.isSelected selection entry.1) := by
  rw [run_flush hb, Batch.drain_eq hb]
  exact (q.byTable_filter fun table => !Batch.isSelected selection table).symm

lemma suits_insert (hc : c.Serves c.settings) (hs : b.Suits c.settings) (name key : String)
    (values : Mapping Bytes) (w : World) :
    ((c.insert b name key values).run w).1.2.2.Suits c.settings := by
  cases inserts hc b name key values w with
  | unbuilt _ batch _ => exact batch.symm ▸ hs
  | refused _ _ batch _ => exact batch.symm ▸ hs
  | stored _ _ _ _ _ _ _ _ batch _ => exact batch.symm ▸ hs
  | buffered _ _ size _ batch _ =>
    exact batch.symm ▸ ⟨hs.size, fun hone => absurd hone size⟩
  | full _ _ size _ batch _ =>
    exact batch.symm ▸ ⟨hs.size, fun hone => absurd hone size⟩

lemma suits_flush (hs : b.Suits c.settings) (selection : Option String) (w : World) :
    ((c.flush b selection).run w).1.2.2.Suits c.settings := by
  unfold flush
  split
  · exact hs
  · rename_i hcount
    refine ⟨(b.size_drain selection).trans hs.size, fun hone => ?_⟩
    refine absurd ?_ hcount
    unfold Batch.count
    rw [hs.single hone]
    rfl

end Context

namespace Harness

variable {h : Harness} {name : String} {q : Queue} {request : Request}

/-! ## Runs -/

/-- What a worker has buffered, if it is registered. -/
def buffered (h : Harness) (name : String) : Mapping (List Document) :=
  ((h.workers.get? name).bind Worker.active).elim [] fun active => active.batch.buffers

/-- The documents of a worker that wait after a request, if those of a queue wait before it.  A
document waits once it has been built, and until its table has gathered a full batch, is flushed, or
the worker is cleaned up. -/
def queued (h : Harness) (name : String) (q : Queue) : Request → Queue
  | .insert worker table key values =>
    if worker = name then
      (h.contextOf? worker).elim q fun c =>
        (c.builtIn table key values h.world).foldl (Queue.accept c.settings.batchSize table) q
    else q
  | .flush worker selection =>
    if worker = name then q.filter fun entry => !Batch.isSelected selection entry.1 else q
  | .cleanUp worker => if worker = name then [] else q
  | .newWorker worker _ _ => if worker = name then [] else q
  | _ => q

/-- The documents of a worker that wait after some requests. -/
def queue (h : Harness) (name : String) (q : Queue) : List Request → Queue
  | [] => q
  | request :: requests => (h.step request).2.queue name (h.queued name q request) requests

/-- Only insertions and flushes change the batch of their worker and the documents that wait. -/
lemma operation_cases {worker : String} {op : Operation Answer}
    (hop : request.operation? = some (worker, op)) :
    (∃ table key values, request = .insert worker table key values) ∨
      (∃ selection, request = .flush worker selection) ∨
      (∀ c b world, ((op c b).run world).1.2.2 = b) ∧
        ∀ (h : Harness) name q, h.queued name q request = q := by
  cases request with
  | insert _ table key values =>
    cases hop
    exact .inl ⟨table, key, values, rfl⟩
  | flush _ selection =>
    cases hop
    exact .inr (.inl ⟨selection, rfl⟩)
  | newWorker _ _ _ => cases hop
  | cleanUp _ => cases hop
  | _ =>
    cases hop <;> exact .inr (.inr ⟨fun _ _ _ => rfl, fun _ _ _ => rfl⟩)

/-- The batches of registered workers are of the size of their settings. -/
lemma maintains_suits {op : Operation Answer} (hop : request.operation? = some (name, op)) :
    Maintains (fun _ => True) Batch.Suits op := by
  rcases operation_cases hop with ⟨table, key, values, rfl⟩ | ⟨selection, rfl⟩ | ⟨hbatch, -⟩
  · cases hop
    exact fun c b w hc _ hb => ⟨trivial, Context.suits_insert hc hb table key values w⟩
  · cases hop
    exact fun c b w _ _ hb => ⟨trivial, Context.suits_flush hb selection w⟩
  · exact fun c b w _ _ hb => ⟨trivial, (hbatch c b w).symm ▸ hb⟩

lemma endures_suits : Endures (fun _ => True) Batch.Suits :=
  ⟨fun _ _ => trivial, fun _ _ _ => trivial, fun _ => ⟨rfl, fun _ => rfl⟩,
    fun _ _ w _ _ hb => ⟨trivial, Context.suits_flush hb none w⟩⟩

lemma buffered_of_workers {h' : Harness} (hworkers : h'.workers = h.workers) (name : String) :
    h'.buffered name = h.buffered name := by
  unfold buffered
  rw [hworkers]

lemma buffered_set (h : Harness) (worker : String) (w : Worker) (name : String) :
    ({ h with workers := h.workers.set worker w } : Harness).buffered name =
      if name = worker then w.active.elim [] fun active => active.batch.buffers
      else h.buffered name := by
  unfold buffered
  dsimp only
  rw [Mapping.get?_set]
  split <;> rfl

lemma Holds.buffered_eq {w : Worker} {active : Active} {c : Context}
    (hw : h.Holds name w active c) : h.buffered name = active.batch.buffers := by
  unfold buffered
  rw [hw.worker, Option.bind_some, hw.registered]
  rfl

/-- A worker that holds no context has nothing buffered. -/
lemma Steady.buffered_of_not_holds {W : World → Prop} {B : Settings → Batch → Prop}
    (hs : h.Steady W B) (hw : ∀ w active c, ¬ h.Holds name w active c) : h.buffered name = [] := by
  unfold buffered
  cases hworker : h.workers.get? name with
  | none => rfl
  | some w =>
    cases hactive : w.active with
    | none => simp [hactive]
    | some active =>
      obtain ⟨c, hholds, -⟩ := hs.exists_holds hworker hactive
      exact absurd hholds (hw w active c)

/-- An operation changes what its own worker has buffered. -/
lemma buffered_operated {worker : String} {w : Worker} {active : Active} (c : Context) (b : Batch)
    (world : World) :
    (h.operated worker w active c b world).buffered name =
      if name = worker then b.buffers else h.buffered name :=
  buffered_set { h with world := world, contexts := h.contexts.set active.context c } worker _ name

lemma workers_acquire (h : Harness) (provider : String) (bag : Bag) :
    (h.acquire provider bag).2.workers = h.workers := by
  unfold acquire
  dsimp only
  split
  · rfl
  · split <;> rfl

/-- A worker that is registered has nothing buffered yet. -/
lemma buffered_initWorker {worker : String} {w : Worker} (hw : h.workers.get? worker = some w)
    (name : String) : (h.initWorker worker w).2.buffered name = h.buffered name := by
  cases hactive : w.active with
  | some active => rw [initWorker_of_active hactive]
  | none =>
    have hbefore : h.buffered worker = [] := by
      unfold buffered
      rw [hw, Option.bind_some, hactive]
      rfl
    have hacquired := h.workers_acquire w.provider w.bag
    unfold initWorker
    rw [hactive]
    dsimp only
    cases hrun : h.acquire w.provider w.bag with
    | mk r h' =>
      rw [hrun] at hacquired
      cases r with
      | error e => exact buffered_of_workers hacquired name
      | ok number =>
        dsimp only
        cases hbatch : Batch.create
            ((h'.contexts[number]?.map fun c => c.settings.batchSize).getD 1) with
        | error e => exact buffered_of_workers hacquired name
        | ok batch =>
          obtain rfl := Batch.eq_of_create hbatch
          refine (buffered_set h' worker _ name).trans ?_
          split
          · rename_i heq
            subst heq
            exact hbefore.symm
          · exact buffered_of_workers hacquired name

/-- The last flush of a worker leaves alone what others have buffered. -/
lemma buffered_flushed (h : Harness) {worker : String} (b : Batch) (hne : name ≠ worker) :
    (h.flushed worker b).buffered name = h.buffered name := by
  unfold flushed
  split
  · rfl
  · by_cases hholds : ∃ w active c, h.Holds worker w active c
    · obtain ⟨w, active, c, hholds⟩ := hholds
      rw [operate_of_holds hholds]
      exact (buffered_operated _ _ _).trans (if_neg hne)
    · rw [operate_of_not_holds fun w active c hw => hholds ⟨w, active, c, hw⟩]

/-- A worker that is cleaned up has nothing buffered any more. -/
lemma buffered_cleanUpWorker {worker : String} {w : Worker} (hw : h.workers.get? worker = some w)
    (name : String) :
    (h.cleanUpWorker worker w).buffered name = if name = worker then [] else h.buffered name := by
  cases hactive : w.active with
  | none =>
    rw [cleanUpWorker_of_idle hactive]
    split
    · rename_i heq
      subst heq
      unfold buffered
      rw [hw, Option.bind_some, hactive]
      rfl
    · rfl
  | some active =>
    rw [cleanUpWorker_of_active hactive, buffered_of_workers (workers_release _ _)]
    refine (buffered_set (h.flushed worker active.batch) worker _ name).trans ?_
    split
    · rfl
    · rename_i hne
      exact h.buffered_flushed active.batch hne

lemma contextOf?_of_not_holds (hw : ∀ w active c, ¬ h.Holds name w active c) :
    h.contextOf? name = none := by
  unfold contextOf?
  cases hworker : h.workers.get? name with
  | none => rfl
  | some w =>
    cases hactive : w.active with
    | none => simp [hactive]
    | some active =>
      cases hcontext : h.contexts[active.context]? with
      | none => simp [hactive, hcontext]
      | some c => exact absurd ⟨hworker, hactive, hcontext⟩ (hw w active c)

/-- An operation of a worker that holds a context. -/
lemma buffered_step_of_holds {worker : String} {op : Operation Answer} {w : Worker}
    {active : Active} {c : Context} (hop : request.operation? = some (worker, op))
    (hw : h.Holds worker w active c) (hserves : c.Serves c.settings)
    (hsuits : active.batch.Suits c.settings) (hq : h.buffered name = q.byTable) :
    (h.step request).2.buffered name = (h.queued name q request).byTable := by
  have hoperated : (h.step request).2.buffered name =
      if name = worker then ((op c active.batch).run h.world).1.2.2.buffers
      else h.buffered name := by
    rw [step_of_operation hop hw]
    exact buffered_operated ((op c active.batch).run h.world).1.2.1 _
      ((op c active.batch).run h.world).2
  rw [hoperated]
  have hbuffers (heq : name = worker) : active.batch.buffers = q.byTable := by
    subst heq
    exact hw.buffered_eq.symm.trans hq
  rcases operation_cases hop with ⟨table, key, values, rfl⟩ | ⟨selection, rfl⟩ |
    ⟨hbatch, hqueued⟩
  · cases hop
    rw [queued, hw.contextOf?_eq]
    by_cases heq : name = worker
    · rw [if_pos heq, if_pos heq.symm]
      exact Context.buffers_insert hserves hsuits (hbuffers heq) table key values h.world
    · rw [if_neg heq, if_neg (Ne.symm heq), hq]
  · cases hop
    rw [queued]
    by_cases heq : name = worker
    · rw [if_pos heq, if_pos heq.symm]
      exact Context.buffers_flush (hbuffers heq) selection h.world
    · rw [if_neg heq, if_neg (Ne.symm heq), hq]
  · rw [hbatch, hqueued]
    split
    · rename_i heq
      exact hbuffers heq
    · exact hq

/-- An operation of a worker that holds no context. -/
lemma buffered_step_of_not_holds {worker : String} {op : Operation Answer}
    (hop : request.operation? = some (worker, op)) (hs : h.Steady (fun _ => True) Batch.Suits)
    (hw : ∀ w active c, ¬ h.Holds worker w active c) (hq : h.buffered name = q.byTable) :
    (h.step request).2.buffered name = (h.queued name q request).byTable := by
  rw [step_of_not_holds hop hw]
  refine hq.trans (congrArg Queue.byTable ?_)
  rcases operation_cases hop with ⟨table, key, values, rfl⟩ | ⟨selection, rfl⟩ | ⟨-, hqueued⟩
  · rw [queued, contextOf?_of_not_holds hw]
    exact (ite_self q).symm
  · rw [queued]
    split
    · rename_i heq
      subst heq
      rw [hs.buffered_of_not_holds hw] at hq
      rw [Queue.eq_nil_of_byTable hq.symm, List.filter_nil]
    · rfl
  · exact (hqueued h name q).symm

/-- A request that is not for an operation. -/
lemma buffered_step_of_none (hop : request.operation? = none) (hq : h.buffered name = q.byTable) :
    (h.step request).2.buffered name = (h.queued name q request).byTable := by
  -- Most requests leave the workers alone.
  have hsame {h' : Harness} (hworkers : h'.workers = h.workers) :
      h'.buffered name = q.byTable :=
    (buffered_of_workers hworkers name).trans hq
  unfold step
  change (h.answer request).2.buffered name = _
  cases request with
  | acquire provider bag =>
    have hacquired := h.workers_acquire provider bag
    unfold answer
    dsimp only
    cases hrun : h.acquire provider bag with
    | mk r h' =>
      rw [hrun] at hacquired
      cases r with
      | error e => exact hsame hacquired
      | ok number =>
        dsimp only
        cases h'.contexts[number]? <;> exact hsame hacquired
  | release provider => exact hsame (workers_release h provider)
  | select provider count =>
    unfold answer
    dsimp only
    cases h.lastContext? provider <;> exact hsame rfl
  | closeContext provider =>
    unfold answer
    dsimp only
    cases h.lastContext? provider <;> exact hsame rfl
  | makeContext => exact hq
  | setFaults faults => exact hsame rfl
  | newWorker worker provider bag =>
    refine (buffered_set (h.mention provider) worker _ name).trans ?_
    rw [queued]
    by_cases heq : name = worker
    · rw [if_pos heq, if_pos heq.symm]
      rfl
    · rw [if_neg heq, if_neg (Ne.symm heq)]
      exact hsame rfl
  | init worker =>
    unfold answer
    dsimp only
    cases hw : h.workers.get? worker with
    | none => exact hq
    | some w => exact (buffered_initWorker hw name).trans hq
  | enter worker =>
    unfold answer
    dsimp only
    cases hw : h.workers.get? worker with
    | none => exact hq
    | some w => exact (buffered_initWorker hw name).trans hq
  | cleanUp worker =>
    unfold answer
    dsimp only
    rw [queued]
    cases hw : h.workers.get? worker with
    | none =>
      by_cases heq : name = worker
      · subst heq
        have hnone : h.buffered name = [] := by
          unfold buffered
          rw [hw]
          rfl
        rw [if_pos rfl]
        exact hnone
      · rw [if_neg (Ne.symm heq)]
        exact hq
    | some w =>
      refine (buffered_cleanUpWorker hw name).trans ?_
      by_cases heq : name = worker
      · rw [if_pos heq, if_pos heq.symm]
        rfl
      · rw [if_neg heq, if_neg (Ne.symm heq)]
        exact hq
  | _ => cases hop

/-- After any request, what a worker has buffered are the documents that wait, by table. -/
theorem buffered_step (hs : h.Steady (fun _ => True) Batch.Suits)
    (hq : h.buffered name = q.byTable) (request : Request) :
    (h.step request).2.buffered name = (h.queued name q request).byTable := by
  cases hop : request.operation? with
  | some found =>
    by_cases hholds : ∃ w active c, h.Holds found.1 w active c
    · obtain ⟨w, active, c, hholds⟩ := hholds
      obtain ⟨hserves, hsuits⟩ := hs.serves_of_holds hholds
      exact buffered_step_of_holds hop hholds hserves hsuits hq
    · exact buffered_step_of_not_holds hop hs (fun w active c hw => hholds ⟨w, active, c, hw⟩) hq
  | none => exact buffered_step_of_none hop hq

/-- After any requests, what a worker has buffered are the documents that wait, by table. -/
theorem buffered_run (hs : h.Steady (fun _ => True) Batch.Suits)
    (hq : h.buffered name = q.byTable) (requests : List Request) :
    (h.run requests).2.buffered name = (h.queue name q requests).byTable := by
  induction requests generalizing h q with
  | nil => exact hq
  | cons request rest ih =>
    exact ih (hs.step endures_suits fun name op hop => maintains_suits hop)
      (buffered_step hs hq request)

/-- In the beginning nothing is buffered. -/
lemma buffered_start (cluster : Cluster) (draws : Draws) (faults : Faults) (provider : String)
    (bags : Mapping Bag) (name : String) :
    (start cluster draws faults provider bags).buffered name = [] := by
  unfold buffered start
  dsimp only
  rw [Mapping.get?_mapValues]
  cases bags.get? name <;> rfl

end Harness

end LoadBinding
