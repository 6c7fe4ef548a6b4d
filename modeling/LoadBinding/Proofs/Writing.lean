import LoadBinding.Proofs.Buffering
import LoadBinding.Proofs.Collections

/-!
# Writing without faults

When the deployment shows no fault and the keys are fresh, every document that an operation hands
over is written: its row stands behind the rows that its table had.  This holds of a batch of any
size; with batches of one document nothing is ever buffered.
-/

namespace LoadBinding

open LoadBinding.Text LoadBinding.Action World Batch Collection

namespace World

/-- Between two worlds documents were written to the tables of a database, and nothing else has
happened to the data. -/
structure Writes (database : String) (writes : List (String × List Document)) (w w' : World) :
    Prop where
  faults : w'.faults = w.faults
  rows : ∀ d table, w'.rows d table =
    w.rows d table ++ if d = database then (docsOf writes table).map rowOf else []

variable {database : String} {w w' w'' : World}

/-- A change that leaves faults and rows alone writes nothing. -/
lemma Writes.of_same (hf : w'.faults = w.faults)
    (hr : ∀ d table, w'.rows d table = w.rows d table) : Writes database [] w w' :=
  ⟨hf, fun d table => by simp [hr]⟩

lemma Writes.trans {first second : List (String × List Document)}
    (h : Writes database first w w') (h' : Writes database second w' w'') :
    Writes database (first ++ second) w w'' := by
  refine ⟨h'.faults.trans h.faults, fun d table => ?_⟩
  rw [h'.rows, h.rows, List.append_assoc]
  split
  · rw [docsOf_append, List.map_append]
  · rfl

lemma writes_lookedUp (w : World) (t : Target) : Writes database [] w (w.lookedUp t) :=
  .of_same rfl fun d table => rows_lookedUp w t d table

lemma writes_logged (w : World) (level : Log.Level) (source text : String) :
    Writes database [] w { w with entries := w.entries ++ [⟨level, source, text⟩] } :=
  .of_same rfl fun _ _ => rfl

/-- Rows put behind those of a table. -/
lemma writes_put (w : World) {t : Target} (ht : t.database = database) (call : Call)
    (docs : List Document) :
    Writes database [(t.collection, docs)] w
      ((w.noted call).put t { t.content w.cluster with
        rows := w.rows t.database t.collection ++ docs.map rowOf }) := by
  subst ht
  refine ⟨rfl, fun d table => ?_⟩
  rw [rows_put, rows_noted]
  by_cases hd : d = t.database
  · by_cases ht : table = t.collection
    · subst hd ht
      simp
    · simp [ht, Ne.symm ht]
  · simp [hd]

end World

variable {w : World} {t : Target}

/-- Fresh documents are written together. -/
lemma exec_insertMany_of_insertable {docs : List Document} (hf : w.faults = [])
    (hd : Insertable (w.rows t.database t.collection) docs) :
    exec (t.insertMany docs) w = (.ok (), (w.noted (.insertMany t docs)).put t
      { t.content w.cluster with rows := w.rows t.database t.collection ++ docs.map rowOf }) := by
  have hinsert : (t.content (w.noted (.insertMany t docs)).cluster).insertMany docs = _ :=
    insertMany_of_insertable hd
  unfold Target.insertMany
  rw [exec_bind_of_ok (exec_record_of_no_faults hf _), exec_bind_of_ok (exec_get _)]
  dsimp only
  rw [hinsert]
  rfl

/-- A fresh document is written. -/
lemma exec_insertOne_of_fresh {doc : Document} (hf : w.faults = [])
    (hd : IsFresh (w.rows t.database t.collection) doc) :
    exec (t.insertOne doc) w = (.ok (), (w.noted (.insertOne t doc)).put t
      { t.content w.cluster with rows := w.rows t.database t.collection ++ [rowOf doc] }) := by
  have hinsert : (t.content (w.noted (.insertOne t doc)).cluster).insert doc = _ :=
    insert_of_fresh hd
  unfold Target.insertOne
  rw [exec_bind_of_ok (exec_record_of_no_faults hf _), exec_bind_of_ok (exec_get _)]
  rw [hinsert]
  rfl

/-! ## Insertions -/

namespace Settings

/-- The document that an insertion stores or buffers, if its payloads can be prepared. -/
def stored (s : Settings) (key : String) (values : Mapping Bytes) (draws : Draws) :
    List Document :=
  match (s.documentOf key values draws).1 with
  | .ok doc => [doc]
  | .error _ => []

/-- What an insertion answers when nothing else goes wrong. -/
def insertOutcome (s : Settings) (key : String) (values : Mapping Bytes) (draws : Draws) :
    Outcome Unit :=
  match (s.documentOf key values draws).1 with
  | .ok _ => .ok none
  | .error e => .error (Failure.payload e).message

end Settings

/-- An operation has written or buffered what was buffered before it and what it has built. -/
structure Stores (database : String) (b b' : Batch) (built : String → List Document)
    (w w' : World) : Prop where
  exists_writes : ∃ writes, Writes database writes w w' ∧
    ∀ table, docsOf writes table ++ b'.buffer table = b.buffer table ++ built table

namespace Context

variable {c : Context} {s : Settings} {b : Batch} {n : ℕ} {w : World}

/-- An insertion whose document is fresh stores it, now or later. -/
lemma insert_stores (hc : c.Serves s) (hn : s.batchSize = n) (hb : b.Fits n) (hf : w.faults = [])
    (name key : String) (values : Mapping Bytes)
    (hd : Insertable (w.rows s.database name) (b.buffer name ++ s.stored key values w.draws)) :
    ((c.insert b name key values).run w).1.1 = s.insertOutcome key values w.draws ∧
      ((c.insert b name key values).run w).1.2.2.Fits n ∧
      ((c.insert b name key values).run w).2.draws = (s.documentOf key values w.draws).2 ∧
      Stores s.database b ((c.insert b name key values).run w).1.2.2
        (fun table => if table = name then s.stored key values w.draws else []) w
        ((c.insert b name key values).run w).2 := by
  obtain ⟨t, ht⟩ := hc.exists_reaches name
  have hdatabase := hc.database_eq ht
  have hcollection := ht.collection_eq
  rw [insert_eq, run_bind, run_attempt, exec_build_of_no_faults hc ht hf]
  unfold Settings.insertOutcome Settings.stored at *
  have hlooked : Writes s.database [] w
      { w.lookedUp t with draws := (s.documentOf key values w.draws).2 } :=
    .of_same rfl fun d table => rows_lookedUp w t d table
  cases hdoc : (s.documentOf key values w.draws).1 with
  | error e =>
    refine ⟨rfl, hb, rfl, ⟨[], hlooked.trans (writes_logged _ _ _ _), fun table => ?_⟩⟩
    rw [ite_self, List.append_nil]
    rfl
  | ok doc =>
    rw [hdoc] at hd
    have hfaults : ({ w.lookedUp t with
        draws := (s.documentOf key values w.draws).2 } : World).faults = [] := hf
    have hdraws : ({ w.lookedUp t with
        draws := (s.documentOf key values w.draws).2 } : World).draws =
          (s.documentOf key values w.draws).2 := rfl
    have hrows : ({ w.lookedUp t with draws := (s.documentOf key values w.draws).2 } : World).rows
        t.database t.collection = w.rows s.database name := by
      rw [hlooked.rows, hdatabase, hcollection]
      simp
    generalize ({ w.lookedUp t with draws := (s.documentOf key values w.draws).2 } : World) = w₁
      at hlooked hfaults hdraws hrows ⊢
    dsimp only [Except.map, Except.mapError] at hd ⊢
    rw [hc.settings, hn]
    by_cases hone : n = 1
    · -- Nothing is buffered, and the document is written at once.
      subst hone
      have hempty (table : String) : b.buffer table = [] :=
        List.eq_nil_of_length_eq_zero (Nat.lt_one_iff.mp (hb.bound table))
      have hfresh : IsFresh (w₁.rows t.database t.collection) doc := by
        rw [hrows]
        exact hd.fresh doc (List.mem_append_right _ (List.mem_singleton_self doc))
      have hbooks (table : String) :
          docsOf ([] ++ [(t.collection, [doc])]) table ++ b.buffer table =
            b.buffer table ++ if table = name then [doc] else [] := by
        rw [List.nil_append, docsOf_singleton, hcollection, hempty]
        by_cases h : table = name
        · simp [h]
        · simp [h, Ne.symm h]
      rw [if_pos (by decide), run_bind, run_attempt, exec_insertOne_of_fresh hfaults hfresh]
      exact ⟨rfl, hb, hdraws, ⟨_, hlooked.trans (writes_put w₁ hdatabase _ [doc]), hbooks⟩⟩
    · have hmany : ((n : ℤ) == 1) = false := by simpa using hone
      rw [hmany, if_neg (by decide)]
      cases hfull : (b.add name doc).2 with
      | false =>
        rw [if_neg (by decide)]
        exact ⟨rfl, hb.kept _ _ hfull, hdraws, ⟨[], hlooked, conserves_kept t name doc⟩⟩
      | true =>
        have hbuffer : (b.add name doc).1.buffer name = b.buffer name ++ [doc] := by
          rw [buffer_add, if_pos rfl]
        have hinsertable : Insertable (w₁.rows t.database t.collection)
            ((b.add name doc).1.buffer name) := by
          rw [hrows, hbuffer]
          exact hd
        have hpos : 0 < n := Nat.zero_lt_of_lt (hb.bound name)
        rw [if_pos rfl, run_bind, run_attempt,
          exec_insertMany_of_insertable hfaults hinsertable]
        exact ⟨rfl, hb.full _ _ hpos, hdraws, ⟨_, hlooked.trans (writes_put w₁ hdatabase _ _),
          conserves_full t name doc hcollection t⟩⟩

/-! ## Flushes -/

/-- A flush of one buffer writes its documents, if they are fresh. -/
lemma flushTable_writes (hc : c.Serves s) (hf : w.faults = []) (name : String)
    {docs : List Document} (hd : Insertable (w.rows s.database name) docs) :
    ((c.flushTable name docs).run w).1 = (.ok none, c.advance 1) ∧
      ((c.flushTable name docs).run w).2.draws = w.draws ∧
      Writes s.database [(name, docs)] w ((c.flushTable name docs).run w).2 := by
  obtain ⟨t, ht⟩ := hc.exists_reaches name
  obtain rfl := ht.collection_eq
  have hdatabase := hc.database_eq ht
  have hlooked : Writes s.database [] w (w.lookedUp t) := writes_lookedUp w t
  have hfaults : (w.lookedUp t).faults = [] := hf
  have hinsertable : Insertable ((w.lookedUp t).rows t.database t.collection) docs := by
    rw [hlooked.rows, hdatabase]
    simpa using hd
  have hput := hlooked.trans (writes_put (w.lookedUp t) hdatabase (.insertMany t docs) docs)
  unfold flushTable
  rw [next_eq]
  dsimp only
  rw [settings_advance, run_bind, run_attempt,
    exec_bind_of_ok (exec_table_of_no_faults ht hf),
    exec_insertMany_of_insertable hfaults hinsertable]
  exact ⟨rfl, rfl, hput.trans (writes_logged _ _ _ _)⟩

/-- A flush writes what it drains, if the documents of every table are fresh. -/
lemma flushTables_writes (hc : c.Serves s) (hf : w.faults = [])
    {drained : List (String × List Document)}
    (hd : ∀ table, Insertable (w.rows s.database table) (docsOf drained table)) :
    ((c.flushTables (.ok none) drained).run w).1.1 = .ok none ∧
      ((c.flushTables (.ok none) drained).run w).2.draws = w.draws ∧
      Writes s.database drained w ((c.flushTables (.ok none) drained).run w).2 := by
  induction drained generalizing c w with
  | nil => exact ⟨rfl, rfl, .of_same rfl fun _ _ => rfl⟩
  | cons pair rest ih =>
    obtain ⟨name, docs⟩ := pair
    have hfirst : Insertable (w.rows s.database name) docs := by
      have hname := hd name
      rw [docsOf_cons, if_pos rfl] at hname
      exact hname.append_left
    obtain ⟨hresult, hdraws, hwrites⟩ := flushTable_writes hc hf name hfirst
    have hrest (table : String) : Insertable
        (((c.flushTable name docs).run w).2.rows s.database table) (docsOf rest table) := by
      rw [hwrites.rows, if_pos rfl, docsOf_singleton]
      exact Insertable.append_right (hd table)
    obtain ⟨houtcome, hdraws', hwrites'⟩ :=
      ih (hc.advance 1) (hwrites.faults.trans hf) hrest
    unfold flushTables
    rw [run_bind, hresult]
    exact ⟨houtcome, hdraws'.trans hdraws, hwrites.trans hwrites'⟩

/-- A flush stores what was buffered, if the documents of every table are fresh. -/
lemma flush_stores (hc : c.Serves s) (hb : b.Fits n) (hf : w.faults = [])
    (selection : Option String)
    (hd : ∀ table, Insertable (w.rows s.database table) (b.buffer table)) :
    ((c.flush b selection).run w).1.1 = .ok none ∧
      ((c.flush b selection).run w).1.2.2.Fits n ∧
      ((c.flush b selection).run w).2.draws = w.draws ∧
      Stores s.database b ((c.flush b selection).run w).1.2.2 (fun _ => []) w
        ((c.flush b selection).run w).2 := by
  unfold flush
  split
  · exact ⟨rfl, hb, rfl, ⟨[], .of_same rfl fun _ _ => rfl, fun _ => (List.append_nil _).symm⟩⟩
  · have hdrained (table : String) : Insertable (w.rows s.database table)
        (docsOf (b.drain selection).1 table) := by
      have htable := hd table
      rw [← b.docsOf_drain_append selection table] at htable
      exact htable.append_left
    obtain ⟨houtcome, hdraws, hwrites⟩ := flushTables_writes hc hf hdrained
    refine ⟨houtcome, hb.drain selection, hdraws, ⟨_, hwrites, fun table => ?_⟩⟩
    exact (b.docsOf_drain_append selection table).trans (List.append_nil _).symm

end Context

end LoadBinding
