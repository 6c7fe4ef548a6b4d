import LoadBinding.Proofs.Execution

/-!
# The effect of a call

A call records itself, and then either shows the fault that waits at its address or takes effect on
one collection.  This file gives the world after each call on records, and says how the collections
of a cluster are read after one of them was replaced.
-/

namespace LoadBinding

open LoadBinding.Action

/-! ## Reading the cluster -/

namespace Cluster

variable (c : Cluster) (database name : String)

lemma database_setDatabase (d : Database) (database' : String) :
    (c.setDatabase database d).database database' =
      if database' = database then d else c.database database' := by
  unfold setDatabase Cluster.database
  rw [Mapping.get?_set]
  split <;> rfl

/-- Where one collection of a database was replaced, it is read as such, all others as before. -/
lemma collection_setDatabase {d : Database} {x : Collection}
    (hd : d.collections = (c.database database).collections.set name x)
    (database' name' : String) :
    (c.setDatabase database d).collection database' name' =
      if database' = database ∧ name' = name then x else c.collection database' name' := by
  unfold Cluster.collection Database.collection
  rw [database_setDatabase]
  by_cases hdatabase : database' = database
  · subst hdatabase
    rw [if_pos rfl, hd, Mapping.get?_set]
    by_cases hname : name' = name
    · simp [hname]
    · simp [hname]
  · simp [hdatabase]

lemma collection_setCollection (x : Collection) (database' name' : String) :
    (c.setCollection database name x).collection database' name' =
      if database' = database ∧ name' = name then x else c.collection database' name' :=
  collection_setDatabase c database name rfl database' name'

@[simp] lemma database_useDatabase (database' : String) :
    (c.useDatabase database).database database' = c.database database' := by
  unfold useDatabase
  rw [database_setDatabase]
  split
  · rename_i h
    rw [h]
  · rfl

@[simp] lemma collection_useDatabase (database' name' : String) :
    (c.useDatabase database).collection database' name' = c.collection database' name' := by
  unfold Cluster.collection
  rw [database_useDatabase]

@[simp] lemma collection_useCollection (database' name' : String) :
    (c.useCollection database name).collection database' name' = c.collection database' name' := by
  unfold useCollection
  rw [collection_setCollection]
  split
  · rename_i h
    rw [h.1, h.2]
  · rfl

end Cluster

/-! ## Looking up a collection -/

namespace World

variable (w : World) (t : Target)

/-- The world after a collection was looked up. -/
def lookedUp : World :=
  { w.noted (.use t) with
    cluster := (w.cluster.useDatabase t.database).useCollection t.database t.collection }

/-- The world after a collection was replaced. -/
def put (x : Collection) : World :=
  { w with cluster := w.cluster.setCollection t.database t.collection x }

/-- The rows of a table. -/
def rows (database table : String) : List Row :=
  (w.cluster.collection database table).rows

@[simp] lemma rows_noted (call : Call) (database table : String) :
    (w.noted call).rows database table = w.rows database table := rfl

@[simp] lemma rows_lookedUp (database table : String) :
    (w.lookedUp t).rows database table = w.rows database table := by
  simp [rows, lookedUp]

/-- A collection that was replaced has the new rows, and all others their old ones. -/
lemma rows_put (x : Collection) (database table : String) :
    (w.put t x).rows database table =
      if database = t.database ∧ table = t.collection then x.rows else w.rows database table := by
  have hread := w.cluster.collection_setCollection t.database t.collection x database table
  refine (congrArg Collection.rows hread).trans ?_
  split <;> rfl

/-- A collection that is replaced by itself stays as it is. -/
lemma rows_put_content (database table : String) :
    (w.put t (t.content w.cluster)).rows database table = w.rows database table := by
  rw [rows_put]
  split
  · rename_i h
    rw [h.1, h.2]
    rfl
  · rfl

end World

/-- The address of the look-up of a table. -/
def lookUpAddress (table : String) : String :=
  "use" ++ ":" ++ table

lemma address_use (t : Target) : (Call.use t).address = lookUpAddress t.collection := rfl

variable {w : World} {t : Target}

lemma exec_use_of_fault {client : Client} {database name : String} {f : Fault}
    (h : w.faults.get? (lookUpAddress name) = some f) :
    exec (client.use database name) w =
      (.error (.fault f),
        { w.noted (.use ⟨client, database, name⟩) with
          cluster := w.cluster.useDatabase database }) := by
  have hcall : ({ w with cluster := w.cluster.useDatabase database } : World).faults.get?
      (Call.use ⟨client, database, name⟩).address = some f := h
  unfold Client.use Client.useDatabase
  rw [exec_bind_of_ok (exec_modifyCluster _ _)]
  dsimp only
  rw [exec_bind_of_error (exec_record_of_fault hcall)]
  rfl

lemma exec_use_of_no_fault {client : Client} {database name : String}
    (h : w.faults.get? (lookUpAddress name) = none) :
    exec (client.use database name) w =
      (.ok ⟨client, database, name⟩, w.lookedUp ⟨client, database, name⟩) := by
  have hcall : ({ w with cluster := w.cluster.useDatabase database } : World).faults.get?
      (Call.use ⟨client, database, name⟩).address = none := h
  unfold Client.use Client.useDatabase
  rw [exec_bind_of_ok (exec_modifyCluster _ _)]
  dsimp only
  rw [exec_bind_of_ok (exec_record_of_no_fault hcall), exec_bind_of_ok (exec_modifyCluster _ _)]
  rfl

/-! ## Creating a collection -/

/-- A collection is created with its options, and with what it has been found to hold. -/
lemma Cluster.createCollection_eq_ok {c c' : Cluster} {database name : String} {options : Document}
    (h : c.createCollection database name options = .ok c') :
    name ∉ (c.database database).listed ∧
      c' = c.setDatabase database
        { created := (c.database database).created ++ [name]
          collections := (c.database database).collections.set name
            { c.collection database name with options := options } } := by
  unfold Cluster.createCollection at h
  dsimp only at h
  split at h
  · cases h
  · rename_i hlisted
    cases h
    exact ⟨by simpa using hlisted, rfl⟩

/-- A collection that was created keeps its documents, and all others are as before. -/
lemma Cluster.collection_of_createCollection {c c' : Cluster} {database name : String}
    {options : Document} (h : c.createCollection database name options = .ok c')
    (database' name' : String) :
    c'.collection database' name' =
      if database' = database ∧ name' = name then
        { c.collection database name with options := options }
      else c.collection database' name' := by
  obtain ⟨-, rfl⟩ := createCollection_eq_ok h
  exact collection_setDatabase c database name rfl database' name'

/-- The world after a database was brought into being. -/
def World.inDatabase (w : World) (database : String) : World :=
  { w with cluster := w.cluster.useDatabase database }

/-- A collection that cannot be created leaves nothing but the record of the call. -/
lemma exec_createCollection (client : Client) (database name : String) (options : Document)
    (w : World) :
    (∃ e, exec (client.createCollection database name options) w =
      (.error e, (w.inDatabase database).noted (.createCollection database name options))) ∨
    ∃ cluster, (w.cluster.useDatabase database).createCollection database name options =
        .ok cluster ∧
      exec (client.createCollection database name options) w =
        (.ok (), { (w.inDatabase database).noted (.createCollection database name options) with
          cluster := cluster }) := by
  let w₁ := w.inDatabase database
  have huse : exec (client.useDatabase database) w = (.ok (), w₁) := exec_modifyCluster _ _
  unfold Client.createCollection
  rw [exec_bind_of_ok huse]
  cases hf : w₁.faults.get? (Call.createCollection database name options).address with
  | some f => exact .inl ⟨_, exec_bind_of_error (exec_record_of_fault hf) _⟩
  | none =>
    rw [exec_bind_of_ok (exec_record_of_no_fault hf), exec_bind_of_ok (exec_get _)]
    cases hc : w₁.cluster.createCollection database name options with
    | error e =>
      rw [World.noted_cluster, hc]
      exact .inl ⟨_, exec_bind_of_error (exec_ofStore_error e _) _⟩
    | ok cluster =>
      rw [World.noted_cluster, hc]
      exact .inr ⟨cluster, hc, exec_bind_of_ok (exec_ofStore_ok cluster _) _⟩

/-- A command completes if it does not fail. -/
lemma exec_command (client : Client) (name : String) (arguments : List String)
    (options : Document) (w : World) :
    (∃ e, exec (client.command name arguments options) w =
      (.error e,
        (w.inDatabase Client.adminDatabase).noted (.command name arguments options))) ∨
    ∃ w', exec (client.command name arguments options) w = (.ok (), w') ∧
      w'.calls = w.calls ++ [.command name arguments options] ∧
      w'.cluster = { w.cluster.useDatabase Client.adminDatabase with
        commands := w.cluster.commands ++
          [⟨Client.adminDatabase, name :: arguments, options⟩] } := by
  let w₁ := w.inDatabase Client.adminDatabase
  have huse : exec (client.useDatabase Client.adminDatabase) w = (.ok (), w₁) :=
    exec_modifyCluster _ _
  unfold Client.command
  rw [exec_bind_of_ok huse]
  cases hf : w₁.faults.get? (Call.command name arguments options).address with
  | some f => exact .inl ⟨_, exec_bind_of_error (exec_record_of_fault hf) _⟩
  | none =>
    rw [exec_bind_of_ok (exec_record_of_no_fault hf)]
    exact .inr ⟨_, exec_modifyCluster _ _, rfl, rfl⟩

/-! ## Calls on documents -/

/-- A single insertion takes effect, or leaves nothing but the record of the call. -/
lemma exec_insertOne (t : Target) (doc : Document) (w : World) :
    (∃ e, exec (t.insertOne doc) w = (.error e, w.noted (.insertOne t doc))) ∨
      ∃ x, (t.content w.cluster).insert doc = .ok x ∧
        exec (t.insertOne doc) w = (.ok (), (w.noted (.insertOne t doc)).put t x) := by
  unfold Target.insertOne
  cases hf : w.faults.get? (Call.insertOne t doc).address with
  | some e => exact .inl ⟨_, exec_bind_of_error (exec_record_of_fault hf) _⟩
  | none =>
    rw [exec_bind_of_ok (exec_record_of_no_fault hf), exec_bind_of_ok (exec_get _),
      World.noted_cluster]
    cases hx : (t.content w.cluster).insert doc with
    | error e => exact .inl ⟨_, rfl⟩
    | ok x => exact .inr ⟨x, rfl, rfl⟩

/-- An update takes effect, or leaves nothing but the record of the call. -/
lemma exec_updateOne (t : Target) (f : Filter) (changes : Document) (w : World) :
    (∃ e, exec (t.updateOne f changes) w = (.error e, w.noted (.updateOne t f changes))) ∨
      ∃ x count, (t.content w.cluster).updateOne f changes = .ok (x, count) ∧
        exec (t.updateOne f changes) w =
          (.ok count, (w.noted (.updateOne t f changes)).put t x) := by
  unfold Target.updateOne
  cases hf : w.faults.get? (Call.updateOne t f changes).address with
  | some e => exact .inl ⟨_, exec_bind_of_error (exec_record_of_fault hf) _⟩
  | none =>
    rw [exec_bind_of_ok (exec_record_of_no_fault hf), exec_bind_of_ok (exec_get _),
      World.noted_cluster]
    cases hx : (t.content w.cluster).updateOne f changes with
    | error e => exact .inl ⟨_, rfl⟩
    | ok found => exact .inr ⟨found.1, found.2, rfl, rfl⟩

/-- A deletion takes effect, or leaves nothing but the record of the call. -/
lemma exec_deleteMany (t : Target) (f : Filter) (w : World) :
    (∃ e, exec (t.deleteMany f) w = (.error e, w.noted (.deleteMany t f))) ∨
      ∃ x, (t.content w.cluster).deleteMany f = .ok x ∧
        exec (t.deleteMany f) w = (.ok (), (w.noted (.deleteMany t f)).put t x) := by
  unfold Target.deleteMany
  cases hf : w.faults.get? (Call.deleteMany t f).address with
  | some e => exact .inl ⟨_, exec_bind_of_error (exec_record_of_fault hf) _⟩
  | none =>
    rw [exec_bind_of_ok (exec_record_of_no_fault hf), exec_bind_of_ok (exec_get _),
      World.noted_cluster]
    cases hx : (t.content w.cluster).deleteMany f with
    | error e => exact .inl ⟨_, rfl⟩
    | ok x => exact .inr ⟨x, rfl, rfl⟩

/-- A write of several documents that shows a fault leaves nothing but the record of the call. -/
lemma exec_insertMany_of_fault {docs : List Document} {e : Fault}
    (hf : w.faults.get? (Call.insertMany t docs).address = some e) :
    exec (t.insertMany docs) w = (.error (.fault e), w.noted (.insertMany t docs)) :=
  exec_bind_of_error (exec_record_of_fault hf) _

/-- Without a fault the documents up to the first that is refused are written. -/
lemma exec_insertMany_of_no_fault {docs : List Document}
    (hf : w.faults.get? (Call.insertMany t docs).address = none) :
    exec (t.insertMany docs) w =
      (((t.content w.cluster).insertMany docs).2.elim (.ok ()) fun e => .error (.store e),
        (w.noted (.insertMany t docs)).put t ((t.content w.cluster).insertMany docs).1) := by
  unfold Target.insertMany
  rw [exec_bind_of_ok (exec_record_of_no_fault hf), exec_bind_of_ok (exec_get _),
    World.noted_cluster]
  cases (t.content w.cluster).insertMany docs with
  | mk x refusal => cases refusal <;> rfl

/-! ## Calls without faults -/

section NoFaults

variable {f : Filter} {p : Option Projection}

lemma exec_record_of_no_faults (hf : w.faults = []) (call : Call) :
    exec (record call) w = (.ok (), w.noted call) := by
  refine exec_record_of_no_fault ?_
  rw [hf]
  rfl

lemma exec_insertOne_of_error (hf : w.faults = []) {doc : Document} {e : StoreError}
    (h : (t.content w.cluster).insert doc = .error e) :
    exec (t.insertOne doc) w = (.error (.store e), w.noted (.insertOne t doc)) := by
  unfold Target.insertOne
  rw [exec_bind_of_ok (exec_record_of_no_faults hf _), exec_bind_of_ok (exec_get _)]
  rw [World.noted_cluster, h]
  rfl

lemma exec_findOne_of_ok (hf : w.faults = []) {found : Option Document}
    (h : (t.content w.cluster).findOne f p = .ok found) :
    exec (t.findOne f p) w = (.ok found, w.noted (.findOne t f p)) := by
  unfold Target.findOne
  rw [exec_bind_of_ok (exec_record_of_no_faults hf _), exec_bind_of_ok (exec_get _)]
  rw [World.noted_cluster, h]
  rfl

lemma exec_updateOne_of_ok (hf : w.faults = []) {changes : Document} {x : Collection}
    {count : Collection.UpdateCount}
    (h : (t.content w.cluster).updateOne f changes = .ok (x, count)) :
    exec (t.updateOne f changes) w = (.ok count, (w.noted (.updateOne t f changes)).put t x) := by
  unfold Target.updateOne
  rw [exec_bind_of_ok (exec_record_of_no_faults hf _), exec_bind_of_ok (exec_get _)]
  rw [World.noted_cluster, h]
  rfl

lemma exec_deleteMany_of_ok (hf : w.faults = []) {x : Collection}
    (h : (t.content w.cluster).deleteMany f = .ok x) :
    exec (t.deleteMany f) w = (.ok (), (w.noted (.deleteMany t f)).put t x) := by
  unfold Target.deleteMany
  rw [exec_bind_of_ok (exec_record_of_no_faults hf _), exec_bind_of_ok (exec_get _)]
  rw [World.noted_cluster, h]
  rfl

lemma exec_find_of_ok (hf : w.faults = []) {found : List Document}
    (h : (t.content w.cluster).find f p = .ok found) :
    exec (t.find f p) w = (.ok found, w.noted (.find t f p)) := by
  unfold Target.find
  rw [exec_bind_of_ok (exec_record_of_no_faults hf _), exec_bind_of_ok (exec_get _)]
  rw [World.noted_cluster, h]
  rfl

/-- A scan sorts what it finds, and returns as much of it as was asked for. -/
lemma exec_scan_of_ok (hf : w.faults = []) {found : List Document}
    (h : (t.content w.cluster).find f p = .ok found) (count : ℤ) :
    exec (t.scan f p count) w = (.ok (Cursor.limit count (Cursor.sort found)),
      ((((w.noted (.find t f p)).noted .sort).noted (.limit count)).noted .iterate).noted
        .closeCursor) := by
  have hrecord (w' : World) (h' : w'.faults = w.faults) (call : Call) :
      exec (record call) w' = (.ok (), w'.noted call) :=
    exec_record_of_no_faults (h'.trans hf) call
  let w₁ := w.noted (.find t f p)
  let w₂ := (w₁.noted .sort).noted (.limit count)
  have hsort := hrecord w₁ rfl .sort
  have hlimit := hrecord (w₁.noted .sort) rfl (.limit count)
  have hiterate := hrecord w₂ rfl .iterate
  have hclose := hrecord (w₂.noted .iterate) rfl .closeCursor
  unfold Target.scan
  rw [exec_bind_of_ok (exec_find_of_ok hf h), exec_bind_of_ok hsort, exec_bind_of_ok hlimit,
    exec_bind_of_ok (exec_outcome _ _), hiterate, exec_bind_of_ok hclose]
  rfl

end NoFaults

/-- The record of a write does not depend on whether it succeeds. -/
lemma calls_exec_insertMany (t : Target) (docs : List Document) (w : World) :
    (exec (t.insertMany docs) w).2.calls = w.calls ++ [.insertMany t docs] := by
  unfold Target.insertMany
  rw [exec_bind, exec_record]
  cases w.faults.get? (Call.insertMany t docs).address with
  | some f => rfl
  | none =>
    dsimp only
    rw [exec_bind_of_ok (exec_get _)]
    cases (t.content (w.noted (.insertMany t docs)).cluster).insertMany docs with
    | mk x refusal => cases refusal <;> rfl

end LoadBinding
