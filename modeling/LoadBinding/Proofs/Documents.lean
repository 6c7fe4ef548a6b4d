import LoadBinding.Proofs.Effects
import LoadBinding.Proofs.Reachable

/-!
# Properties of all documents

A document is built by an insertion, waits in a batch, is stored as a row, and is changed by
updates.  `Request.Upholds` names what these stations owe one another: a property `Q` of the
documents that a request builds for a table, and a property `P` of rows that follows from `Q` when a
document is stored and that the updates of the request preserve.  The request then preserves that
all rows have the property `P` and all buffered documents the property `Q`
(`Request.maintains_of_upholds`), whatever faults the deployment shows.  `Settings.Upholds` is the
same for all requests that spare the field of the key, and for a property of documents that does not
depend on the table.
-/

namespace LoadBinding

open LoadBinding.Text LoadBinding.Action World Batch Collection

variable {P : String → String → Row → Prop} {Q : String → Document → Prop} {D : Document → Prop}

/-! ## Rows and buffered documents -/

/-- All rows have a property, which may depend on their database and table. -/
def World.AllRows (P : String → String → Row → Prop) (w : World) : Prop :=
  ∀ database table, ∀ row ∈ w.rows database table, P database table row

/-- All buffered documents have a property, which may depend on their table. -/
def Batch.AllBuffered (Q : String → Document → Prop) (b : Batch) : Prop :=
  ∀ table, ∀ doc ∈ b.buffer table, Q table doc

/-- All buffered documents have a property. -/
def Batch.AllDocs (D : Document → Prop) (b : Batch) : Prop :=
  b.AllBuffered fun _ => D

namespace World

variable {w w' : World}

lemma AllRows.of_sameRows (h : w.AllRows P) (hs : SameRows w w') : w'.AllRows P :=
  fun database table row hrow => h database table row (hs database table ▸ hrow)

/-- What all rows have they still have after an action that changes none. -/
lemma AllRows.of_exec {α : Type} {a : Action α} {r : Except Failure α} (h : w.AllRows P)
    (ha : Keeps SameRows (attempt a)) (hrun : exec a w = (r, w')) : w'.AllRows P :=
  h.of_sameRows (rel_of_exec (ha w) hrun)

/-- A table is replaced by one whose rows have the property. -/
lemma AllRows.put (h : w.AllRows P) {t : Target} {x : Collection}
    (hx : ∀ row ∈ x.rows, P t.database t.collection row) : (w.put t x).AllRows P := by
  intro database table row hrow
  rw [rows_put] at hrow
  split at hrow
  · rename_i heq
    rw [heq.1, heq.2]
    exact hx row hrow
  · exact h database table row hrow

/-- Documents are written whose rows have the property. -/
lemma AllRows.of_writes (h : w.AllRows P) {database : String}
    {writes : List (String × List Document)} (hw : Writes database writes w w')
    (hdocs : ∀ table, ∀ doc ∈ docsOf writes table, P database table (rowOf doc)) :
    w'.AllRows P := by
  intro d table row hrow
  rw [hw.rows] at hrow
  rcases List.mem_append.mp hrow with hrow | hrow
  · exact h d table row hrow
  · split at hrow
    · rename_i heq
      obtain ⟨doc, hdoc, rfl⟩ := List.mem_map.mp hrow
      rw [heq]
      exact hdocs table doc hdoc
    · cases hrow

/-- A row is changed that has the property before and after. -/
lemma AllRows.of_sets (h : w.AllRows P) {database table : String} {f : Filter} {changes : Document}
    (hs : Sets database table f changes w w')
    (hrow : ∀ row, P database table row →
      P database table { row with doc := row.doc.update changes }) : w'.AllRows P := by
  obtain ⟨before, found, after, hrows, -, -, hrows'⟩ := hs.row
  intro d table' row hmem
  by_cases hplace : d = database ∧ table' = table
  · obtain ⟨rfl, rfl⟩ := hplace
    have hold : ∀ row ∈ before ++ found :: after, P d table' row := hrows ▸ h d table'
    rw [hrows'] at hmem
    -- The row in the middle is the one that was changed.
    rcases List.mem_append.mp hmem with hmem | hmem
    · exact hold row (List.mem_append_left _ hmem)
    · rcases List.mem_cons.mp hmem with rfl | hmem
      · exact hrow found (hold found (List.mem_append_right _ List.mem_cons_self))
      · exact hold row (List.mem_append_right _ (List.mem_cons_of_mem _ hmem))
  · rw [hs.others d table' hplace] at hmem
    exact h d table' row hmem

lemma mem_written {database table : String} {docs : List Document} {doc : Document}
    (h : doc ∈ w.written database table docs) :
    doc ∈ docs ∧ ∃ key, doc.get? idField = some key := by
  unfold written at h
  split at h
  · cases h
  · exact mem_admitted h

end World

namespace Batch.AllBuffered

variable {b : Batch}

lemma create (size : ℤ) : ({ size := size } : Batch).AllBuffered Q :=
  fun _ _ hdoc => by cases hdoc

lemma add (h : b.AllBuffered Q) (name : String) {doc : Document} (hdoc : Q name doc) :
    (b.add name doc).1.AllBuffered Q := by
  intro table other hother
  rw [buffer_add] at hother
  rcases List.mem_append.mp hother with hother | hother
  · exact h table other hother
  · split at hother
    · rename_i heq
      exact heq ▸ List.mem_singleton.mp hother ▸ hdoc
    · cases hother

lemma take (h : b.AllBuffered Q) (name : String) : (b.take name).2.AllBuffered Q := by
  intro table doc hdoc
  rw [buffer_take] at hdoc
  split at hdoc
  · cases hdoc
  · exact h table doc hdoc

/-- What is drained and what stays was buffered. -/
lemma drain (h : b.AllBuffered Q) (selection : Option String) :
    (∀ table, ∀ doc ∈ docsOf (b.drain selection).1 table, Q table doc) ∧
      (b.drain selection).2.AllBuffered Q := by
  have hsplit (table : String) := b.docsOf_drain_append selection table
  exact ⟨fun table doc hdoc => h table doc (hsplit table ▸ List.mem_append_left _ hdoc),
    fun table doc hdoc => h table doc (hsplit table ▸ List.mem_append_right _ hdoc)⟩

end Batch.AllBuffered

/-! ## From settings to operations -/

/-- Under some settings the documents that are built have the property `D`, those with the property
`D` are stored as rows with the property `P`, and updates preserve this property. -/
structure Settings.Upholds (s : Settings) (P : String → String → Row → Prop)
    (D : Document → Prop) : Prop where
  built : ∀ {key : String} {values : Mapping Bytes} {draws : Draws} {doc : Document},
    idField ∉ values.keys → (s.documentOf key values draws).1 = .ok doc → D doc
  stored : ∀ {table : String} {doc : Document}, D doc → P s.database table (rowOf doc)
  updated : ∀ {table : String} {row : Row} {values : Mapping Bytes} {changes : Document},
    P s.database table row → idField ∉ values.keys → s.Changes values changes →
      P s.database table { row with doc := row.doc.update changes }

/-- The payload of a request does not name the field of the key. -/
def Request.SparesKey : Request → Prop
  | insert _ _ _ values => idField ∉ values.keys
  | update _ _ _ values => idField ∉ values.keys
  | _ => True

/-- Under some settings the documents that a request builds have the property `Q`, those with the
property `Q` are stored as rows with the property `P`, and what the request updates keeps this
property. -/
structure Request.Upholds (request : Request) (s : Settings) (P : String → String → Row → Prop)
    (Q : String → Document → Prop) : Prop where
  built : ∀ {name table key : String} {values : Mapping Bytes} {draws : Draws} {doc : Document},
    request = .insert name table key values → (s.documentOf key values draws).1 = .ok doc →
      Q table doc
  stored : ∀ {table : String} {doc : Document}, Q table doc → P s.database table (rowOf doc)
  updated : ∀ {name table key : String} {values : Mapping Bytes} {row : Row} {changes : Document},
    request = .update name table key values → P s.database table row → s.Changes values changes →
      P s.database table { row with doc := row.doc.update changes }

/-- What some settings uphold is upheld by every request that spares the field of the key. -/
lemma Settings.Upholds.request {s : Settings} (hu : s.Upholds P D) {request : Request}
    (hr : request.SparesKey) : request.Upholds s P fun _ => D where
  built heq hdoc := by
    subst heq
    exact hu.built hr hdoc
  stored := hu.stored
  updated heq hrow hchanges := by
    subst heq
    exact hu.updated hrow hr hchanges

section Maintains

variable {α : Type} {W : World → Prop} {B : Settings → Batch → Prop} {G : Settings → Prop}

/-- An operation that only looks at the data maintains what depends on the data alone. -/
lemma Harness.Maintains.of_sameRows {op : Operation α}
    (hsame : ∀ c b w, SameRows w ((op c b).run w).2 ∧ ((op c b).run w).1.2.2 = b) :
    Harness.Maintains (AllRows P) B op := by
  intro c b w _ hw hb
  obtain ⟨hrows, hbatch⟩ := hsame c b w
  exact ⟨hw.of_sameRows hrows, hbatch.symm ▸ hb⟩

/-- Putting the result of an operation in another form maintains the same. -/
lemma Harness.Maintains.map {β : Type} {op : Operation α} (h : Harness.Maintains W B op)
    (f : α → β) : Harness.Maintains W B fun c b => (fun r => (f r.1, r.2)) <$> op c b :=
  fun c b w hc hw hb => h c b w hc hw hb

namespace Context

lemma maintains_insert (name key : String) {values : Mapping Bytes}
    (hbuilt : ∀ s, G s → ∀ {draws doc}, (s.documentOf key values draws).1 = .ok doc → Q name doc)
    (hstored : ∀ s, G s → ∀ {table doc}, Q table doc → P s.database table (rowOf doc)) :
    Harness.Maintains (AllRows P) (fun s b => G s ∧ b.AllBuffered Q)
      fun c b => c.insert b name key values := by
  intro c b w hc hw hb
  obtain ⟨hg, hdocs⟩ := hb
  have hdoc {doc : Document} (h : c.builtIn name key values w = [doc]) : Q name doc := by
    obtain ⟨draws, hdoc⟩ := documentOf_of_mem_builtIn hc (h ▸ List.mem_singleton_self doc)
    exact hbuilt _ hg hdoc
  cases inserts hc b name key values w with
  | unbuilt _ batch rows => exact ⟨hw.of_sameRows rows, hg, batch.symm ▸ hdocs⟩
  | refused _ _ batch rows => exact ⟨hw.of_sameRows rows, hg, batch.symm ▸ hdocs⟩
  | stored t reaches doc x built _ inserted _ batch rows =>
    obtain ⟨-, -, hx⟩ := insert_eq_ok inserted
    refine ⟨(hw.put fun row hrow => ?_).of_sameRows rows, hg, batch.symm ▸ hdocs⟩
    rw [hx] at hrow
    rcases List.mem_append.mp hrow with hrow | hrow
    · exact hw t.database t.collection row hrow
    · rw [List.mem_singleton.mp hrow, hc.database_eq reaches, reaches.collection_eq]
      exact hstored _ hg (hdoc built)
  | buffered doc built _ _ batch rows =>
    exact ⟨hw.of_sameRows rows, hg, batch.symm ▸ hdocs.add name (hdoc built)⟩
  | full doc built _ _ batch rows =>
    refine ⟨hw.of_writes rows fun table doc' hdoc' => hstored _ hg ?_, hg,
      batch.symm ▸ (hdocs.add name (hdoc built)).take name⟩
    rw [docsOf_singleton] at hdoc'
    split at hdoc'
    · rename_i heq
      rw [← heq]
      rcases List.mem_append.mp (mem_written hdoc').1 with hold | hnew
      · exact hdocs name doc' hold
      · exact List.mem_singleton.mp hnew ▸ hdoc built
    · cases hdoc'

lemma maintains_update (name key : String) {values : Mapping Bytes}
    (hupdated : ∀ s, G s → ∀ {row changes}, P s.database name row → s.Changes values changes →
      P s.database name { row with doc := row.doc.update changes }) :
    Harness.Maintains (AllRows P) (fun s b => G s ∧ b.AllBuffered Q)
      fun c b => (fun r => (r.1, r.2, b)) <$> c.update name key values := by
  intro c b w hc hw hb
  refine ⟨?_, hb⟩
  rcases update_cases hc name key values w with ⟨-, hsame⟩ | ⟨changes, hprepared, hsets, -, -⟩
  · exact hw.of_sameRows hsame
  · exact hw.of_sets hsets fun row hrow => hupdated _ hb.1 hrow ⟨_, _, hprepared⟩

lemma maintains_delete (name key : String) :
    Harness.Maintains (AllRows P) B fun c b => (fun r => (r.1, r.2, b)) <$> c.delete name key := by
  intro c b w hc hw hb
  refine ⟨?_, hb⟩
  obtain ⟨t, ht⟩ := hc.exists_reaches name
  rcases delete_cases hc ht key w with ⟨-, hsame⟩ | ⟨x, hx, -, hput⟩
  · exact hw.of_sameRows hsame
  · exact (hw.put fun row hrow => hw t.database t.collection row
      ((deleteMany_eq_ok hx).subset hrow)).of_sameRows hput

lemma maintains_flush
    (hstored : ∀ s, G s → ∀ {table doc}, Q table doc → P s.database table (rowOf doc))
    (selection : Option String) :
    Harness.Maintains (AllRows P) (fun s b => G s ∧ b.AllBuffered Q)
      fun c b => c.flush b selection := by
  intro c b w hc hw hb
  obtain ⟨hg, hdocs⟩ := hb
  obtain ⟨hdrained, hkept⟩ := hdocs.drain selection
  obtain ⟨hbuffer, hwrites⟩ := writes_flush hc b selection w
  refine ⟨hw.of_writes hwrites fun table doc hdoc => hstored _ hg ?_, hg,
    fun table doc hdoc => hkept table doc (hbuffer table ▸ hdoc)⟩
  rw [docsOf_written w _ _ (b.nodup_drain selection)] at hdoc
  exact hdrained table doc (mem_written hdoc).1

end Context

/-- A request preserves the properties that it upholds. -/
theorem Request.maintains_of_upholds {request : Request}
    (hu : ∀ s, G s → request.Upholds s P Q) {name : String} {op : Operation Answer}
    (hop : request.operation? = some (name, op)) :
    Harness.Maintains (AllRows P) (fun s b => G s ∧ b.AllBuffered Q) op := by
  cases request with
  | insert _ table key values =>
    cases hop
    exact (Context.maintains_insert table key (fun s hs => (hu s hs).built rfl)
      fun s hs => (hu s hs).stored).map _
  | update _ table key values =>
    cases hop
    exact (Context.maintains_update table key fun s hs => (hu s hs).updated rfl).map _
  | delete _ table key =>
    cases hop
    exact (Context.maintains_delete table key).map _
  | flush _ selection =>
    cases hop
    exact (Context.maintains_flush (fun s hs => (hu s hs).stored) selection).map _
  | isOpen _ =>
    cases hop
    exact .of_sameRows fun c b w => ⟨refl w, rfl⟩
  | read _ table key fields =>
    cases hop
    exact .of_sameRows fun c b w => ⟨c.sameRows_read table key fields w, rfl⟩
  | scan _ table start count fields =>
    cases hop
    exact .of_sameRows fun c b w => ⟨c.sameRows_scan table start count fields w, rfl⟩
  | verify _ key cells =>
    cases hop
    exact .of_sameRows fun c b w => ⟨keeps_verify _ key cells w, rfl⟩
  | readVerify _ table key =>
    cases hop
    refine .of_sameRows fun c b w => ⟨?_, rfl⟩
    exact IsTrans.trans _ _ _ (c.sameRows_read table key none w) (keeps_verify _ key _ _)
  | _ => cases hop

/-- Operations preserve the properties that their settings uphold. -/
theorem Request.maintains (hu : ∀ s, G s → s.Upholds P D) {request : Request}
    (hr : request.SparesKey) {name : String} {op : Operation Answer}
    (hop : request.operation? = some (name, op)) :
    Harness.Maintains (AllRows P) (fun s b => G s ∧ b.AllDocs D) op :=
  maintains_of_upholds (fun s hs => (hu s hs).request hr) hop

end Maintains

end LoadBinding
