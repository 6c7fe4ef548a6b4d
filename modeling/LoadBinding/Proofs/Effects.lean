import LoadBinding.Proofs.Consulting
import LoadBinding.Proofs.Reference
import LoadBinding.Proofs.Writing

/-!
# What operations do to the data

For each operation on records, and whatever faults the deployment shows, this file says which rows
the tables have after it and what becomes of the batch.  An operation that fails leaves all rows as
they were (`World.SameRows`); a batch is written up to the first document that is refused
(`Collection.admitted`); an insertion or deletion that succeeds replaces the content of one table by
what the collection makes of it; and an update that succeeds sets its changes in one row
(`World.Sets`).
-/

namespace LoadBinding

open LoadBinding.Text LoadBinding.Action World Batch

variable {α : Type}

/-! ## Collections -/

namespace Collection

variable {c x : Collection}

/-- A document that is inserted stands behind the rows that there were, under its key. -/
lemma insert_eq_ok {doc : Document} (h : c.insert doc = .ok x) :
    ∃ key, doc.get? idField = some key ∧ x.rows = c.rows ++ [rowOf doc] := by
  unfold insert at h
  cases hkey : doc.get? idField with
  | none =>
    rw [hkey] at h
    cases h
  | some key =>
    rw [hkey] at h
    dsimp only at h
    have hrow : rowOf doc = ⟨key, doc⟩ := by
      rw [rowOf, keyOf, hkey, Option.getD_some]
    split at h
    · cases h
    · split at h
      · cases h
      · cases h
        exact ⟨key, rfl, by rw [hrow]⟩

/-- The documents of a batch up to the first that is refused behind some rows. -/
def admitted (rows : List Row) : List Document → List Document
  | [] => []
  | doc :: docs =>
    match ({ rows := rows } : Collection).insert doc with
    | .ok x => doc :: admitted x.rows docs
    | .error _ => []

/-- Whether a document is refused depends on the rows only. -/
lemma insert_rows (c : Collection) (doc : Document) :
    ({ rows := c.rows } : Collection).insert doc =
      (c.insert doc).map fun x => { rows := x.rows } := by
  unfold insert
  cases doc.get? idField with
  | none => rfl
  | some key =>
    dsimp only
    split
    · rfl
    · rw [hasKey_eq, hasKey_eq]
      dsimp only
      split <;> rfl

/-- A batch is written up to the first document that is refused. -/
lemma rows_insertMany (c : Collection) (docs : List Document) :
    (c.insertMany docs).1.rows = c.rows ++ (admitted c.rows docs).map rowOf := by
  induction docs generalizing c with
  | nil => exact (List.append_nil _).symm
  | cons doc rest ih =>
    unfold insertMany admitted
    rw [insert_rows]
    cases hx : c.insert doc with
    | error e => exact (List.append_nil _).symm
    | ok x =>
      obtain ⟨key, -, hrows⟩ := insert_eq_ok hx
      change (x.insertMany rest).1.rows = c.rows ++ (doc :: admitted x.rows rest).map rowOf
      rw [ih, List.map_cons, hrows, List.append_assoc]
      rfl

/-- Documents that are admitted are some of those of the batch, and have keys. -/
lemma mem_admitted {rows : List Row} {docs : List Document} {doc : Document}
    (h : doc ∈ admitted rows docs) : doc ∈ docs ∧ ∃ key, doc.get? idField = some key := by
  induction docs generalizing rows with
  | nil => cases h
  | cons first rest ih =>
    unfold admitted at h
    cases hx : ({ rows := rows } : Collection).insert first with
    | error e =>
      rw [hx] at h
      cases h
    | ok x =>
      rw [hx] at h
      rcases List.mem_cons.mp h with rfl | h
      · obtain ⟨key, hkey, -⟩ := insert_eq_ok hx
        exact ⟨List.mem_cons_self, key, hkey⟩
      · obtain ⟨hmem, hkey⟩ := ih h
        exact ⟨List.mem_cons_of_mem _ hmem, hkey⟩

/-- What an update finds, and what it makes of it. -/
lemma selectFirst_eq_some {f : Filter} {rows before after : List Row} {row : Row}
    (h : selectFirst f rows = .ok (some (before, row, after))) :
    rows = before ++ row :: after ∧ f.holds row.doc = .ok true ∧
      ∀ other ∈ before, f.holds other.doc = .ok false := by
  induction rows generalizing before with
  | nil => cases h
  | cons first rest ih =>
    unfold selectFirst at h
    cases hfirst : f.holds first.doc with
    | error e =>
      rw [hfirst] at h
      cases h
    | ok found =>
      rw [hfirst] at h
      cases found with
      | true =>
        cases h
        exact ⟨rfl, hfirst, List.forall_mem_nil _⟩
      | false =>
        dsimp only at h
        cases hrest : selectFirst f rest with
        | error e =>
          rw [hrest] at h
          cases h
        | ok hit =>
          rw [hrest] at h
          cases hit with
          | none => cases h
          | some found =>
            cases h
            obtain ⟨hrows, hrow, hbefore⟩ := ih hrest
            exact ⟨by rw [hrows]; rfl, hrow, List.forall_mem_cons.mpr ⟨hfirst, hbefore⟩⟩

/-- An update changes the first document that fulfils its filter, or finds none. -/
lemma updateOne_eq_ok {f : Filter} {changes : Document} {count : UpdateCount}
    (h : c.updateOne f changes = .ok (x, count)) :
    (x = c ∧ count.matched = 0) ∨ ∃ before row after,
      c.rows = before ++ row :: after ∧ f.holds row.doc = .ok true ∧
      (∀ other ∈ before, f.holds other.doc = .ok false) ∧
      x.rows = before ++ { row with doc := row.doc.update changes } :: after ∧
      count = ⟨1, if differs row.doc changes then 1 else 0⟩ := by
  unfold updateOne at h
  cases hfound : selectFirst f c.rows with
  | error e =>
    rw [hfound] at h
    cases h
  | ok found =>
    rw [hfound] at h
    cases found with
    | none =>
      cases h
      exact .inl ⟨rfl, rfl⟩
    | some hit =>
      obtain ⟨before, row, after⟩ := hit
      cases h
      obtain ⟨hrows, hrow, hbefore⟩ := selectFirst_eq_some hfound
      exact .inr ⟨before, row, after, hrows, hrow, hbefore, rfl, rfl⟩

/-- A deletion keeps some of the rows. -/
lemma sublist_of_reject {f : Filter} {rows kept : List Row} (h : reject f rows = .ok kept) :
    kept.Sublist rows := by
  induction rows generalizing kept with
  | nil =>
    cases h
    exact List.Sublist.refl _
  | cons row rest ih =>
    unfold reject at h
    cases hrow : f.holds row.doc with
    | error e =>
      rw [hrow] at h
      cases h
    | ok found =>
      rw [hrow] at h
      cases hrest : reject f rest with
      | error e =>
        rw [hrest] at h
        cases h
      | ok others =>
        rw [hrest] at h
        cases h
        cases found with
        | true => exact (ih hrest).cons row
        | false => exact (ih hrest).cons_cons row

lemma deleteMany_eq_ok {f : Filter} (h : c.deleteMany f = .ok x) : x.rows.Sublist c.rows := by
  unfold deleteMany at h
  cases hrest : reject f c.rows with
  | error e =>
    rw [hrest] at h
    cases h
  | ok kept =>
    rw [hrest] at h
    cases h
    exact sublist_of_reject hrest

end Collection

open Collection

/-! ## Rows that stay -/

/-- Between two worlds no row has changed. -/
def World.SameRows (w w' : World) : Prop :=
  ∀ database table, w'.rows database table = w.rows database table

namespace World

variable {w w' w'' : World}

instance : DataOrder SameRows where
  refl _ _ _ := rfl
  trans _ _ _ h h' d t := (h' d t).trans (h d t)
  of_consults h d t := congrArg Collection.rows (h.data.collection d t)

lemma SameRows.symm (h : SameRows w w') : SameRows w' w :=
  fun d t => (h d t).symm

/-- Where a table was replaced in one world it may be replaced in the other. -/
lemma SameRows.put (h : SameRows w w') (t : Target) (x : Collection) :
    SameRows (w.put t x) (w'.put t x) := by
  intro d table
  rw [rows_put, rows_put, h d table]

/-- A table may be replaced by one with the same rows. -/
lemma sameRows_put {t : Target} {x : Collection} (h : x.rows = w.rows t.database t.collection) :
    SameRows w (w.put t x) := by
  intro d table
  rw [rows_put]
  split
  · rename_i heq
    rw [h, heq.1, heq.2]
  · rfl

lemma sameRows_lookedUp (w : World) (t : Target) : SameRows w (w.lookedUp t) :=
  fun d table => rows_lookedUp w t d table

/-- Looking a table up leaves its content as it is. -/
lemma content_lookedUp (w : World) (t : Target) :
    t.content (w.lookedUp t).cluster = t.content w.cluster := by
  simp [Target.content, lookedUp]

/-- Between two worlds changes were set in one row: the first of a table that fulfils a filter. -/
structure Sets (database table : String) (f : Filter) (changes : Document) (w w' : World) :
    Prop where
  row : ∃ before row after, w.rows database table = before ++ row :: after ∧
    f.holds row.doc = .ok true ∧ (∀ other ∈ before, f.holds other.doc = .ok false) ∧
    w'.rows database table = before ++ { row with doc := row.doc.update changes } :: after
  others : ∀ d t, ¬ (d = database ∧ t = table) → w'.rows d t = w.rows d t

/-- A table is replaced by one in which changes were set. -/
lemma sets_put (hs : SameRows w w') {t : Target} {x : Collection} {f : Filter}
    {changes : Document} {before after : List Row} {row : Row}
    (hrows : w.rows t.database t.collection = before ++ row :: after)
    (hrow : f.holds row.doc = .ok true) (hbefore : ∀ other ∈ before, f.holds other.doc = .ok false)
    (hx : x.rows = before ++ { row with doc := row.doc.update changes } :: after) :
    Sets t.database t.collection f changes w (w'.put t x) := by
  refine ⟨⟨before, row, after, hrows, hrow, hbefore, ?_⟩, fun d table hother => ?_⟩
  · rw [rows_put, if_pos ⟨rfl, rfl⟩, hx]
  · rw [rows_put, if_neg hother, hs d table]

lemma sameRows_record (call : Call) : Keeps SameRows (attempt (record call)) := by
  intro w
  rw [run_attempt, exec_record]
  exact fun _ _ => rfl

end World

namespace Target

variable (t : Target) (f : Filter) (p : Option Projection)

lemma sameRows_findOne : Keeps SameRows (attempt (t.findOne f p)) :=
  keeps_findOne (sameRows_record _)

lemma sameRows_scan (count : ℤ) : Keeps SameRows (attempt (t.scan f p count)) :=
  keeps_scan (sameRows_record _) (fun _ _ => sameRows_record _) count

end Target

/-! ## Changes -/

namespace Value

/-- A value as payloads are stored: a text or a byte string. -/
def IsPayload (v : Value) : Prop :=
  (∃ s, v = .text s) ∨ ∃ b, v = .bytes b

lemma isPayload_encode (data : Bytes) (encoding : Encoding) :
    (Payload.encode data encoding).IsPayload := by
  cases encoding with
  | binary => exact .inr ⟨data, rfl⟩
  | string => exact .inl ⟨utf8Decode data, rfl⟩

/-- Nothing else is the same as a text or a byte string. -/
lemma IsPayload.eq_of_same {v v' : Value} (h : v.IsPayload) (hsame : v'.same v = true) :
    v' = v := by
  rcases h with ⟨s, rfl⟩ | ⟨b, rfl⟩
  · exact (same_text v' s).mp hsame
  · exact (same_bytes v' b).mp hsame

end Value

lemma isPayload_prepare {generators : Mapping Discrete} {ratio : Float} {encoding : Encoding}
    {field : String} {data : Bytes} {draws : Draws} {v : Value}
    (h : (Payload.prepare generators ratio encoding field data draws).1 = .ok v) :
    v.IsPayload := by
  unfold Payload.prepare at h
  split at h
  · cases h
  · rename_i payload draws' _
    dsimp only at h
    cases hcompress : Payload.compress payload ratio with
    | error e =>
      rw [hcompress] at h
      cases h
    | ok kept =>
      rw [hcompress] at h
      cases h
      exact Value.isPayload_encode kept encoding

namespace Settings

variable {s : Settings}

/-- Prepared payloads are texts or byte strings. -/
lemma isPayload_of_prepareAll {excluded : String → Bool} {doc doc' : Document} {draws : Draws}
    {values : List (String × Bytes)} (hdoc : ∀ pair ∈ doc, pair.2.IsPayload)
    (h : (s.prepareAll excluded doc draws values).1 = .ok doc') :
    ∀ pair ∈ doc', pair.2.IsPayload := by
  induction values generalizing doc draws with
  | nil =>
    cases h
    exact hdoc
  | cons first rest ih =>
    obtain ⟨field, data⟩ := first
    unfold prepareAll at h
    split at h
    · exact ih hdoc h
    · split at h
      · cases h
      · rename_i v _ hv
        refine ih (fun pair hpair => ?_) h
        rcases Mapping.mem_set hpair with rfl | hold
        · exact isPayload_prepare (congrArg Prod.fst hv)
        · exact hdoc pair hold

/-- What an update under some settings may set: a marker, and the prepared payloads of the fields
that may be changed. -/
def Changes (s : Settings) (values : Mapping Bytes) (changes : Document) : Prop :=
  ∃ marker draws, (s.prepareAll s.isImmutable [(Context.markerField, .text marker)] draws
    values).1 = .ok changes

variable {values : Mapping Bytes} {changes : Document}

lemma Changes.isPayload (h : s.Changes values changes) : ∀ pair ∈ changes, pair.2.IsPayload := by
  obtain ⟨marker, draws, h⟩ := h
  refine isPayload_of_prepareAll (fun pair hpair => ?_) h
  obtain rfl := List.mem_singleton.mp hpair
  exact .inl ⟨marker, rfl⟩

/-- Fields that are not to be changed, or that no payload has, are not among the changes. -/
lemma Changes.get?_eq_none (h : s.Changes values changes) {field : String}
    (hmarker : field ≠ Context.markerField)
    (hfield : s.isImmutable field = true ∨ field ∉ values.keys) : changes.get? field = none := by
  obtain ⟨marker, draws, h⟩ := h
  rw [get?_prepareAll hfield h, Mapping.get?_cons, if_neg (by simpa using hmarker)]
  rfl

end Settings

/-- Setting fields to the values that they have changes nothing. -/
lemma Collection.update_of_not_differs {doc changes : Document}
    (hpayload : ∀ pair ∈ changes, pair.2.IsPayload) (h : differs doc changes = false) :
    doc.update changes = doc := by
  have hhas : ∀ pair ∈ changes, doc.get? pair.1 = some pair.2 := by
    intro pair hpair
    have hsame : ((doc.get? pair.1).getD .null).same pair.2 = true := by
      simpa using List.any_eq_false.mp h pair hpair
    have heq := (hpayload pair hpair).eq_of_same hsame
    cases hget : doc.get? pair.1 with
    | some v =>
      rw [hget] at heq
      exact congrArg some heq
    | none =>
      rw [hget] at heq
      rcases hpayload pair hpair with ⟨s, hs⟩ | ⟨b, hb⟩
      · rw [hs] at heq
        cases heq
      · rw [hb] at heq
        cases heq
  clear h hpayload
  induction changes with
  | nil => rfl
  | cons pair rest ih =>
    have hset := Mapping.set_of_get? (hhas pair List.mem_cons_self)
    change Mapping.update (doc.set pair.1 pair.2) rest = doc
    rw [hset]
    exact ih fun other hother => hhas other (List.mem_cons_of_mem _ hother)

/-! ## Operations -/

namespace Context

variable {c : Context} {s : Settings} {w : World}

lemma sameRows_table (s : Settings) (selected : Option Endpoint) (name : String) :
    Keeps SameRows (attempt (table s selected name)) := by
  cases selected with
  | none => exact keeps_attempt_throw _
  | some e => exact keeps_of_consults (consults_use e.client s.database name)

/-- A read changes no row. -/
lemma sameRows_read (c : Context) (name key : String) (fields : Option (List String)) :
    Keeps SameRows (c.read name key fields) := by
  unfold read
  rw [next_eq]
  refine keeps_bind (keeps_attempt_bind (sameRows_table _ _ _)
    fun t => t.sameRows_findOne _ _) fun found => ?_
  rcases found with e | _ | _ | _
  · exact keeps_bind (keeps_failed _ _) fun _ => keeps_pure _
  · exact keeps_bind (keeps_complained _) fun _ => keeps_pure _
  · exact keeps_bind (keeps_complained _) fun _ => keeps_pure _
  · exact keeps_pure _

/-- A scan changes no row. -/
lemma sameRows_scan (c : Context) (name start : String) (count : ℤ)
    (fields : Option (List String)) : Keeps SameRows (c.scan name start count fields) := by
  unfold scan
  rw [next_eq]
  refine keeps_bind (keeps_attempt_bind (sameRows_table _ _ _)
    fun t => t.sameRows_scan _ _ _) fun found => ?_
  rcases found with e | _ | _
  · exact keeps_bind (keeps_failed _ _) fun _ => keeps_pure _
  · exact keeps_bind (keeps_complained _) fun _ => keeps_pure _
  · exact keeps_pure _

/-- A deletion that fails changes no row, and one that succeeds takes rows out of its table. -/
lemma delete_cases (hc : c.Serves s) {name : String} {t : Target} (ht : c.Reaches name t)
    (key : String) (w : World) :
    (((c.delete name key).run w).1.1.status = .error ∧
        SameRows w ((c.delete name key).run w).2) ∨
      ∃ x, (t.content w.cluster).deleteMany (s.recordFilter key) = .ok x ∧
        ((c.delete name key).run w).1.1.status = .ok ∧
        SameRows (w.put t x) ((c.delete name key).run w).2 := by
  unfold delete
  rw [next_eq]
  dsimp only
  rw [settings_advance, run_bind, run_attempt]
  cases hf : w.faults.get? (lookUpAddress name) with
  | some f =>
    have hrun := exec_table_of_fault ht hf
    have hsame := rel_of_exec (sameRows_table c.settings c.selected name w) hrun
    rw [exec_bind_of_error hrun]
    exact .inl ⟨rfl, hsame⟩
  | none =>
    rw [exec_bind_of_ok (exec_table_of_no_fault ht hf), hc.settings]
    have hlooked := sameRows_lookedUp w t
    rcases exec_deleteMany t (s.recordFilter key) (w.lookedUp t) with ⟨e, he⟩ | ⟨x, hx, hok⟩
    · rw [he]
      exact .inl ⟨rfl, hlooked⟩
    · rw [hok]
      rw [content_lookedUp] at hx
      exact .inr ⟨x, hx, rfl, hlooked.put t x⟩

/-- An update that fails changes no row, and one that succeeds sets in one row a fresh marker and
what is prepared of its payload. -/
lemma update_cases (hc : c.Serves s) (name key : String) (values : Mapping Bytes) (w : World) :
    (((c.update name key values).run w).1.1.status = .error ∧
        SameRows w ((c.update name key values).run w).2) ∨
      ∃ changes,
        (s.prepareAll s.isImmutable [(markerField, .text (marker (w.markers + 1)))] w.draws
          values).1 = .ok changes ∧
        Sets s.database name (s.recordFilter key) changes w ((c.update name key values).run w).2 ∧
        ((c.update name key values).run w).1.1.status = .ok ∧
        ((c.update name key values).run w).2.markers = w.markers + 1 := by
  obtain ⟨t, ht⟩ := hc.exists_reaches name
  unfold update
  rw [next_eq]
  dsimp only
  rw [settings_advance, run_bind, run_attempt]
  cases hf : w.faults.get? (lookUpAddress name) with
  | some f =>
    have hrun := exec_table_of_fault ht hf
    have hsame := rel_of_exec (sameRows_table c.settings c.selected name w) hrun
    rw [exec_bind_of_error hrun]
    exact .inl ⟨rfl, hsame⟩
  | none =>
    obtain ⟨w₁, hmarker, hcluster, hdraws, hmarkers⟩ : ∃ w₁,
        exec nextMarker (w.lookedUp t) = (.ok (marker (w.markers + 1)), w₁) ∧
          w₁.cluster = (w.lookedUp t).cluster ∧ w₁.draws = w.draws ∧
          w₁.markers = w.markers + 1 := ⟨_, exec_nextMarker _, rfl, rfl, rfl⟩
    have hlooked : SameRows w w₁ := fun d table => by
      rw [World.rows, hcluster]
      exact sameRows_lookedUp w t d table
    rw [exec_bind_of_ok (exec_table_of_no_fault ht hf), exec_bind_of_ok hmarker, exec_bind,
      exec_prepareFields (hc.advance 1), hc.settings]
    cases hprepared : (s.prepareAll s.isImmutable [(markerField, .text (marker (w.markers + 1)))]
        w₁.draws values).1 with
    | error e => exact .inl ⟨rfl, hlooked⟩
    | ok changes =>
      have hchanges : s.Changes values changes := ⟨_, _, hprepared⟩
      dsimp only [Except.mapError]
      set w₂ : World := { w₁ with
        draws := (s.prepareAll s.isImmutable [(markerField, .text (marker (w.markers + 1)))]
          w₁.draws values).2 }
      have hsame : SameRows w w₂ := hlooked
      have hcontent : t.content w₂.cluster = t.content w.cluster := by
        rw [← content_lookedUp w t, ← hcluster]
      rcases exec_updateOne t (s.recordFilter key) changes w₂ with ⟨e, he⟩ | ⟨x, count, hx, hok⟩
      · rw [he]
        exact .inl ⟨rfl, hsame⟩
      · rw [hcontent] at hx
        -- An update that matches or changes nothing puts back the rows that there were.
        have hput (hrows : x.rows = (t.content w.cluster).rows) : SameRows w (w₂.put t x) :=
          IsTrans.trans _ _ _ hsame (sameRows_put (hrows.trans (hsame.symm _ _)))
        rw [hok]
        dsimp only
        rcases updateOne_eq_ok hx with
          ⟨rfl, hnone⟩ | ⟨before, row, after, hrows, hrow, hbefore, hx', rfl⟩
        · have hmatched : (count.matched == 0) = true := by rw [hnone]; rfl
          rw [hmatched, if_pos rfl]
          exact .inl ⟨rfl, hput rfl⟩
        · cases hdiffers : differs row.doc changes with
          | false =>
            have hsame' : x.rows = (t.content w.cluster).rows := by
              rw [hx', hrows, update_of_not_differs hchanges.isPayload hdiffers]
            exact .inl ⟨rfl, hput hsame'⟩
          | true =>
            have hnoted : SameRows w (w₂.noted (.updateOne t (s.recordFilter key) changes)) := hsame
            have hsets := sets_put hnoted hrows hrow hbefore hx'
            rw [hc.database_eq ht, ht.collection_eq] at hsets
            exact .inr ⟨changes, hdraws ▸ hprepared, hsets, rfl, hmarkers⟩

end Context

/-! ### Writing several documents -/

/-- The address of a write of several documents to a table. -/
def writeAddress (table : String) : String :=
  "insert_many" ++ ":" ++ table

namespace World

/-- Whether a batch for some table shows a fault, at the look-up of the table or at the write. -/
def isFaulty (w : World) (table : String) : Bool :=
  (w.faults.get? (lookUpAddress table)).isSome || (w.faults.get? (writeAddress table)).isSome

/-- The documents of a batch that are written to a table. -/
def written (w : World) (database table : String) (docs : List Document) : List Document :=
  if w.isFaulty table then [] else admitted (w.rows database table) docs

variable {w w' : World}

@[simp] lemma written_nil (w : World) (database table : String) :
    w.written database table [] = [] := by
  unfold written
  split <;> rfl

/-- What is written to a table depends on its rows and on the faults. -/
lemma written_congr {database table : String} (hf : w'.faults = w.faults)
    (hr : w'.rows database table = w.rows database table) (docs : List Document) :
    w'.written database table docs = w.written database table docs := by
  rw [written, written, isFaulty, isFaulty, hf, hr]

/-- Nothing is written where no row has changed. -/
lemma Writes.nothing {database table : String} (hf : w'.faults = w.faults) (h : SameRows w w') :
    Writes database [(table, [])] w w' := by
  refine ⟨hf, fun d table' => ?_⟩
  rw [h d table', docsOf_singleton, ite_self]
  split <;> exact (List.append_nil _).symm

/-- Rows that are the same as those after a write have been written. -/
lemma Writes.of_sameRows {w₁ : World} {database : String} {writes : List (String × List Document)}
    (h : Writes database writes w w₁) (hf : w'.faults = w₁.faults) (hs : SameRows w₁ w') :
    Writes database writes w w' :=
  ⟨hf.trans h.faults, fun d table => (hs d table).trans (h.rows d table)⟩

end World

/-- A write of several documents writes those up to the first that is refused, or nothing. -/
lemma writes_insertMany (t : Target) (docs : List Document) (w : World)
    (hf : w.faults.get? (lookUpAddress t.collection) = none) :
    Writes t.database [(t.collection, w.written t.database t.collection docs)] w
      (exec (t.insertMany docs) w).2 := by
  unfold World.written World.isFaulty
  rw [hf]
  cases hw : w.faults.get? (writeAddress t.collection) with
  | some e =>
    rw [exec_insertMany_of_fault hw]
    exact .nothing rfl fun _ _ => rfl
  | none =>
    rw [exec_insertMany_of_no_fault hw]
    have hput := writes_put w (t := t) rfl (.insertMany t docs)
      (admitted (w.rows t.database t.collection) docs)
    refine hput.of_sameRows rfl fun d table => ?_
    rw [rows_put, rows_put]
    split
    · exact rows_insertMany _ _
    · rfl

namespace Context

variable {c : Context} {s : Settings} {w : World}

/-- A flush of one buffer writes its documents up to the first that is refused. -/
lemma writes_flushTable (hc : c.Serves s) (name : String) (docs : List Document) (w : World) :
    Writes s.database [(name, w.written s.database name docs)] w
      ((c.flushTable name docs).run w).2 := by
  obtain ⟨t, ht⟩ := hc.exists_reaches name
  unfold flushTable
  rw [next_eq]
  dsimp only
  rw [settings_advance, run_bind, run_attempt]
  cases hf : w.faults.get? (lookUpAddress name) with
  | some f =>
    have hrun := exec_table_of_fault ht hf
    have hsame := rel_of_exec (sameRows_table c.settings c.selected name w) hrun
    have hnone : w.written s.database name docs = [] := by
      rw [World.written, World.isFaulty, hf]
      rfl
    rw [exec_bind_of_error hrun, hnone]
    exact .nothing rfl hsame
  | none =>
    have hwrite := writes_insertMany t docs (w.lookedUp t) (ht.collection_eq.symm ▸ hf)
    have hfaults : (w.lookedUp t).faults = w.faults := rfl
    have hsame := written_congr hfaults (rows_lookedUp w t s.database name) docs
    rw [ht.collection_eq, hc.database_eq ht, hsame] at hwrite
    have hboth := (writes_lookedUp w t).trans hwrite
    rw [exec_bind_of_ok (exec_table_of_no_fault ht hf)]
    cases hrun : exec (t.insertMany docs) (w.lookedUp t) with
    | mk r w₁ =>
      rw [hrun] at hboth
      cases r with
      | error e => exact hboth.of_sameRows rfl fun _ _ => rfl
      | ok _ => exact hboth.of_sameRows rfl fun _ _ => rfl

/-- A flush of some buffers writes each of them up to the first document that is refused. -/
lemma writes_flushTables (hc : c.Serves s) (outcome : Outcome Unit)
    {drained : List (String × List Document)} (hd : (drained.map Prod.fst).Nodup) (w : World) :
    Writes s.database (drained.map fun pair => (pair.1, w.written s.database pair.1 pair.2)) w
      ((c.flushTables outcome drained).run w).2 := by
  induction drained generalizing c outcome w with
  | nil => exact .of_same rfl fun _ _ => rfl
  | cons pair rest ih =>
    obtain ⟨name, docs⟩ := pair
    obtain ⟨hname, hrest⟩ := List.nodup_cons.mp hd
    have hfirst := writes_flushTable hc name docs w
    have hnext := hc.operates (c.operates_flushTable name docs) w
    -- The other tables are as they were before the first buffer was written.
    have hothers : rest.map (fun pair => (pair.1, ((c.flushTable name docs).run w).2.written
        s.database pair.1 pair.2)) =
          rest.map fun pair => (pair.1, w.written s.database pair.1 pair.2) := by
      refine List.map_congr_left fun pair hpair => ?_
      have hne : name ≠ pair.1 := by
        rintro rfl
        exact hname (List.mem_map.mpr ⟨pair, hpair, rfl⟩)
      have hrows := hfirst.rows s.database pair.1
      rw [docsOf_singleton, if_neg hne, if_pos rfl, List.map_nil, List.append_nil] at hrows
      rw [written_congr hfirst.faults hrows]
    have hlater := ih hnext (if ((c.flushTable name docs).run w).1.1.isOk then outcome
      else ((c.flushTable name docs).run w).1.1) hrest ((c.flushTable name docs).run w).2
    rw [hothers] at hlater
    exact hfirst.trans hlater

/-- What is drained for a table is written up to the first document that is refused. -/
lemma docsOf_written (w : World) (database : String) (drained : List (String × List Document))
    (hd : (drained.map Prod.fst).Nodup) (table : String) :
    docsOf (drained.map fun pair => (pair.1, w.written database pair.1 pair.2)) table =
      w.written database table (docsOf drained table) := by
  induction drained with
  | nil => simp
  | cons pair rest ih =>
    obtain ⟨hname, hrest⟩ := List.nodup_cons.mp hd
    rw [List.map_cons, docsOf_cons, docsOf_cons, ih hrest]
    by_cases heq : pair.1 = table
    · -- The other buffers are those of other tables.
      have hnone : docsOf rest table = [] := by
        by_contra hne
        obtain ⟨other, hother, hsame⟩ := exists_mem_of_docsOf_ne_nil hne
        exact hname (List.mem_map.mpr ⟨other, hother, hsame.trans heq.symm⟩)
      rw [if_pos heq, if_pos heq, hnone, written_nil, List.append_nil, List.append_nil, heq]
    · rw [if_neg heq, if_neg heq, List.nil_append, List.nil_append]

/-- A flush leaves in the batch what it does not drain, and writes what it drains up to the first
document that is refused. -/
lemma writes_flush (hc : c.Serves s) (b : Batch) (selection : Option String) (w : World) :
    (∀ table, ((c.flush b selection).run w).1.2.2.buffer table =
        (b.drain selection).2.buffer table) ∧
      Writes s.database ((b.drain selection).1.map fun pair =>
        (pair.1, w.written s.database pair.1 pair.2)) w ((c.flush b selection).run w).2 := by
  unfold flush
  split
  · rename_i hcount
    have hdrained := b.drain_of_count_eq_zero selection (by simpa using hcount)
    refine ⟨fun table => ?_, ?_⟩
    · have hsplit := b.docsOf_drain_append selection table
      rw [hdrained] at hsplit
      exact hsplit.symm
    · rw [hdrained]
      exact .of_same rfl fun _ _ => rfl
  · exact ⟨fun _ => rfl, writes_flushTables hc _ (b.nodup_drain selection) w⟩

/-! ### Insertions -/

/-- A document that an insertion builds is that of its record. -/
lemma documentOf_of_mem_builtIn (hc : c.Serves s) {name key : String} {values : Mapping Bytes}
    {doc : Document} (h : doc ∈ c.builtIn name key values w) :
    ∃ draws, (s.documentOf key values draws).1 = .ok doc := by
  obtain ⟨t, ht⟩ := hc.exists_reaches name
  refine ⟨w.draws, ?_⟩
  unfold builtIn at h
  cases hf : w.faults.get? (lookUpAddress name) with
  | some f =>
    rw [exec_build_of_fault ht hf] at h
    cases h
  | none =>
    rw [exec_build_of_no_fault hc ht hf] at h
    cases hdoc : (s.documentOf key values w.draws).1 with
    | error e =>
      rw [hdoc] at h
      cases h
    | ok built =>
      rw [hdoc] at h
      rw [List.mem_singleton.mp h]

/-- What an insertion does to the rows and to the batch, with the result and the world that it
leaves. -/
inductive Inserts (c : Context) (s : Settings) (b : Batch) (name key : String)
    (values : Mapping Bytes) (w : World) (r : Outcome Unit × Context × Batch) (w' : World) : Prop
  /-- No document could be built. -/
  | unbuilt (built : c.builtIn name key values w = []) (batch : r.2.2 = b) (rows : SameRows w w')
  /-- A single document was refused. -/
  | refused (size : s.batchSize = 1) (status : r.1.status = .error) (batch : r.2.2 = b)
      (rows : SameRows w w')
  /-- A single document was stored. -/
  | stored (t : Target) (reaches : c.Reaches name t) (doc : Document) (x : Collection)
      (built : c.builtIn name key values w = [doc]) (size : s.batchSize = 1)
      (inserted : (t.content w.cluster).insert doc = .ok x) (status : r.1.status = .ok)
      (batch : r.2.2 = b) (rows : SameRows (w.put t x) w')
  /-- The document did not fill its buffer. -/
  | buffered (doc : Document) (built : c.builtIn name key values w = [doc])
      (size : s.batchSize ≠ 1) (notFull : (b.add name doc).2 = false)
      (batch : r.2.2 = (b.add name doc).1) (rows : SameRows w w')
  /-- The document filled its buffer, which was written. -/
  | full (doc : Document) (built : c.builtIn name key values w = [doc]) (size : s.batchSize ≠ 1)
      (isFull : (b.add name doc).2 = true) (batch : r.2.2 = ((b.add name doc).1.take name).2)
      (rows : Writes s.database [(name, w.written s.database name (b.buffer name ++ [doc]))] w w')

lemma inserts (hc : c.Serves s) (b : Batch) (name key : String) (values : Mapping Bytes)
    (w : World) :
    Inserts c s b name key values w ((c.insert b name key values).run w).1
      ((c.insert b name key values).run w).2 := by
  obtain ⟨t, ht⟩ := hc.exists_reaches name
  rw [insert_eq, run_bind, run_attempt]
  cases hf : w.faults.get? (lookUpAddress name) with
  | some f =>
    have hbuild : exec (c.build name key values) w = _ := exec_build_of_fault ht hf
    have hsame := rel_of_exec (sameRows_table c.settings c.selected name w)
      (exec_table_of_fault ht hf)
    have hbuilt : c.builtIn name key values w = [] := by rw [builtIn, hbuild]
    rw [hbuild]
    exact .unbuilt hbuilt rfl hsame
  | none =>
    have hbuild : exec (c.build name key values) w = _ := exec_build_of_no_fault hc ht hf
    set w₁ : World := { w.lookedUp t with draws := (s.documentOf key values w.draws).2 } with hw₁
    have hsame : SameRows w w₁ := sameRows_lookedUp w t
    have hcontent : t.content w₁.cluster = t.content w.cluster := content_lookedUp w t
    cases hdoc : (s.documentOf key values w.draws).1 with
    | error e =>
      rw [hdoc] at hbuild
      have hbuilt : c.builtIn name key values w = [] := by rw [builtIn, hbuild]; rfl
      rw [hbuild]
      exact .unbuilt hbuilt rfl hsame
    | ok doc =>
      rw [hdoc] at hbuild
      have hbuilt : c.builtIn name key values w = [doc] := by rw [builtIn, hbuild]; rfl
      rw [hbuild]
      dsimp only [Except.map, Except.mapError]
      rw [hc.settings]
      by_cases hone : s.batchSize = 1
      · rw [hone, if_pos (by decide), run_bind, run_attempt]
        rcases exec_insertOne t doc w₁ with ⟨e, he⟩ | ⟨x, hx, hok⟩
        · rw [he]
          exact .refused hone rfl rfl hsame
        · rw [hok]
          rw [hcontent] at hx
          exact .stored t ht doc x hbuilt hone hx rfl rfl (hsame.put t x)
      · rw [beq_false_of_ne hone, if_neg (by decide)]
        cases hfull : (b.add name doc).2 with
        | false => exact .buffered doc hbuilt hone hfull rfl hsame
        | true =>
          have hwrite := writes_insertMany t (b.buffer name ++ [doc]) w₁
            (ht.collection_eq.symm ▸ hf)
          have hfaults : w₁.faults = w.faults := rfl
          have hwritten := written_congr hfaults (hsame s.database name) (b.buffer name ++ [doc])
          rw [ht.collection_eq, hc.database_eq ht, hwritten] at hwrite
          have hlooked : Writes s.database [] w w₁ := .of_same rfl hsame
          have hboth := hlooked.trans hwrite
          have hbuffer : (b.add name doc).1.buffer name = b.buffer name ++ [doc] := by
            rw [buffer_add, if_pos rfl]
          rw [if_pos rfl, run_bind, run_attempt, hbuffer]
          cases hrun : exec (t.insertMany (b.buffer name ++ [doc])) w₁ with
          | mk r w₂ =>
            rw [hrun] at hboth
            cases r with
            | error e =>
              exact .full doc hbuilt hone hfull rfl (hboth.of_sameRows rfl fun _ _ => rfl)
            | ok _ => exact .full doc hbuilt hone hfull rfl hboth

end Context

end LoadBinding
