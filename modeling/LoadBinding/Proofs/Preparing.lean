import LoadBinding.Proofs.Calls
import LoadBinding.Proofs.Mappings
import LoadBinding.Proofs.Visiting

/-!
# The document of a record

Preparing the payloads of a record depends on the settings and the draws alone, and changes nothing
of the world but the draws.  `Settings.documentOf` is the document of a record as a function of the
two, and `Context.exec_build_of_no_fault` says that an insertion builds this document, after the
look-up of its table.
-/

namespace LoadBinding

open LoadBinding.Text LoadBinding.Action World

namespace Settings

variable (s : Settings)

/-- Prepares the payloads of some fields one after the other, adds them to a document, and returns
it with the draws that are left. -/
def prepareAll (excluded : String → Bool) (doc : Document) (draws : Draws) :
    List (String × Bytes) → Except PayloadError Document × Draws
  | [] => (.ok doc, draws)
  | (field, data) :: rest =>
    if excluded field then prepareAll excluded doc draws rest
    else
      match Payload.prepare (Discrete.forFields s.cardinalities) s.compressibility s.encoding field
        data draws with
      | (.error e, draws) => (.error e, draws)
      | (.ok v, draws) => prepareAll excluded (doc.set field v) draws rest

/-- The document of a record, with the draws that are left. -/
def documentOf (key : String) (values : Mapping Bytes) (draws : Draws) :
    Except PayloadError Document × Draws :=
  let (prepared, draws) := s.prepareAll (s.routing key).has [(idField, .text key)] draws values
  (prepared.map fun doc => doc.update ((s.routing key).mapValues Value.text), draws)

variable {s} {doc : Document} {draws : Draws} {key : String} {values : Mapping Bytes}

/-- Preparing payloads leaves the fields alone that are excluded or have none. -/
lemma get?_prepareAll {excluded : String → Bool} {doc' : Document} {field : String}
    (hfield : excluded field = true ∨ field ∉ values.keys)
    (h : (s.prepareAll excluded doc draws values).1 = .ok doc') :
    doc'.get? field = doc.get? field := by
  induction values generalizing doc draws with
  | nil =>
    cases h
    rfl
  | cons pair rest ih =>
    obtain ⟨first, data⟩ := pair
    have hrest : excluded field = true ∨ field ∉ Mapping.keys rest :=
      hfield.imp_right fun hmem hin => hmem (List.mem_cons_of_mem _ hin)
    unfold prepareAll at h
    split at h
    · exact ih hrest h
    · rename_i hfirst
      split at h
      · cases h
      · have hne : field ≠ first := by
          rintro rfl
          exact hfield.elim hfirst fun hmem => hmem List.mem_cons_self
        rw [ih hrest h, Mapping.get?_set, if_neg hne]

/-- A routing field is the shard key or the location of the run. -/
lemma mem_routing {pair : String × String} (h : pair ∈ s.routing key) :
    pair = (s.shardKey, key) ∨
      s.location.isEmpty = false ∧ pair = (s.locationField, s.location) := by
  have hshard (h : pair ∈ (if s.shardKey.isEmpty then [] else [(s.shardKey, key)])) :
      pair = (s.shardKey, key) := by
    split at h
    · cases h
    · exact List.mem_singleton.mp h
  unfold routing at h
  dsimp only at h
  split at h
  · exact .inl (hshard h)
  · rename_i hlocation
    rcases Mapping.mem_set h with h | h
    · exact .inr ⟨by simpa using hlocation, h⟩
    · exact .inl (hshard h)

/-- The document of a record is keyed by the key of the record, unless its payload or the location
of the run replaces it. -/
lemma get?_documentOf (hlocation : s.location.isEmpty = false → s.locationField ≠ idField)
    (hvalues : idField ∉ values.keys) (h : (s.documentOf key values draws).1 = .ok doc) :
    doc.get? idField = some (.text key) := by
  unfold documentOf at h
  dsimp only at h
  cases hprepared : (s.prepareAll (s.routing key).has [(idField, .text key)] draws values).1 with
  | error e =>
    rw [hprepared] at h
    cases h
  | ok prepared =>
    rw [hprepared] at h
    cases h
    have hkey : prepared.get? idField = some (.text key) :=
      (get?_prepareAll (.inr hvalues) hprepared).trans rfl
    refine Mapping.get?_update_of_forall hkey fun pair hpair hid => ?_
    obtain ⟨⟨field, value⟩, hmem, rfl⟩ := List.mem_map.mp hpair
    rcases mem_routing hmem with heq | ⟨hnonempty, heq⟩
    · cases heq
      rfl
    · cases heq
      exact absurd hid (hlocation hnonempty)

end Settings

namespace Context

/-- A context works under some settings, and has an endpoint. -/
structure Serves (c : Context) (s : Settings) : Prop where
  settings : c.settings = s
  generators : c.generators = Discrete.forFields s.cardinalities
  endpoints : c.pool.endpoints ≠ []

variable {c : Context} {s : Settings}

lemma Serves.advance (hc : c.Serves s) (count : ℕ) : (c.advance count).Serves s :=
  ⟨hc.settings, hc.generators, hc.endpoints⟩

/-- After an operation the context works under the same settings. -/
lemma Serves.operates {α : Type} {context : α → Context} {op : StateM World α} (hc : c.Serves s)
    (hop : c.Operates context op) (w : World) : (context (op.run w).1).Serves s := by
  obtain ⟨count, hcontext⟩ := hop.advances w
  rw [hcontext]
  exact hc.advance count

/-- Closing a context changes neither its settings nor its endpoints. -/
lemma Serves.close (hc : c.Serves s) (w : World) : (c.close.run w).1.Serves s := by
  unfold Context.close
  split
  · exact ⟨hc.settings, hc.generators, hc.endpoints⟩
  · exact hc

/-- Preparing a payload takes draws, and changes nothing else. -/
lemma exec_prepare (generators : Mapping Discrete) (ratio : Float) (encoding : Encoding)
    (field : String) (data : Bytes) (w : World) :
    exec (prepare generators ratio encoding field data) w =
      ((Payload.prepare generators ratio encoding field data w.draws).1.mapError Failure.payload,
        { w with
          draws := (Payload.prepare generators ratio encoding field data w.draws).2 }) := by
  unfold Action.prepare
  rw [exec_bind_of_ok (exec_get w)]
  dsimp only
  rw [exec_bind_of_ok (exec_modify _ _)]
  cases (Payload.prepare generators ratio encoding field data w.draws).1 <;> rfl

lemma exec_prepareField (hc : c.Serves s) (field : String) (data : Bytes) (w : World) :
    exec (c.prepareField field data) w =
      ((Payload.prepare (Discrete.forFields s.cardinalities) s.compressibility s.encoding field data
          w.draws).1.mapError Failure.payload,
        { w with draws := (Payload.prepare (Discrete.forFields s.cardinalities) s.compressibility
          s.encoding field data w.draws).2 }) := by
  unfold prepareField
  rw [hc.generators, hc.settings, exec_prepare]

lemma exec_prepareFields (hc : c.Serves s) (excluded : String → Bool) (doc : Document)
    (values : List (String × Bytes)) (w : World) :
    exec (c.prepareFields excluded doc values) w =
      ((s.prepareAll excluded doc w.draws values).1.mapError Failure.payload,
        { w with draws := (s.prepareAll excluded doc w.draws values).2 }) := by
  induction values generalizing doc w with
  | nil => rfl
  | cons pair rest ih =>
    obtain ⟨field, data⟩ := pair
    unfold prepareFields Settings.prepareAll
    split
    · exact ih doc w
    · rw [exec_bind, exec_prepareField hc]
      cases Payload.prepare (Discrete.forFields s.cardinalities) s.compressibility s.encoding field
        data w.draws with
      | mk result draws =>
        cases result with
        | error e => rfl
        | ok v => exact ih (doc.set field v) _

/-- A document is built from the settings and the draws. -/
lemma exec_document (hc : c.Serves s) (key : String) (values : Mapping Bytes) (w : World) :
    exec (c.document key values) w =
      ((s.documentOf key values w.draws).1.mapError Failure.payload,
        { w with draws := (s.documentOf key values w.draws).2 }) := by
  unfold document Settings.documentOf
  dsimp only
  rw [hc.settings, exec_bind, exec_prepareFields hc]
  cases (s.prepareAll (s.routing key).has [(idField, .text key)] w.draws values).1 <;> rfl

variable {w : World}

/-- The table that the next operation under some name goes to. -/
def Reaches (c : Context) (name : String) (t : Target) : Prop :=
  ∃ e, c.selected = some e ∧ t = ⟨e.client, c.settings.database, name⟩

lemma Serves.exists_reaches (hc : c.Serves s) (name : String) : ∃ t, c.Reaches name t := by
  obtain ⟨e, he⟩ := exists_selected hc.endpoints
  exact ⟨_, e, he, rfl⟩

lemma Reaches.collection_eq {name : String} {t : Target} (ht : c.Reaches name t) :
    t.collection = name := by
  obtain ⟨e, -, rfl⟩ := ht
  rfl

lemma Reaches.database_eq {name : String} {t : Target} (ht : c.Reaches name t) :
    t.database = c.settings.database := by
  obtain ⟨e, -, rfl⟩ := ht
  rfl

/-- The table is one of the database of the settings. -/
lemma Serves.database_eq (hc : c.Serves s) {name : String} {t : Target} (ht : c.Reaches name t) :
    t.database = s.database := by
  rw [ht.database_eq, hc.settings]

lemma exec_table_of_fault {name : String} {t : Target} {f : Fault} (ht : c.Reaches name t)
    (hf : w.faults.get? (lookUpAddress name) = some f) :
    exec (table c.settings c.selected name) w =
      (.error (.fault f),
        { w.noted (.use t) with cluster := w.cluster.useDatabase t.database }) := by
  obtain ⟨e, he, rfl⟩ := ht
  rw [he]
  exact exec_use_of_fault hf

lemma exec_table_of_no_fault {name : String} {t : Target} (ht : c.Reaches name t)
    (hf : w.faults.get? (lookUpAddress name) = none) :
    exec (table c.settings c.selected name) w = (.ok t, w.lookedUp t) := by
  obtain ⟨e, he, rfl⟩ := ht
  rw [he]
  exact exec_use_of_no_fault hf

lemma exec_table_of_no_faults {name : String} {t : Target} (ht : c.Reaches name t)
    (hf : w.faults = []) : exec (table c.settings c.selected name) w = (.ok t, w.lookedUp t) := by
  refine exec_table_of_no_fault ht ?_
  rw [hf]
  rfl

/-- An insertion whose look-up fails builds no document. -/
lemma exec_build_of_fault {name key : String} {values : Mapping Bytes} {t : Target} {f : Fault}
    (ht : c.Reaches name t) (hf : w.faults.get? (lookUpAddress name) = some f) :
    exec (c.build name key values) w =
      (.error (.fault f),
        { w.noted (.use t) with cluster := w.cluster.useDatabase t.database }) :=
  exec_bind_of_error (exec_table_of_fault ht hf) _

/-- An insertion builds the document of its record for its table. -/
lemma exec_build_of_no_fault {name key : String} {values : Mapping Bytes} {t : Target}
    (hc : c.Serves s) (ht : c.Reaches name t)
    (hf : w.faults.get? (lookUpAddress name) = none) :
    exec (c.build name key values) w =
      (((s.documentOf key values w.draws).1.map fun doc => (t, doc)).mapError Failure.payload,
        { w.lookedUp t with draws := (s.documentOf key values w.draws).2 }) := by
  unfold build
  rw [exec_bind_of_ok (exec_table_of_no_fault ht hf), exec_bind, exec_document hc]
  have hdraws : (w.lookedUp t).draws = w.draws := rfl
  rw [hdraws]
  cases (s.documentOf key values w.draws).1 <;> rfl

lemma exec_build_of_no_faults {name key : String} {values : Mapping Bytes} {t : Target}
    (hc : c.Serves s) (ht : c.Reaches name t) (hf : w.faults = []) :
    exec (c.build name key values) w =
      (((s.documentOf key values w.draws).1.map fun doc => (t, doc)).mapError Failure.payload,
        { w.lookedUp t with draws := (s.documentOf key values w.draws).2 }) := by
  refine exec_build_of_no_fault hc ht ?_
  rw [hf]
  rfl

end Context

end LoadBinding
