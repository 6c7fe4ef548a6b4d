import LoadBinding.Proofs.Records

/-!
# What records contain

An insertion builds a sound record for its key, and an update keeps a record sound: it leaves the
routing fields alone and writes a marker that no record has.  What a projection returns of the
document of a record is the document of a part of the record.
-/

namespace LoadBinding

open LoadBinding.Text Collection Settings

variable {s : Settings} {key : String} {values : Mapping Bytes} {draws : Draws} {record : Document}

/-! ## Building records -/

/-- A first field that no payload has stays where it is. -/
lemma prepareAll_cons (excluded : String → Bool) {field : String} (hfield : field ∉ values.keys)
    (v : Value) (doc : Document) (draws : Draws) :
    s.prepareAll excluded ((field, v) :: doc) draws values =
      ((s.prepareAll excluded doc draws values).1.map ((field, v) :: ·),
        (s.prepareAll excluded doc draws values).2) := by
  induction values generalizing doc draws with
  | nil => rfl
  | cons pair rest ih =>
    obtain ⟨first, data⟩ := pair
    obtain ⟨hne, hrest⟩ : field ≠ first ∧ field ∉ Mapping.keys rest := by
      simpa [Mapping.keys] using hfield
    unfold prepareAll
    split
    · exact ih hrest doc draws
    · split
      · rfl
      · rw [Mapping.set_cons_of_ne (Ne.symm hne)]
        exact ih hrest _ _

/-- Which fields are excluded matters only as far as payloads have them. -/
lemma prepareAll_congr {excluded excluded' : String → Bool}
    (h : ∀ field ∈ values.keys, excluded field = excluded' field) (doc : Document) (draws : Draws) :
    s.prepareAll excluded doc draws values = s.prepareAll excluded' doc draws values := by
  induction values generalizing doc draws with
  | nil => rfl
  | cons pair rest ih =>
    obtain ⟨first, data⟩ := pair
    have hrest := ih fun field hfield => h field (List.mem_cons_of_mem _ hfield)
    unfold prepareAll
    rw [h first List.mem_cons_self]
    simp only [hrest]

/-- Fields are prepared once each. -/
lemma nodup_prepareAll {excluded : String → Bool} {doc doc' : Document} (hdoc : doc.keys.Nodup)
    (h : (s.prepareAll excluded doc draws values).1 = .ok doc') : doc'.keys.Nodup := by
  induction values generalizing doc draws with
  | nil =>
    cases h
    exact hdoc
  | cons pair rest ih =>
    obtain ⟨first, data⟩ := pair
    unfold prepareAll at h
    split at h
    · exact ih hdoc h
    · split at h
      · cases h
      · exact ih (Mapping.nodup_keys_set hdoc _ _) h

/-- A field that cannot be read is not there. -/
lemma not_mem_keys_of_get? {field : String} (h : record.get? field = none) :
    field ∉ record.keys := by
  intro hmem
  obtain ⟨v, hv⟩ := Mapping.exists_get?_of_mem_keys hmem
  rw [h] at hv
  cases hv

lemma RoutesApart.not_mem_keys_routing (hs : s.RoutesApart) (key : String) :
    idField ∉ ((s.routing key).mapValues Value.text).keys ∧
      Context.markerField ∉ ((s.routing key).mapValues Value.text).keys := by
  rw [Mapping.keys_mapValues]
  exact ⟨fun h => (hs.ne_of_mem h).1 rfl, fun h => (hs.ne_of_mem h).2 rfl⟩

/-- The document that an insertion stores is that of its record. -/
lemma documentOf_eq (hs : s.RoutesApart) (hvalues : idField ∉ values.keys) :
    s.documentOf key values draws =
      ((s.recordFor key values draws).1.map (docFor key), (s.recordFor key values draws).2) := by
  unfold documentOf recordFor
  dsimp only
  rw [prepareAll_cons _ hvalues]
  refine Prod.ext ?_ rfl
  cases (s.prepareAll (s.routing key).has [] draws values).1 with
  | error e => rfl
  | ok prepared =>
    refine congrArg Except.ok ?_
    exact Mapping.update_cons_of_not_mem prepared _ (RoutesApart.not_mem_keys_routing hs key).1

/-- The record of an insertion is sound. -/
lemma sound_recordFor (hs : s.RoutesApart) (hvalues : ∀ field ∈ values.keys, s.IsPayloadField field)
    (h : (s.recordFor key values draws).1 = .ok record) (markers : ℕ) :
    Sound s markers key record := by
  unfold recordFor at h
  dsimp only at h
  cases hprepared : (s.prepareAll (s.routing key).has [] draws values).1 with
  | error e =>
    rw [hprepared] at h
    cases h
  | ok prepared =>
    rw [hprepared] at h
    cases h
    have habsent {field : String} (hvalue : field ∉ values.keys)
        (hrouting : field ∉ ((s.routing key).mapValues Value.text).keys) :
        (prepared.update ((s.routing key).mapValues Value.text)).get? field = none := by
      rw [Mapping.get?_update_of_not_mem hrouting, get?_prepareAll (.inr hvalue) hprepared]
      rfl
    obtain ⟨hid, hmarker⟩ := RoutesApart.not_mem_keys_routing hs key
    refine ⟨fun pair hpair => ?_, not_mem_keys_of_get? ?_, fun v hv => ?_⟩
    · refine Mapping.get?_update_of_get? ?_ ?_
      · rw [Mapping.keys_mapValues]
        exact hs.nodup_keys key
      · rw [Mapping.get?_mapValues, Mapping.get?_of_mem (hs.nodup_keys key) hpair]
        rfl
    · exact habsent (fun hmem => (hvalues _ hmem).ne_idField rfl) hid
    · rw [habsent (fun hmem => (hvalues _ hmem).ne_markerField rfl) hmarker] at hv
      cases hv

/-! ## Changing records -/

section Changes

variable {changes : Document} {markers : ℕ}

/-- What an update sets: neither the key nor a routing field, and the marker as given. -/
structure Marks (s : Settings) (key : String) (count : ℕ) (changes : Document) : Prop where
  nodup : changes.keys.Nodup
  keyless : idField ∉ changes.keys
  routeless : ∀ field ∈ (s.routing key).keys, field ∉ changes.keys
  marker_eq : changes.get? Context.markerField = some (.text (marker count))

lemma marks_changesFor (hs : s.RoutesApart)
    (hvalues : ∀ field ∈ values.keys, s.IsPayloadField field) {count : ℕ}
    (h : (s.changesFor key values count draws).1 = .ok changes) : Marks s key count changes := by
  have hsingle {field : String} (hne : field ≠ Context.markerField) :
      Mapping.get? [(Context.markerField, Value.text (marker count))] field = none := by
    rw [Mapping.get?_cons, if_neg (by simpa using hne), Mapping.get?_nil]
  have hfirst : (Mapping.keys [(Context.markerField, Value.text (marker count))]).Nodup :=
    List.nodup_singleton _
  refine ⟨nodup_prepareAll hfirst h, not_mem_keys_of_get? ?_,
    fun field hfield => not_mem_keys_of_get? ?_, ?_⟩
  · rw [get?_prepareAll (.inr fun hmem => (hvalues _ hmem).ne_idField rfl) h]
    exact hsingle (by decide)
  · rw [get?_prepareAll (.inl (Mapping.has_eq_true_iff.mpr hfield)) h]
    exact hsingle (hs.ne_of_mem hfield).2
  · rw [get?_prepareAll (.inr fun hmem => (hvalues _ hmem).ne_markerField rfl) h]
    rfl

/-- A record that is updated stays sound. -/
lemma Sound.update (hr : Sound s markers key record) (hc : Marks s key (markers + 1) changes) :
    Sound s (markers + 1) key (record.update changes) := by
  refine ⟨fun pair hpair => ?_, not_mem_keys_of_get? ?_, fun v hv => ?_⟩
  · rw [Mapping.get?_update_of_not_mem (hc.routeless _ (List.mem_map_of_mem hpair))]
    exact hr.routed pair hpair
  · rw [Mapping.get?_update_of_not_mem hc.keyless]
    exact Mapping.get?_eq_none_of_not_mem hr.keyless
  · rw [Mapping.get?_update_of_get? hc.nodup hc.marker_eq] at hv
    exact ⟨markers + 1, Nat.succ_pos markers, le_rfl, (Option.some.inj hv).symm⟩

/-- The document of a record is updated with the record. -/
lemma update_docFor (hc : Marks s key markers changes) :
    (docFor key record).update changes = docFor key (record.update changes) :=
  Mapping.update_cons_of_not_mem record _ hc.keyless

/-- An update with a fresh marker changes something. -/
lemma Sound.differs (hr : Sound s markers key record) (hc : Marks s key (markers + 1) changes)
    (hm : MarkersDiffer (markers + 1)) : Collection.differs (docFor key record) changes = true := by
  refine List.any_eq_true.mpr ⟨_, Mapping.mem_of_get? hc.marker_eq, ?_⟩
  dsimp only
  rw [get?_docFor (by decide), Bool.not_eq_true', ← Bool.not_eq_true, Value.same_text]
  cases hold : record.get? Context.markerField with
  | none => exact nofun
  | some v =>
    obtain ⟨i, hpos, hi, rfl⟩ := hr.marked v hold
    exact fun heq => hm i (markers + 1) hpos (Nat.lt_succ_of_le hi) le_rfl (Value.text.inj heq)

end Changes

/-! ## Reading records -/

/-- A projection returns the document of a part of the record. -/
lemma apply_docFor {p : Option Projection} (hp : p ≠ some []) (hr : idField ∉ record.keys) :
    Projection.apply p (docFor key record) = docFor key (restrict (p.map Mapping.has) record) := by
  match p with
  | none => rfl
  | some [] => exact absurd rfl hp
  | some (first :: rest) =>
    unfold Projection.apply docFor
    dsimp only
    rw [List.filter_cons, beq_self_eq_true, Bool.true_or, if_pos rfl]
    refine congrArg (_ :: ·) (List.filter_congr fun pair hpair => ?_)
    have hne : (pair.1 == idField) = false := by
      simpa using fun heq : pair.1 = idField => hr (heq ▸ List.mem_map_of_mem hpair)
    rw [hne, Bool.false_or]

lemma keyless_restrict (hr : idField ∉ record.keys) (included : Option (String → Bool)) :
    idField ∉ (restrict included record).keys := by
  cases included with
  | none => exact hr
  | some included => exact fun hmem => hr ((List.filter_sublist.map Prod.fst).subset hmem)

/-- The fields of a projection. -/
lemma has_ofFields (fields : List String) (field : String) :
    (Projection.ofFields fields).has field = fields.contains field := by
  have hfold (p : Projection) : Mapping.has
      (fields.foldl (fun p field => p.set field Projection.included) p) field =
        (fields.contains field || p.has field) := by
    induction fields generalizing p with
    | nil => rfl
    | cons first rest ih =>
      rw [List.foldl_cons, ih, Mapping.has_set, List.contains_cons]
      cases field == first <;> simp
  exact (hfold []).trans (Bool.or_false _)

/-- A projection that has a field is not empty. -/
lemma ne_nil_of_has {p : Projection} {field : String} (h : p.has field = true) : p ≠ [] := by
  rintro rfl
  cases h

/-- What a scan asks for is a part of the record. -/
lemma scanProjection_ne_nil {fields : Option (List String)} (hfields : fields ≠ some []) :
    fields.map Projection.ofFields ≠ some [] := by
  match fields with
  | none => exact nofun
  | some [] => exact absurd rfl hfields
  | some (first :: rest) =>
    have hfirst : (Projection.ofFields (first :: rest)).has first = true := by
      rw [has_ofFields]
      exact List.contains_iff_mem.mpr List.mem_cons_self
    exact fun heq => ne_nil_of_has hfirst (Option.some.inj heq)

lemma has_scanProjection (fields : Option (List String)) :
    (fields.map Projection.ofFields).map Mapping.has = scanFields fields := by
  cases fields with
  | none => rfl
  | some fields => exact congrArg some (funext fun field => has_ofFields fields field)

lemma has_readProjection (s : Settings) (key : String) (fields : Option (List String)) :
    (s.readProjection fields).map Mapping.has = s.readFields key fields := by
  cases fields with
  | none => rfl
  | some fields =>
    refine congrArg some (funext fun field => ?_)
    dsimp only
    rw [has_routing]
    cases hshard : s.shardKey.isEmpty <;> cases hlocation : s.location.isEmpty <;>
      simp [Mapping.has_set, has_ofFields, Bool.or_comm, Bool.or_assoc,
        Bool.or_left_comm]

/-- A read that asks for some fields, or has routing fields, does so with a projection. -/
lemma readProjection_ne_nil_of_asked {names : List String} (h : names ≠ [] ∨ s.routing key ≠ []) :
    s.readProjection (some names) ≠ some [] := by
  obtain ⟨field, hfield⟩ :
      ∃ field, (names.contains field || (s.routing key).has field) = true := by
    rcases h with h | h
    · obtain ⟨field, hmem⟩ := List.exists_mem_of_ne_nil names h
      exact ⟨field, by rw [List.contains_iff_mem.mpr hmem, Bool.true_or]⟩
    · obtain ⟨pair, hmem⟩ := List.exists_mem_of_ne_nil _ h
      have hpair := Mapping.has_eq_true_iff.mpr (List.mem_map_of_mem (f := Prod.fst) hmem)
      exact ⟨pair.1, by rw [hpair, Bool.or_true]⟩
  intro heq
  have hhas := has_readProjection s key (some names)
  rw [heq] at hhas
  exact Bool.false_ne_true ((congrFun (Option.some.inj hhas) field).trans hfield)

lemma readProjection_ne_nil (s : Settings) (key : String) {fields : Option (List String)}
    (hfields : fields ≠ some []) : s.readProjection fields ≠ some [] := by
  cases fields with
  | none => exact nofun
  | some names =>
    have hasked : names ≠ [] ∨ s.routing key ≠ [] := .inl fun hnil => hfields (congrArg some hnil)
    exact readProjection_ne_nil_of_asked hasked

/-- A scan finds the records from a key on, and puts them in the order of their keys. -/
lemma exists_find {markers : ℕ} {c : Collection} {table : Table}
    (h : Represents s markers c.rows table) (hs : s.RoutesApart) (start : String)
    {p : Option Projection} (hp : p ≠ some []) :
    ∃ found, c.find (s.scanFilter start) p = .ok found ∧
      Cursor.sort found = (table.toList.filter fun entry => !decide (entry.1 < start)).map
        fun entry => docFor entry.1 (restrict (p.map Mapping.has) entry.2) := by
  have hholds : ∀ row ∈ c.rows, (s.scanFilter start).holds row.doc =
      .ok (!decide (Cursor.orderText row.doc < start)) := by
    intro row hrow
    obtain ⟨key, record, rfl, -, hsound⟩ := h.exists_of_mem hrow
    exact hsound.holds_scanFilter hs start
  obtain ⟨entries, hrows, hentries⟩ := h.exists_entries
  have hfound : (c.rows.filter fun row => !decide (Cursor.orderText row.doc < start)).map
      (fun row => Projection.apply p row.doc) =
        (entries.filter fun entry => !decide (entry.1 < start)).map fun entry =>
          docFor entry.1 (restrict (p.map Mapping.has) entry.2) := by
    rw [hrows, rowsFor, List.filter_map, List.map_map]
    refine List.map_congr_left fun entry hentry => apply_docFor hp ?_
    have hget := (hentries.get?_eq entry.1).symm.trans
      (Mapping.get?_of_mem hentries.nodup (List.mem_filter.mp hentry).1)
    exact (h.sound _ _ hget).keyless
  refine ⟨_, ?_, hentries.sort_eq start (restrict (p.map Mapping.has))⟩
  unfold Collection.find
  rw [select_of_forall hholds]
  exact congrArg Except.ok hfound

/-- The record of a document is read as bytes. -/
lemma recordOf_docFor (key : String) (hr : idField ∉ record.keys) :
    Context.recordOf (docFor key record) = record.mapValues Value.toBytes := by
  have hall : record.filter (fun pair => pair.1 != idField) = record := by
    refine List.filter_eq_self.mpr fun pair hpair => ?_
    simpa using fun heq : pair.1 = idField => hr (heq ▸ List.mem_map_of_mem hpair)
  unfold Context.recordOf docFor
  rw [List.filter_cons, if_neg (by simp)]
  exact congrArg (Mapping.mapValues Value.toBytes) hall

end LoadBinding
