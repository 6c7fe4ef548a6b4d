import LoadBinding.Proofs.Collections
import LoadBinding.Proofs.Reference

/-!
# Records as documents

A record is stored as a document that holds its key besides its fields.  The filter of a record asks
for the key and for the routing fields; since every record carries the routing fields of its key
(`Sound`), the filter comes to the key alone.

`Represents` says that the rows of a collection are the records of a table.  It is preserved when a
record is inserted, changed or removed in both.
-/

namespace LoadBinding

open LoadBinding.Text Collection

/-! ## Routing fields -/

namespace Settings

variable {s : Settings}

/-- The routing fields, one by one. -/
lemma RoutesApart.routing_eq (hs : s.RoutesApart) (key : String) :
    s.routing key = (if s.shardKey.isEmpty then [] else [(s.shardKey, key)]) ++
      if s.location.isEmpty then [] else [(s.locationField, s.location)] := by
  unfold routing
  dsimp only
  cases hshard : s.shardKey.isEmpty with
  | true => cases hlocation : s.location.isEmpty <;> rfl
  | false =>
    cases hlocation : s.location.isEmpty with
    | true => rfl
    | false =>
      have hne : s.locationField ≠ s.shardKey := Ne.symm (hs.distinct hshard hlocation)
      rw [if_neg (by decide), if_neg (by decide), if_neg (by decide),
        Mapping.set_cons_of_ne hne]
      rfl

lemma RoutesApart.nodup_keys (hs : s.RoutesApart) (key : String) : (s.routing key).keys.Nodup := by
  rw [hs.routing_eq]
  cases hshard : s.shardKey.isEmpty <;> cases hlocation : s.location.isEmpty <;>
    simp [Mapping.keys]
  exact hs.distinct hshard hlocation

/-- Neither the key nor the marker of a record is a routing field. -/
lemma RoutesApart.ne_of_mem (hs : s.RoutesApart) {key field : String}
    (h : field ∈ (s.routing key).keys) : field ≠ idField ∧ field ≠ Context.markerField := by
  obtain ⟨pair, hpair, rfl⟩ := List.mem_map.mp h
  rw [hs.routing_eq] at hpair
  rcases List.mem_append.mp hpair with hpair | hpair
  · split at hpair
    · cases hpair
    · rename_i hshard
      obtain rfl := List.mem_singleton.mp hpair
      exact hs.shardKey (by simpa using hshard)
  · split at hpair
    · cases hpair
    · rename_i hlocation
      obtain rfl := List.mem_singleton.mp hpair
      exact hs.location (by simpa using hlocation)

/-- Whether a field routes does not depend on the key. -/
lemma has_routing (s : Settings) (key field : String) :
    (s.routing key).has field =
      ((!s.shardKey.isEmpty && field == s.shardKey) ||
        (!s.location.isEmpty && field == s.locationField)) := by
  have hshard : Mapping.has (if s.shardKey.isEmpty then [] else [(s.shardKey, key)]) field =
      (!s.shardKey.isEmpty && field == s.shardKey) := by
    cases s.shardKey.isEmpty with
    | true => rfl
    | false => cases hfield : field == s.shardKey <;> simp [Mapping.has, Mapping.get?_cons, hfield]
  unfold routing
  dsimp only
  cases s.location.isEmpty with
  | true => rw [if_pos rfl, hshard, Bool.not_true, Bool.false_and, Bool.or_false]
  | false =>
    rw [if_neg (by decide), Mapping.has_set, hshard, Bool.not_false, Bool.true_and, Bool.or_comm]

/-- An update leaves alone the routing fields, and the field of the location even where there is no
location. -/
lemma isImmutable_eq (s : Settings) (key field : String) :
    s.isImmutable field =
      ((s.routing key).has field || (s.location.isEmpty && field == s.locationField)) := by
  rw [has_routing]
  unfold isImmutable
  cases s.location.isEmpty <;> simp [Bool.or_comm]

/-- No update changes a routing field. -/
lemma isImmutable_of_has_routing {key field : String} (h : (s.routing key).has field = true) :
    s.isImmutable field = true := by
  rw [isImmutable_eq s key, h, Bool.true_or]

/-- What an update leaves alone of the fields of a payload are the routing fields. -/
lemma IsPayloadField.isImmutable_eq (key : String) {field : String}
    (hfield : s.IsPayloadField field) : s.isImmutable field = (s.routing key).has field := by
  rw [Settings.isImmutable_eq s key]
  cases hlocation : s.location.isEmpty with
  | true =>
    have hne : (field == s.locationField) = false := by
      simpa using hfield.ne_locationField hlocation
    rw [hne, Bool.and_false, Bool.or_false]
  | false => rw [Bool.false_and, Bool.or_false]

/-- The filter of a record asks for its key, and then for its routing fields. -/
lemma RoutesApart.recordFilter_eq (hs : s.RoutesApart) (key : String) :
    s.recordFilter key =
      (idField, .equals (.text key)) :: (s.routing key).mapValues fun v => .equals (.text v) := by
  unfold recordFilter
  rw [hs.routing_eq]
  cases hshard : s.shardKey.isEmpty with
  | true =>
    cases hlocation : s.location.isEmpty with
    | true => rfl
    | false => exact Mapping.set_cons_of_ne (hs.location hlocation).1 [] _ _
  | false =>
    have hkey := (hs.shardKey hshard).1
    cases hlocation : s.location.isEmpty with
    | true => exact Mapping.set_cons_of_ne hkey [] _ _
    | false =>
      have hid := (hs.location hlocation).1
      have hne := Ne.symm (hs.distinct hshard hlocation)
      rw [if_neg (by decide), if_neg (by decide), List.singleton_append, List.foldl_cons,
        List.foldl_cons, List.foldl_nil]
      dsimp only
      rw [Mapping.set_cons_of_ne hkey, Mapping.set_cons_of_ne hid]
      exact congrArg (_ :: ·) (Mapping.set_cons_of_ne hne [] _ _)

/-- The filter of a scan asks for the keys from one on, and then for the location. -/
lemma scanFilter_eq (hs : s.location.isEmpty = false → s.locationField ≠ idField)
    (start : String) :
    s.scanFilter start = (idField, .atLeast start) ::
      if s.location.isEmpty then [] else [(s.locationField, .equals (.text s.location))] := by
  unfold scanFilter
  dsimp only
  cases hlocation : s.location.isEmpty with
  | true => rfl
  | false => exact Mapping.set_cons_of_ne (hs hlocation) [] _ _

lemma RoutesApart.scanFilter_eq (hs : s.RoutesApart) (start : String) :
    s.scanFilter start = (idField, .atLeast start) ::
      if s.location.isEmpty then [] else [(s.locationField, .equals (.text s.location))] :=
  Settings.scanFilter_eq (fun hlocation => (hs.location hlocation).1) start

end Settings

/-! ## Documents of records -/

/-- The document in which a record is stored. -/
def docFor (key : String) (record : Document) : Document :=
  (idField, .text key) :: record

@[simp] lemma keyOf_docFor (key : String) (record : Document) :
    keyOf (docFor key record) = .text key := rfl

@[simp] lemma get?_docFor_idField (key : String) (record : Document) :
    (docFor key record).get? idField = some (.text key) := rfl

lemma get?_docFor {field : String} (h : field ≠ idField) (key : String) (record : Document) :
    (docFor key record).get? field = record.get? field := by
  unfold docFor
  rw [Mapping.get?_cons, if_neg (by simpa using h)]

/-- A record that can stand under a key: it carries the routing fields of the key, does not have the
field of the key, and its marker is one of those given out. -/
structure Sound (s : Settings) (markers : ℕ) (key : String) (record : Document) : Prop where
  routed : ∀ pair ∈ s.routing key, record.get? pair.1 = some (.text pair.2)
  keyless : idField ∉ record.keys
  marked : ∀ v, record.get? Context.markerField = some v →
    ∃ i, 0 < i ∧ i ≤ markers ∧ v = .text (marker i)

section Filters

variable {s : Settings} {markers : ℕ} {key : String} {record : Document}

lemma Sound.mono (h : Sound s markers key record) {markers' : ℕ} (hle : markers ≤ markers') :
    Sound s markers' key record := by
  refine ⟨h.routed, h.keyless, fun v hv => ?_⟩
  obtain ⟨i, hpos, hi, rfl⟩ := h.marked v hv
  exact ⟨i, hpos, hi.trans hle, rfl⟩

/-- A filter asks for its first condition, and then for the others. -/
lemma holds_cons {field : String} {condition : Condition} {rest : Filter} {doc : Document}
    {found : Bool} (h : condition.holds ((doc.get? field).getD .null) = .ok found) :
    Filter.holds ((field, condition) :: rest) doc =
      if found then Filter.holds rest doc else .ok false := by
  rw [Filter.holds, h]
  cases found <;> rfl

/-- A document that fulfils a filter has the texts that the filter asks for. -/
lemma get?_of_holds {f : Filter} {doc : Document} (h : f.holds doc = .ok true)
    {field text : String} (hmem : (field, Condition.equals (.text text)) ∈ f) :
    doc.get? field = some (.text text) := by
  induction f with
  | nil => cases hmem
  | cons pair rest ih =>
    obtain ⟨first, condition⟩ := pair
    unfold Filter.holds at h
    split at h
    · cases h
    · cases h
    · rename_i hfirst
      rcases List.mem_cons.mp hmem with heq | hmem
      · cases heq
        have hsame := (Value.same_text _ _).mp (Except.ok.inj hfirst)
        cases hget : doc.get? field with
        | none =>
          rw [hget] at hsame
          cases hsame
        | some v =>
          rw [hget] at hsame
          exact congrArg some hsame
      · exact ih h hmem

/-- A document fulfils conditions that all ask for values that it has. -/
lemma holds_equals {m : Mapping String} {doc : Document}
    (h : ∀ pair ∈ m, doc.get? pair.1 = some (.text pair.2)) :
    Filter.holds (m.mapValues fun v => Condition.equals (.text v)) doc = .ok true := by
  induction m with
  | nil => rfl
  | cons pair rest ih =>
    have hfirst : (Condition.equals (.text pair.2)).holds ((doc.get? pair.1).getD .null) =
        .ok true := by
      rw [h pair List.mem_cons_self, Option.getD_some]
      exact congrArg Except.ok ((Value.same_text _ _).mpr rfl)
    refine (holds_cons hfirst).trans ?_
    exact ih fun other hother => h other (List.mem_cons_of_mem _ hother)

/-- The filter of a record finds the record of its key, and no other. -/
lemma Sound.holds_recordFilter (h : Sound s markers key record) (hs : s.RoutesApart)
    (wanted : String) :
    (s.recordFilter wanted).holds (docFor key record) = .ok (decide (key = wanted)) := by
  have hfirst : (Condition.equals (.text wanted)).holds
      (((docFor key record).get? idField).getD .null) = .ok (decide (key = wanted)) := by
    refine congrArg Except.ok (Bool.eq_iff_iff.mpr ?_)
    rw [get?_docFor_idField, Option.getD_some, Value.same_text, decide_eq_true_iff]
    exact ⟨Value.text.inj, congrArg Value.text⟩
  rw [hs.recordFilter_eq, holds_cons hfirst]
  split
  · rename_i hkey
    obtain rfl := of_decide_eq_true hkey
    rw [hkey]
    refine holds_equals fun pair hpair => ?_
    rw [get?_docFor (hs.ne_of_mem (List.mem_map_of_mem hpair)).1]
    exact h.routed pair hpair
  · rename_i hkey
    rw [Bool.not_eq_true] at hkey
    rw [hkey]

/-- The filter of a scan finds the records from a key on. -/
lemma Sound.holds_scanFilter (h : Sound s markers key record) (hs : s.RoutesApart)
    (start : String) :
    (s.scanFilter start).holds (docFor key record) = .ok (!decide (key < start)) := by
  have hfirst : (Condition.atLeast start).holds (((docFor key record).get? idField).getD .null) =
      .ok (!decide (key < start)) := rfl
  have hrest : Filter.holds
      (if s.location.isEmpty then [] else [(s.locationField, .equals (.text s.location))])
      (docFor key record) = .ok true := by
    split
    · rfl
    · rename_i hlocation
      rw [Bool.not_eq_true] at hlocation
      refine holds_equals (m := [(s.locationField, s.location)]) fun pair hpair => ?_
      obtain rfl := List.mem_singleton.mp hpair
      rw [get?_docFor (hs.location hlocation).1]
      refine h.routed (s.locationField, s.location) ?_
      rw [hs.routing_eq, hlocation]
      exact List.mem_append_right _ (List.mem_singleton_self _)
  rw [hs.scanFilter_eq, holds_cons hfirst, hrest]
  cases !decide (key < start) <;> rfl

end Filters

/-! ## Rows of a table -/

/-- The rows of some records, in the order in which the records were inserted. -/
def rowsFor (entries : Mapping Document) : List Row :=
  entries.map fun entry => rowOf (docFor entry.1 entry.2)

/-- Some records are those of a table. -/
structure Lists (entries : Mapping Document) (table : Table) : Prop where
  nodup : entries.keys.Nodup
  get?_eq : ∀ key, entries.get? key = table[key]?

namespace Lists

variable {entries : Mapping Document} {table : Table}

lemma empty : Lists [] ∅ :=
  ⟨List.nodup_nil, fun _ => Std.TreeMap.getElem?_emptyc.symm⟩

lemma insert (h : Lists entries table) (key : String) (record : Document) :
    Lists (entries.set key record) (table.insert key record) := by
  refine ⟨Mapping.nodup_keys_set h.nodup key record, fun other => ?_⟩
  rw [Mapping.get?_set, Std.TreeMap.getElem?_insert, h.get?_eq]
  by_cases heq : other = key
  · simp [heq]
  · simp [heq, Ne.symm heq]

lemma erase (h : Lists entries table) (key : String) :
    Lists (entries.erase key) (table.erase key) := by
  refine ⟨(List.filter_sublist.map Prod.fst).nodup h.nodup, fun other => ?_⟩
  rw [Mapping.get?_erase, Std.TreeMap.getElem?_erase, h.get?_eq]
  by_cases heq : other = key
  · simp [heq]
  · simp [heq, Ne.symm heq]

/-- The records of a table are the same in whatever order they were inserted. -/
lemma perm (h : Lists entries table) : entries.Perm table.toList := by
  have hentries : entries.Nodup := List.Nodup.of_map Prod.fst h.nodup
  have htable : table.toList.Nodup := by
    refine Std.TreeMap.distinct_keys_toList.imp fun hne heq => ?_
    rw [heq] at hne
    exact hne Std.ReflCmp.compare_self
  refine (List.perm_ext_iff_of_nodup hentries htable).mpr fun entry => ?_
  have hmem : entry ∈ entries ↔ entries.get? entry.1 = some entry.2 :=
    ⟨Mapping.get?_of_mem h.nodup, Mapping.mem_of_get?⟩
  rw [hmem, h.get?_eq, Std.TreeMap.mem_toList_iff_getElem?_eq_some]

end Lists

/-- The rows of a collection are the records of a table, each of them sound. -/
structure Represents (s : Settings) (markers : ℕ) (rows : List Row) (table : Table) : Prop where
  exists_entries : ∃ entries, rows = rowsFor entries ∧ Lists entries table
  sound : ∀ key record, table[key]? = some record → Sound s markers key record

namespace Represents

variable {s : Settings} {markers : ℕ} {rows : List Row} {table : Table} {key : String}
  {record : Document}

lemma empty (s : Settings) (markers : ℕ) : Represents s markers [] ∅ := by
  refine ⟨⟨[], rfl, .empty⟩, fun key record h => ?_⟩
  rw [Std.TreeMap.getElem?_emptyc] at h
  cases h

lemma mono (h : Represents s markers rows table) {markers' : ℕ} (hle : markers ≤ markers') :
    Represents s markers' rows table :=
  ⟨h.exists_entries, fun key record hget => (h.sound key record hget).mono hle⟩

/-- Every row is that of a sound record. -/
lemma exists_of_mem (h : Represents s markers rows table) {row : Row} (hrow : row ∈ rows) :
    ∃ key record, row = rowOf (docFor key record) ∧ table[key]? = some record ∧
      Sound s markers key record := by
  obtain ⟨entries, rfl, hentries⟩ := h.exists_entries
  obtain ⟨entry, hentry, rfl⟩ := List.mem_map.mp hrow
  have hget := (hentries.get?_eq entry.1).symm.trans (Mapping.get?_of_mem hentries.nodup hentry)
  exact ⟨entry.1, entry.2, rfl, hget, h.sound _ _ hget⟩

/-- The records stay sound when one is written. -/
lemma sound_insert (h : Represents s markers rows table) (hr : Sound s markers key record)
    {other : String} {record' : Document}
    (hget : (table.insert key record)[other]? = some record') :
    Sound s markers other record' := by
  rw [Std.TreeMap.getElem?_insert] at hget
  split at hget
  · rename_i heq
    obtain rfl : key = other := by simpa using heq
    obtain rfl := Option.some.inj hget
    exact hr
  · exact h.sound other record' hget

/-- A key that the table does not have is free. -/
lemma isFresh (h : Represents s markers rows table) (hget : table[key]? = none) :
    IsFresh rows (docFor key record) := by
  refine ⟨key, rfl, List.any_eq_false.mpr fun row hrow => ?_⟩
  obtain ⟨other, record', rfl, hother, -⟩ := h.exists_of_mem hrow
  rw [rowOf, keyOf_docFor, Value.same_text]
  intro heq
  obtain rfl := Value.text.inj heq
  rw [hget] at hother
  cases hother

/-- A key that the table has is taken. -/
lemma taken_eq_true (h : Represents s markers rows table) (hget : table[key]? = some record) :
    taken rows (.text key) = true := by
  obtain ⟨entries, rfl, hentries⟩ := h.exists_entries
  have hentry := Mapping.mem_of_get? ((hentries.get?_eq key).trans hget)
  exact List.any_eq_true.mpr ⟨_, List.mem_map_of_mem hentry, (Value.same_text _ _).mpr rfl⟩

/-- A record is inserted behind the others. -/
lemma insert (h : Represents s markers rows table) (hget : table[key]? = none)
    (hr : Sound s markers key record) :
    Represents s markers (rows ++ [rowOf (docFor key record)]) (table.insert key record) := by
  obtain ⟨entries, rfl, hentries⟩ := h.exists_entries
  have hkey : key ∉ entries.keys := by
    intro hmem
    obtain ⟨v, hv⟩ := Mapping.exists_get?_of_mem_keys hmem
    rw [hentries.get?_eq, hget] at hv
    cases hv
  refine ⟨⟨entries.set key record, ?_, hentries.insert key record⟩, fun _ _ => h.sound_insert hr⟩
  have hset := Mapping.set_append_of_not_mem hkey [] record
  rw [List.append_nil] at hset
  rw [hset, rowsFor, rowsFor, List.map_append]
  rfl

/-- A record that the table does not have is not found. -/
lemma selectFirst_of_none (h : Represents s markers rows table) (hs : s.RoutesApart)
    (hget : table[key]? = none) : selectFirst (s.recordFilter key) rows = .ok none := by
  refine selectFirst_of_forall fun row hrow => ?_
  obtain ⟨other, record, rfl, hother, hsound⟩ := h.exists_of_mem hrow
  refine (hsound.holds_recordFilter hs key).trans (congrArg Except.ok (decide_eq_false ?_))
  rintro rfl
  rw [hget] at hother
  cases hother

/-- A record that the table has is found, and can be changed in its place. -/
lemma selectFirst_of_some (h : Represents s markers rows table) (hs : s.RoutesApart)
    (hget : table[key]? = some record) :
    ∃ before after, selectFirst (s.recordFilter key) rows =
        .ok (some (before, rowOf (docFor key record), after)) ∧
      ∀ record', Sound s markers key record' →
        Represents s markers (before ++ rowOf (docFor key record') :: after)
          (table.insert key record') := by
  obtain ⟨entries, rfl, hentries⟩ := h.exists_entries
  obtain ⟨before, after, hsplit, hset⟩ :=
    Mapping.exists_split ((hentries.get?_eq key).trans hget)
  have hrows (record' : Document) : rowsFor (before ++ (key, record') :: after) =
      rowsFor before ++ rowOf (docFor key record') :: rowsFor after := List.map_append
  refine ⟨rowsFor before, rowsFor after, ?_, fun record' hr => ?_⟩
  · rw [hsplit, hrows]
    refine selectFirst_append (fun row hrow => ?_) ?_
    · obtain ⟨entry, hentry, rfl⟩ := List.mem_map.mp hrow
      have hmem : entry ∈ entries := hsplit ▸ List.mem_append_left _ hentry
      have hother := (hentries.get?_eq entry.1).symm.trans
        (Mapping.get?_of_mem hentries.nodup hmem)
      refine ((h.sound _ _ hother).holds_recordFilter hs key).trans
        (congrArg Except.ok (decide_eq_false ?_))
      -- Keys are distinct, so the records before it have other keys.
      have hnodup := hentries.nodup
      rw [hsplit, Mapping.keys, List.map_append, List.map_cons] at hnodup
      exact fun heq => (List.nodup_append.mp hnodup).2.2 entry.1 (List.mem_map_of_mem hentry) key
        List.mem_cons_self heq
    · exact ((h.sound _ _ hget).holds_recordFilter hs key).trans
        (congrArg Except.ok (decide_eq_true rfl))
  · rw [← hrows, ← hset]
    exact ⟨⟨_, rfl, hentries.insert key record'⟩, fun _ _ => h.sound_insert hr⟩

/-- Removing the record with a key leaves the others. -/
lemma reject (h : Represents s markers rows table) (hs : s.RoutesApart) (key : String) :
    ∃ rows', reject (s.recordFilter key) rows = .ok rows' ∧
      Represents s markers rows' (table.erase key) := by
  have hholds : ∀ row ∈ rows, (s.recordFilter key).holds row.doc =
      .ok ((keyOf row.doc).same (.text key)) := by
    intro row hrow
    obtain ⟨other, record, rfl, -, hsound⟩ := h.exists_of_mem hrow
    refine (hsound.holds_recordFilter hs key).trans (congrArg Except.ok (Bool.eq_iff_iff.mpr ?_))
    rw [decide_eq_true_iff, rowOf, keyOf_docFor, Value.same_text]
    exact ⟨congrArg Value.text, Value.text.inj⟩
  obtain ⟨entries, rfl, hentries⟩ := h.exists_entries
  refine ⟨_, reject_of_forall hholds, ⟨entries.erase key, ?_, hentries.erase key⟩,
    fun other record hget => ?_⟩
  · unfold rowsFor Mapping.erase
    rw [List.filter_map]
    refine congrArg (List.map _) (List.filter_congr fun entry _ => ?_)
    refine congrArg Bool.not (Bool.eq_iff_iff.mpr ?_)
    rw [beq_iff_eq]
    exact (Value.same_text _ _).trans ⟨Value.text.inj, congrArg Value.text⟩
  · rw [Std.TreeMap.getElem?_erase] at hget
    split at hget
    · cases hget
    · exact h.sound other record hget

end Represents

/-! ## Records from a key on -/

/-- Sorting the documents of some records puts them in the order of their keys. -/
lemma Lists.sort_eq {entries : Mapping Document} {table : Table} (h : Lists entries table)
    (start : String) (part : Document → Document) :
    Cursor.sort ((entries.filter fun entry => !decide (entry.1 < start)).map fun entry =>
        docFor entry.1 (part entry.2)) =
      (table.toList.filter fun entry => !decide (entry.1 < start)).map fun entry =>
        docFor entry.1 (part entry.2) := by
  set docs := (entries.filter fun entry => !decide (entry.1 < start)).map fun entry =>
    docFor entry.1 (part entry.2) with hdocs
  set sorted := (table.toList.filter fun entry => !decide (entry.1 < start)).map fun entry =>
    docFor entry.1 (part entry.2) with hsorted
  have hperm : docs.Perm sorted := (h.perm.filter _).map _
  have hmem {doc : Document} (hdoc : doc ∈ sorted) :
      ∃ key record, doc = docFor key (part record) ∧ table[key]? = some record := by
    obtain ⟨entry, hentry, rfl⟩ := List.mem_map.mp hdoc
    exact ⟨entry.1, entry.2, rfl,
      Std.TreeMap.mem_toList_iff_getElem?_eq_some.mp (List.mem_filter.mp hentry).1⟩
  have hsorts := Cursor.sorts_sort docs
  have hordered : sorted.Pairwise fun a b => Cursor.orderText a ≤ Cursor.orderText b := by
    refine List.Pairwise.map _ (fun a b hab => ?_)
      (Std.TreeMap.ordered_keys_toList.sublist List.filter_sublist)
    have hlt : a.1 < b.1 := compareOfLessAndEq_eq_lt.mp hab
    exact le_of_lt hlt
  refine List.Perm.eq_of_pairwise (fun a b ha hb hab hba => ?_) hsorts.ordered hordered
    (hsorts.perm.trans hperm)
  -- Documents with the same key are those of the same record.
  obtain ⟨key, record, rfl, hget⟩ :=
    hmem (hperm.mem_iff.mp (hsorts.perm.mem_iff.mp ha))
  obtain ⟨key', record', rfl, hget'⟩ := hmem hb
  obtain rfl : key = key' := le_antisymm hab hba
  obtain rfl : record = record' := Option.some.inj (hget.symm.trans hget')
  rfl

end LoadBinding
