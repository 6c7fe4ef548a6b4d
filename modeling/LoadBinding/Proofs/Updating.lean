import LoadBinding.Proofs.Verification

/-!
# Acknowledged updates

An update prepares the fields of its payload one after the other, each with the draws that those
before it have left (`Settings.PreparesTo`), and sets them in the record; the routing fields, which
an insertion does not take from its payload either, are left out.  So after an update that is
acknowledged the record shows the payload (`Settings.Shows`), and nothing else has changed
(`Harness.acknowledged_update_shown`).

One field is left out besides: that of the location where no location is configured
(`Settings.isImmutable_eq`).  There an insertion takes the field from its payload, and an update of
it is acknowledged and not shown.
-/

namespace LoadBinding

open LoadBinding.Text LoadBinding.Action World Batch Collection

/-! ## Payloads that are shown -/

namespace Settings

variable {s : Settings} {excluded : String → Bool} {draws : Draws} {values : Mapping Bytes}
  {field : String} {v : Value} {doc changes : Document}

/-- What a field of a payload is prepared as: the payload that is last given for it, with the draws
that are left when the fields before have been prepared. -/
def PreparesTo (s : Settings) (excluded : String → Bool) (draws : Draws) (values : Mapping Bytes)
    (field : String) (v : Value) : Prop :=
  ∃ before data after, values = before ++ (field, data) :: after ∧ field ∉ Mapping.keys after ∧
    (Payload.prepare (Discrete.forFields s.cardinalities) s.compressibility s.encoding field data
      (s.prepareAll excluded [] draws before).2).1 = .ok v

/-- Which draws are left does not depend on the document that the fields are added to. -/
lemma draws_prepareAll (s : Settings) (excluded : String → Bool) (doc doc' : Document)
    (draws : Draws) (values : List (String × Bytes)) :
    (s.prepareAll excluded doc draws values).2 = (s.prepareAll excluded doc' draws values).2 := by
  induction values generalizing doc doc' draws with
  | nil => rfl
  | cons pair rest ih =>
    obtain ⟨first, data⟩ := pair
    unfold prepareAll
    split
    · exact ih doc doc' draws
    · split
      · rfl
      · exact ih _ _ _

/-- A field that is left out changes nothing for those behind it. -/
lemma PreparesTo.cons_of_excluded (h : s.PreparesTo excluded draws values field v) {first : String}
    (hfirst : excluded first = true) (data : Bytes) :
    s.PreparesTo excluded draws ((first, data) :: values) field v := by
  obtain ⟨before, own, after, rfl, hafter, hprepare⟩ := h
  refine ⟨(first, data) :: before, own, after, rfl, hafter, ?_⟩
  rw [prepareAll, if_pos hfirst]
  exact hprepare

/-- A field that is prepared first leaves its draws to those behind it. -/
lemma PreparesTo.cons_of_prepared {draws' : Draws} (h : s.PreparesTo excluded draws' values field v)
    {first : String} (hfirst : ¬ excluded first = true) {data : Bytes} {v' : Value}
    (hprepared : Payload.prepare (Discrete.forFields s.cardinalities) s.compressibility s.encoding
      first data draws = (.ok v', draws')) :
    s.PreparesTo excluded draws ((first, data) :: values) field v := by
  obtain ⟨before, own, after, rfl, hafter, hprepare⟩ := h
  refine ⟨(first, data) :: before, own, after, rfl, hafter, ?_⟩
  rw [prepareAll, if_neg hfirst, hprepared]
  dsimp only
  rw [draws_prepareAll s excluded _ []]
  exact hprepare

/-- Every field that is not left out is added as what it is prepared as. -/
lemma exists_preparesTo (hfield : field ∈ values.keys) (hexcluded : excluded field = false)
    (h : (s.prepareAll excluded doc draws values).1 = .ok changes) :
    ∃ v, changes.get? field = some v ∧ s.PreparesTo excluded draws values field v := by
  induction values generalizing doc draws with
  | nil => cases hfield
  | cons pair rest ih =>
    obtain ⟨first, data⟩ := pair
    unfold prepareAll at h
    by_cases hrest : field ∈ Mapping.keys rest
    · split at h
      · rename_i hfirst
        obtain ⟨v, hget, hprepares⟩ := ih hrest h
        exact ⟨v, hget, hprepares.cons_of_excluded hfirst data⟩
      · rename_i hfirst
        split at h
        · cases h
        · rename_i hprepared
          obtain ⟨v, hget, hprepares⟩ := ih hrest h
          exact ⟨v, hget, hprepares.cons_of_prepared hfirst hprepared⟩
    · -- The first field is the last mention of the one that is looked for.
      obtain rfl : field = first := (List.mem_cons.mp hfield).resolve_right hrest
      rw [if_neg (by rw [hexcluded]; decide)] at h
      split at h
      · cases h
      · rename_i v _ hprepared
        refine ⟨v, ?_, [], data, rest, rfl, hrest, congrArg Prod.fst hprepared⟩
        rw [get?_prepareAll (.inr hrest) h, Mapping.get?_set, if_pos rfl]

/-- A document shows the payload of an update: every field that does not route holds what it was
prepared as, and every other field but the marker is as it was in the old document. -/
structure Shows (s : Settings) (key : String) (draws : Draws) (values : Mapping Bytes)
    (old new : Document) : Prop where
  prepared : ∀ field ∈ values.keys, (s.routing key).has field = false →
    (s.location.isEmpty = true → field ≠ s.locationField) →
      ∃ v, new.get? field = some v ∧ s.PreparesTo s.isImmutable draws values field v
  others : ∀ field, field ≠ Context.markerField →
    (field ∈ values.keys → (s.routing key).has field = true) → new.get? field = old.get? field

/-- A document shows the payload of an update whose changes are set in it. -/
lemma shows_update (key text : String)
    (h : (s.prepareAll s.isImmutable [(Context.markerField, .text text)] draws values).1 =
      .ok changes) (old : Document) : s.Shows key draws values old (old.update changes) := by
  have hmarker : (Mapping.keys [(Context.markerField, Value.text text)]).Nodup :=
    List.nodup_singleton _
  refine ⟨fun field hfield hrouting hlocation => ?_, fun field hne hrouting => ?_⟩
  · have hexcluded : s.isImmutable field = false := by
      rw [isImmutable_eq s key, hrouting, Bool.false_or, Bool.and_eq_false_imp]
      exact fun hempty => beq_false_of_ne (hlocation hempty)
    obtain ⟨v, hget, hprepares⟩ := exists_preparesTo hfield hexcluded h
    exact ⟨v, Mapping.get?_update_of_get? (nodup_prepareAll hmarker h) hget, hprepares⟩
  · have hchanges : s.Changes values changes := ⟨text, draws, h⟩
    refine Mapping.get?_update_of_not_mem (Mapping.not_mem_keys_of_get?_eq_none ?_)
    refine hchanges.get?_eq_none hne ?_
    by_cases hfield : field ∈ values.keys
    · exact .inl (isImmutable_of_has_routing (hrouting hfield))
    · exact .inr hfield

end Settings

/-! ## Acknowledged updates -/

namespace Harness

variable {name table key : String} {values : Mapping Bytes}

/-- An update that is answered is answered with an outcome. -/
lemma exists_outcome_of_step_update {h : Harness} {answer : Answer}
    (ha : (h.step (.update name table key values)).1 = .ok answer) :
    ∃ outcome, answer = .outcome outcome := by
  obtain ⟨w, active, c, hw⟩ := exists_holds_of_step rfl ha
  rw [step_of_operation rfl hw] at ha
  exact ⟨_, (Except.ok.inj ha).symm⟩

/-- An update that is acknowledged has set in one row a fresh marker and what is prepared of its
payload. -/
lemma sets_of_acknowledged {h : Harness} {w : Worker} {active : Active} {c : Context}
    (hw : h.Holds name w active c) (hc : c.Serves c.settings) {outcome : Outcome Unit}
    (hanswer : (h.step (.update name table key values)).1 = .ok (.outcome outcome))
    (hok : outcome.status = .ok) :
    ∃ changes,
      (c.settings.prepareAll c.settings.isImmutable
        [(Context.markerField, .text (marker (h.world.markers + 1)))] h.world.draws values).1 =
          .ok changes ∧
      Sets c.settings.database table (c.settings.recordFilter key) changes h.world
        (h.step (.update name table key values)).2.world ∧
      (h.step (.update name table key values)).2.world.markers = h.world.markers + 1 := by
  rw [step_of_operation rfl hw] at hanswer ⊢
  have hstatus : ((c.update table key values).run h.world).1.1.status = .ok :=
    (congrArg Outcome.status (Answer.outcome.inj (Except.ok.inj hanswer))).trans hok
  rcases c.update_cases hc table key values h.world with
    ⟨hfailed, -⟩ | ⟨changes, hprepared, hsets, -, hmarkers⟩
  · cases hfailed.symm.trans hstatus
  · exact ⟨changes, hprepared, hsets, hmarkers⟩

/-- Whatever has been done before, and whatever faults the deployment shows: an update that is
acknowledged has changed the first record that fulfils the filter of its key and nothing else, and
the record shows the payload of the update. -/
theorem acknowledged_update_shown {cluster : Cluster} {draws : Draws} {faults : Faults}
    {provider : String} {bags : Mapping Bag} {requests : List Request} {h : Harness}
    (hrun : ((start cluster draws faults provider bags).run requests).2 = h)
    {outcome : Outcome Unit}
    (hanswer : (h.step (.update name table key values)).1 = .ok (.outcome outcome))
    (hok : outcome.status = .ok) :
    ∃ w active c, ∃ (before after : List Row) (row : Row) (doc : Document),
      h.Holds name w active c ∧
      h.world.rows c.settings.database table = before ++ row :: after ∧
      (c.settings.recordFilter key).holds row.doc = .ok true ∧
      (∀ other ∈ before, (c.settings.recordFilter key).holds other.doc = .ok false) ∧
      (h.step (.update name table key values)).2.world.rows c.settings.database table =
        before ++ { row with doc := doc } :: after ∧
      (∀ d t, ¬ (d = c.settings.database ∧ t = table) →
        (h.step (.update name table key values)).2.world.rows d t = h.world.rows d t) ∧
      c.settings.Shows key h.world.draws values row.doc doc := by
  obtain ⟨w, active, c, hw⟩ := exists_holds_of_step rfl hanswer
  obtain ⟨hserves, -⟩ := (hrun ▸ steady_true _ _ _ _ _ _ : h.Steady _ _).serves_of_holds hw
  obtain ⟨changes, hprepared, hsets, -⟩ := sets_of_acknowledged hw hserves hanswer hok
  obtain ⟨before, row, after, hrows, hrow, hbefore, hrows'⟩ := hsets.row
  exact ⟨w, active, c, before, after, row, row.doc.update changes, hw, hrows, hrow, hbefore,
    hrows', hsets.others, Settings.shows_update key _ hprepared row.doc⟩

/-- A worker with a record of two fields. -/
def keepingWorker : Harness :=
  ((start {} {} [] "p" [("a", [("mongodb.shardKey", .text "shard")])]).run
    [.init "a", .insert "a" "t" "1" [("field0", utf8 "old"), ("field1", utf8 "keep")]]).2

/-- One of the fields is updated. -/
theorem acknowledged_update_shown_field0 :
    ∃ outcome,
      (keepingWorker.step (.update "a" "t" "1" [("field0", utf8 "new")])).1 =
        .ok (.outcome outcome) ∧ outcome.status = .ok ∧
      ∃ w active c, ∃ (before after : List Row) (row : Row) (doc : Document),
        keepingWorker.Holds "a" w active c ∧
        (keepingWorker.step (.update "a" "t" "1" [("field0", utf8 "new")])).2.world.rows
          c.settings.database "t" = before ++ { row with doc := doc } :: after ∧
        c.settings.Shows "1" keepingWorker.world.draws [("field0", utf8 "new")] row.doc doc := by
  have hstatus : (keepingWorker.step (.update "a" "t" "1"
      [("field0", utf8 "new")])).1.toOption.bind Answer.status? = some .ok := by
    decide +kernel
  cases hanswer : (keepingWorker.step (.update "a" "t" "1" [("field0", utf8 "new")])).1 with
  | error e =>
    rw [hanswer] at hstatus
    cases hstatus
  | ok answer =>
    obtain ⟨outcome, rfl⟩ := exists_outcome_of_step_update hanswer
    rw [hanswer] at hstatus
    have hok : outcome.status = .ok := Option.some.inj hstatus
    obtain ⟨w, active, c, before, after, row, doc, hw, -, -, -, hrows, -, hshows⟩ :=
      acknowledged_update_shown (h := keepingWorker) rfl hanswer hok
    exact ⟨outcome, rfl, hok, w, active, c, before, after, row, doc, hw, hrows, hshows⟩

/-- A worker without a location, with a record that has a field of that name. -/
def unlocatedWorker : Harness :=
  ((start {} {} [] "p" [("a", [])]).run
    [.init "a", .insert "a" "t" "1" [("location", utf8 "old")]]).2

/-- Where no location is configured an insertion takes the field of the location from its payload;
an update of it is acknowledged, but the record keeps the old value. -/
theorem update_withholds_location :
    (unlocatedWorker.contexts.map fun c => (c.settings.routing "1").has "location") = [false] ∧
      ((unlocatedWorker.world.rows "ycsb" "t").map fun row =>
        (row.doc.get? "location").bind Value.asBytes?) = [some (utf8 "old")] ∧
      (unlocatedWorker.step (.update "a" "t" "1"
        [("location", utf8 "new")])).1.toOption.bind Answer.status? = some .ok ∧
      (unlocatedWorker.contexts.map fun c =>
        (Payload.prepare (Discrete.forFields c.settings.cardinalities) c.settings.compressibility
          c.settings.encoding "location" (utf8 "new")
          unlocatedWorker.world.draws).1.toOption.bind Value.asBytes?) = [some (utf8 "new")] ∧
      (((unlocatedWorker.step (.update "a" "t" "1"
        [("location", utf8 "new")])).2.world.rows "ycsb" "t").map fun row =>
          (row.doc.get? "location").bind Value.asBytes?) = [some (utf8 "old")] := by
  decide +kernel

end Harness

end LoadBinding
